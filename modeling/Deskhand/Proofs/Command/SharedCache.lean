/-
  Deskhand.Proofs.Command.SharedCache

  Parsers that share a cache.

  A parser owns nothing but its handle on a cache, so the calls of any number of parsers stand in
  one pool beside the cache that they share. A call takes two atomic steps: it checks the shape of
  its command and looks the cache up; after a miss it reads the arguments and offers them to the
  cache. Between the two anything may happen: other calls begin and take their steps, and the cache
  is cleared.

  Two facts carry over from step to step. The cache is *faithful*: each stored list is the one that
  its command is read to. And each call is *sound*: what it has found out so far is right. They are
  enough because every step only ever adds what a fresh reading gives, so it does not matter whose
  list an insertion hands back, nor whether there was room for the list.
-/

import Deskhand.Command.Parser

namespace Deskhand.Command

/-! ## Faithful caches -/

/-- The argument list that the strategies give for a command whose shape is right. -/
def argumentsOf? (command : String) : Option (List Argument) :=
  (split? command.toList).map fun (_, text) => readArguments text

/-- Every stored list is the one that its command is read to. -/
def Cache.Faithful (cache : Cache) : Prop :=
  ∀ entry ∈ cache.entries, argumentsOf? entry.1 = some entry.2

theorem Cache.faithful_empty (capacity : Option Nat) : (empty capacity).Faithful := by
  intro entry hentry
  simp [empty] at hentry

theorem Cache.faithful_clear (cache : Cache) : cache.clear.Faithful := by
  intro entry hentry
  simp [clear] at hentry

theorem Cache.Faithful.of_get? {cache : Cache} {command : String} {args : List Argument}
    (hcache : cache.Faithful) (hget : cache.get? command = some args) :
    argumentsOf? command = some args := by
  unfold get? at hget
  obtain ⟨front, back, hentries, -⟩ := List.lookup_eq_some_iff.1 hget
  exact hcache (command, args) (by rw [hentries]; simp)

theorem Cache.Faithful.insert_fst {cache : Cache} {command : String} {args : List Argument}
    (hcache : cache.Faithful) (hargs : argumentsOf? command = some args) :
    (cache.insert command args).1 = args := by
  unfold insert
  split
  · next stored hget =>
    -- Another call was faster, and its list is the same reading.
    have hstored := hcache.of_get? hget
    rw [hargs] at hstored
    exact (Option.some.inj hstored).symm
  -- Whether there is room or not, the call gets its own list back.
  · split <;> rfl

theorem Cache.Faithful.insert {cache : Cache} {command : String} {args : List Argument}
    (hcache : cache.Faithful) (hargs : argumentsOf? command = some args) :
    (cache.insert command args).2.Faithful := by
  unfold Cache.insert
  split
  · exact hcache
  · split
    · exact hcache
    · intro entry hentry
      rcases List.mem_append.1 hentry with hold | hnew
      · exact hcache entry hold
      · rw [List.mem_singleton.1 hnew]
        exact hargs

/-! ## A call and its steps -/

/-- How far a call has got. -/
inductive Stage where
  | begun
  | missed (name text : List Char)
  | returned (result : Except PlanError Parsed)

structure Call where
  command : String
  stage : Stage

namespace Call

/-- The next atomic step of a call on the shared cache. -/
def advance (call : Call) (cache : Cache) : Call × Cache :=
  match call.stage with
  | .begun =>
    match split? call.command.toList with
    | none => (⟨call.command, .returned (.error (.commandFormat call.command))⟩, cache)
    | some (name, text) =>
      match cache.get? call.command with
      | some args => (⟨call.command, .returned (.ok ⟨String.ofList name, args⟩)⟩, cache)
      | none => (⟨call.command, .missed name text⟩, cache)
  | .missed name text =>
    let (args, cache) := cache.insert call.command (readArguments text)
    (⟨call.command, .returned (.ok ⟨String.ofList name, args⟩)⟩, cache)
  | .returned _ => (call, cache)

/-- The number of steps after which a call has surely returned. -/
def stepsLeft (call : Call) : Nat :=
  match call.stage with
  | .begun => 2
  | .missed .. => 1
  | .returned _ => 0

/-- What a call has found out so far is what a fresh reading finds out. -/
def Sound (call : Call) : Prop :=
  match call.stage with
  | .begun => True
  | .missed name text => split? call.command.toList = some (name, text)
  | .returned result => result = parseFresh call.command

/-- With nothing in between, the two steps of a call are `parse`. -/
theorem advance_advance (command : String) (cache : Cache) :
    let first := advance ⟨command, .begun⟩ cache
    first.1.advance first.2 =
      (⟨command, .returned (parse cache command).1⟩, (parse cache command).2) := by
  simp only [advance, parse]
  cases split? command.toList with
  | none => rfl
  | some parts =>
    cases hget : cache.get? command with
    | none => rfl
    | some args => rfl

theorem advance_command (call : Call) (cache : Cache) :
    (call.advance cache).1.command = call.command := by
  unfold advance
  split
  · split
    · rfl
    · split <;> rfl
  · rfl
  · rfl

theorem advance_stepsLeft (call : Call) (cache : Cache) :
    (call.advance cache).1.stepsLeft ≤ call.stepsLeft - 1 := by
  obtain ⟨command, stage⟩ := call
  cases stage with
  | begun =>
    simp only [advance]
    split
    · simp [stepsLeft]
    · split <;> simp [stepsLeft]
  | missed name text => simp [advance, stepsLeft]
  | returned result => simp [advance, stepsLeft]

/-- A step of a sound call on a faithful cache keeps both. -/
theorem Sound.advance {call : Call} {cache : Cache} (hcall : call.Sound)
    (hcache : cache.Faithful) :
    (call.advance cache).1.Sound ∧ (call.advance cache).2.Faithful := by
  obtain ⟨command, stage⟩ := call
  cases stage with
  | begun =>
    simp only [Call.advance]
    cases hsplit : split? command.toList with
    | none => exact ⟨by simp [Sound, parseFresh, hsplit], hcache⟩
    | some parts =>
      obtain ⟨name, text⟩ := parts
      cases hget : cache.get? command with
      | none => exact ⟨hsplit, hcache⟩
      | some args =>
        -- A hit stands for the reading that the call would have made itself.
        have hargs : readArguments text = args := by
          simpa [argumentsOf?, hsplit] using hcache.of_get? hget
        exact ⟨by simp [Sound, parseFresh, hsplit, hargs], hcache⟩
  | missed name text =>
    have hsplit : split? command.toList = some (name, text) := hcall
    have hargs : argumentsOf? command = some (readArguments text) := by
      simp [argumentsOf?, hsplit]
    refine ⟨?_, hcache.insert hargs⟩
    simp [Call.advance, Sound, parseFresh, hsplit, hcache.insert_fst hargs]
  | returned result => exact ⟨hcall, hcache⟩

/-- A call whose command has the wrong shape leaves the cache as it is. -/
theorem Sound.advance_cache_of_error {call : Call} {cache : Cache} {error : PlanError}
    (hcall : call.Sound) (herror : parseFresh call.command = .error error) :
    (call.advance cache).2 = cache := by
  have hsplit : split? call.command.toList = none := by
    unfold parseFresh at herror
    split at herror
    · assumption
    · simp at herror
  obtain ⟨command, stage⟩ := call
  cases stage with
  | begun =>
    simp only at hsplit
    simp [Call.advance, hsplit]
  | missed name text =>
    -- A call that has missed went past the check of the shape.
    have hparts : split? command.toList = some (name, text) := hcall
    simp [hparts] at hsplit
  | returned result => rfl

end Call

/-- Reading a command with a faithful cache gives what a fresh reading gives, and leaves a faithful
cache. -/
theorem Cache.Faithful.parse {cache : Cache} (hcache : cache.Faithful) (command : String) :
    (Command.parse cache command).1 = parseFresh command ∧
      (Command.parse cache command).2.Faithful := by
  have hbegun : Call.Sound ⟨command, .begun⟩ := trivial
  have hfirst := hbegun.advance hcache
  have hsecond := hfirst.1.advance hfirst.2
  rw [Call.advance_advance] at hsecond
  exact hsecond

/-- The name of a command is read from its text, whatever a cache holds. -/
theorem exists_parseFresh_of_parse {cache after : Cache} {command : String} {parsed : Parsed}
    (h : Command.parse cache command = (.ok parsed, after)) :
    ∃ fresh, parseFresh command = .ok fresh ∧ fresh.name = parsed.name := by
  unfold Command.parse at h
  unfold parseFresh
  cases hparts : split? command.toList with
  | none => simp [hparts] at h
  | some parts =>
    refine ⟨_, rfl, ?_⟩
    simp only [hparts] at h
    split at h
    · obtain ⟨hparsed, -⟩ := Prod.mk.inj h
      cases hparsed
      rfl
    · obtain ⟨hparsed, -⟩ := Prod.mk.inj h
      cases hparsed
      rfl

/-! ## The pool -/

/-- The shared cache and all calls of its parsers so far, in the order in which they began. -/
structure Pool where
  cache : Cache
  calls : List Call

/-- What may happen next: a parser is called, a call takes its next step, the cache is cleared. -/
inductive Move where
  | begin (command : String)
  | advance (index : Nat)
  | clear
  deriving DecidableEq

namespace Pool

def start (capacity : Option Nat) : Pool := ⟨.empty capacity, []⟩

def step (pool : Pool) : Move → Pool
  | .begin command => { pool with calls := pool.calls ++ [⟨command, .begun⟩] }
  | .advance index =>
    match pool.calls[index]? with
    | none => pool
    | some call =>
      let (call, cache) := call.advance pool.cache
      ⟨cache, pool.calls.set index call⟩
  | .clear => { pool with cache := pool.cache.clear }

def run (pool : Pool) (moves : List Move) : Pool := moves.foldl step pool

/-- The cache is faithful and every call is sound. -/
structure Consistent (pool : Pool) : Prop where
  cache : pool.cache.Faithful
  calls : ∀ call ∈ pool.calls, call.Sound

theorem consistent_start (capacity : Option Nat) : (start capacity).Consistent :=
  ⟨Cache.faithful_empty capacity, by simp [start]⟩

theorem Consistent.step {pool : Pool} (h : pool.Consistent) (move : Move) :
    (pool.step move).Consistent := by
  cases move with
  | begin command =>
    refine ⟨h.cache, fun call hcall => ?_⟩
    rcases List.mem_append.1 hcall with hold | hnew
    · exact h.calls call hold
    · rw [List.mem_singleton.1 hnew]
      exact trivial
  | advance index =>
    simp only [Pool.step]
    split
    · exact h
    · next call hcall =>
      have hnext := (h.calls call (List.mem_of_getElem? hcall)).advance h.cache
      refine ⟨hnext.2, fun other hother => ?_⟩
      rcases List.mem_or_eq_of_mem_set hother with hold | hnew
      · exact h.calls other hold
      · rw [hnew]
        exact hnext.1
  | clear => exact ⟨pool.cache.faithful_clear, h.calls⟩

theorem Consistent.run {pool : Pool} (h : pool.Consistent) (moves : List Move) :
    (pool.run moves).Consistent := by
  induction moves generalizing pool with
  | nil => exact h
  | cons move rest ih => exact ih (h.step move)

/-- A step keeps every call in its place, and takes the call that it advances a step further. -/
theorem step_call {pool : Pool} {index : Nat} {call : Call} (hcall : pool.calls[index]? = some call)
    (move : Move) :
    ∃ next, (pool.step move).calls[index]? = some next ∧ next.command = call.command ∧
      next.stepsLeft ≤ call.stepsLeft - [move].count (.advance index) := by
  have hindex : index < pool.calls.length := (List.getElem?_eq_some_iff.1 hcall).1
  cases move with
  | begin command =>
    refine ⟨call, ?_, rfl, by simp⟩
    simp only [step]
    rw [List.getElem?_append_left hindex, hcall]
  | advance other =>
    by_cases hother : other = index
    -- The call itself goes on.
    · subst hother
      refine ⟨(call.advance pool.cache).1, ?_, call.advance_command _, ?_⟩
      · simp only [step, hcall]
        rw [List.getElem?_set_self hindex]
      · simpa using call.advance_stepsLeft pool.cache
    · refine ⟨call, ?_, rfl, by simp [hother]⟩
      -- Another call goes on, and this one stays where it is.
      simp only [step]
      split
      · exact hcall
      · rw [List.getElem?_set_ne hother, hcall]
  | clear => exact ⟨call, hcall, rfl, by simp⟩

theorem run_call {pool : Pool} {index : Nat} {call : Call} (hcall : pool.calls[index]? = some call)
    (moves : List Move) :
    ∃ next, (pool.run moves).calls[index]? = some next ∧ next.command = call.command ∧
      next.stepsLeft ≤ call.stepsLeft - moves.count (.advance index) := by
  induction moves generalizing pool call with
  | nil => exact ⟨call, hcall, rfl, by simp⟩
  | cons move rest ih =>
    obtain ⟨middle, hmiddle, hcommand, hleft⟩ := step_call hcall move
    obtain ⟨next, hnext, hcommand', hleft'⟩ := ih hmiddle
    refine ⟨next, hnext, hcommand'.trans hcommand, ?_⟩
    -- What one move takes and what the others take add up.
    have hcount : (move :: rest).count (.advance index) =
        [move].count (.advance index) + rest.count (.advance index) := by
      rw [← List.count_append]
      rfl
    omega

end Pool

/-! ## Transparency -/

/-- **A shared cache cannot be seen.** After any moves, whatever its capacity: a call that has
returned has the answer of a parser with a cache of its own; a call that takes two more steps has
returned by then, whatever happens between them; a call whose command has the wrong shape stores
nothing; and each stored list is what its command is read to. -/
theorem Pool.run_transparent (capacity : Option Nat) (moves : List Move) :
    let pool := (Pool.start capacity).run moves
    (∀ call ∈ pool.calls, ∀ result, call.stage = .returned result →
      ∀ own, result = (parse (.empty own) call.command).1) ∧
    (∀ index call, pool.calls[index]? = some call →
      ∀ more, 2 ≤ more.count (.advance index) →
        ∀ own, (pool.run more).calls[index]? =
          some ⟨call.command, .returned (parse (.empty own) call.command).1⟩) ∧
    (∀ index call error own, pool.calls[index]? = some call →
      (parse (.empty own) call.command).1 = .error error →
        (pool.step (.advance index)).cache = pool.cache) ∧
    (∀ command args, (command, args) ∈ pool.cache.entries →
      argumentsOf? command = some args) := by
  intro pool
  have hpool : pool.Consistent := (Pool.consistent_start capacity).run moves
  have hfresh (own : Option Nat) (command : String) :
      (parse (.empty own) command).1 = parseFresh command :=
    ((Cache.faithful_empty own).parse command).1
  refine ⟨?_, ?_, ?_, fun command args hentry => hpool.cache (command, args) hentry⟩
  · intro call hcall result hstage own
    have hsound := hpool.calls call hcall
    simp only [Call.Sound, hstage] at hsound
    rw [hsound, hfresh]
  · intro index call hcall more hmore own
    obtain ⟨⟨command, stage⟩, hnext, hcommand, hleft⟩ := Pool.run_call hcall more
    have hsound := (hpool.run more).calls _ (List.mem_of_getElem? hnext)
    have htwo : call.stepsLeft ≤ 2 := by
      unfold Call.stepsLeft
      split <;> omega
    -- Only a call that has returned has no step left.
    have hnone : Call.stepsLeft ⟨command, stage⟩ = 0 := by omega
    simp only at hcommand
    subst hcommand
    cases stage with
    | begun => simp [Call.stepsLeft] at hnone
    | missed name text => simp [Call.stepsLeft] at hnone
    | returned result =>
      have hresult : result = parseFresh call.command := hsound
      rw [hnext, hresult, hfresh]
  · intro index call error own hcall herror
    rw [hfresh] at herror
    have hsound := hpool.calls call (List.mem_of_getElem? hcall)
    simp only [Pool.step, hcall]
    exact hsound.advance_cache_of_error herror

/-- Two calls miss before either stores its list, and the cache is cleared between the two
insertions: the list of the slower call is stored again. -/
example :
    let moves := [.begin "a(1)", .begin "a(1)", .advance 0, .advance 1, .advance 0, .clear,
      .advance 1]
    ((Pool.start (some 1)).run moves).cache.entries = [("a(1)", readArguments ['1'])] := rfl

end Deskhand.Command
