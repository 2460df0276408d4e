/-
  Deskhand.Proofs.Command.CacheHistory

  What a cache holds after any calls.

  A cache gets any sequence of calls: lists are inserted, keys are looked up, and everything is
  cleared. An insertion *stores* its list if its key has none when it comes, there is room when it
  comes, and the cache is not cleared later on. The cache after a history of calls is described by
  these insertions alone: it holds the list of the one that stores under a key, and nothing else.

  Whether an insertion stores is asked of the cache at an earlier time, so the description explains
  every cache by the caches before it. An insertion that comes to a full cache or to a key that has
  a list leaves no trace: it does not store, and it changes nothing for the insertions behind it.
-/

import Deskhand.Command.Cache
import Mathlib.Data.List.Induction
import Mathlib.Data.Set.Card

namespace Deskhand.Command.Cache

/-! ## Histories -/

/-- A call that a cache may get. -/
inductive Operation where
  | insert (key : String) (args : List Argument)
  | get (key : String)
  | clear
  deriving DecidableEq

/-- The cache after one more call. -/
def step (cache : Cache) : Operation → Cache
  | .insert key args => (cache.insert key args).2
  | .get _ => cache
  | .clear => cache.clear

/-- The cache after a history of calls, the first of which found it empty. -/
def after (capacity : Option Nat) (history : List Operation) : Cache :=
  history.foldl step (empty capacity)

/-- The call at a position stores a list: it inserts the list under a key that has none at that
time, there is room at that time, and the cache is not cleared later on. -/
structure Stores (capacity : Option Nat) (history : List Operation) (i : Nat) (key : String)
    (args : List Argument) : Prop where
  called : history[i]? = some (.insert key args)
  absent : (after capacity (history.take i)).get? key = none
  room : ∀ limit ∈ capacity, (after capacity (history.take i)).size < limit
  kept : ∀ j, i < j → history[j]? ≠ some .clear

theorem after_concat (capacity : Option Nat) (history : List Operation) (op : Operation) :
    after capacity (history ++ [op]) = (after capacity history).step op :=
  List.foldl_concat step (empty capacity) op history

/-! ## What one call does -/

theorem isFull_eq_false_iff (cache : Cache) :
    cache.isFull = false ↔ ∀ limit ∈ cache.capacity, cache.size < limit := by
  simp [isFull, Option.any_eq_false]

/-- An insertion stores its list where the key has none and there is room, and is without effect
everywhere else. -/
theorem insert_snd (cache : Cache) (key : String) (args : List Argument) :
    (cache.insert key args).2 =
      if cache.get? key = none ∧ cache.isFull = false then
        { cache with entries := cache.entries ++ [(key, args)] }
      else cache := by
  unfold insert
  cases hget : cache.get? key with
  | some stored => simp
  | none => cases hfull : cache.isFull <;> simp

theorem get?_insert (cache : Cache) (key other : String) (args : List Argument) :
    (cache.insert key args).2.get? other =
      if key = other ∧ cache.get? key = none ∧ cache.isFull = false then some args
      else cache.get? other := by
  rw [insert_snd]
  by_cases hstores : cache.get? key = none ∧ cache.isFull = false
  · rw [if_pos hstores]
    by_cases hkey : key = other
    · subst hkey
      have hnone : cache.entries.lookup key = none := hstores.1
      rw [if_pos ⟨rfl, hstores⟩, get?, List.lookup_append, hnone, List.lookup_cons_self]
      rfl
    · have hne : (other == key) = false := beq_false_of_ne (Ne.symm hkey)
      rw [if_neg fun h => hkey h.1, get?, get?, List.lookup_append, List.lookup_cons, hne]
      exact Option.or_none
  · rw [if_neg hstores, if_neg fun h => hstores h.2]

@[simp] theorem capacity_step (cache : Cache) (op : Operation) :
    (cache.step op).capacity = cache.capacity := by
  cases op with
  | insert key args =>
    rw [step, insert_snd]
    split <;> rfl
  | get key => rfl
  | clear => rfl

@[simp] theorem capacity_after (capacity : Option Nat) (history : List Operation) :
    (after capacity history).capacity = capacity := by
  induction history using List.reverseRecOn with
  | nil => rfl
  | append_singleton history op ih => rw [after_concat, capacity_step, ih]

/-! ## Which calls store -/

/-- What stored before one more call still stores, unless that call clears the cache. -/
theorem stores_concat_iff_of_lt {capacity : Option Nat} {history : List Operation} {op : Operation}
    {i : Nat} {key : String} {args : List Argument} (hi : i < history.length) :
    Stores capacity (history ++ [op]) i key args ↔
      Stores capacity history i key args ∧ op ≠ .clear := by
  have htake : (history ++ [op]).take i = history.take i :=
    List.take_append_of_le_length (Nat.le_of_lt hi)
  have hcalled : (history ++ [op])[i]? = history[i]? := List.getElem?_append_left hi
  have hlast : (history ++ [op])[history.length]? = some op := List.getElem?_concat_length
  constructor
  · -- The calls in front of the last one are the same in both histories.
    intro h
    refine ⟨⟨hcalled ▸ h.called, htake ▸ h.absent, htake ▸ h.room, fun j hij hclear => ?_⟩, ?_⟩
    · have hj : j < history.length := (List.getElem?_eq_some_iff.1 hclear).1
      exact h.kept j hij (by rw [List.getElem?_append_left hj, hclear])
    · rintro rfl
      exact h.kept history.length hi hlast
  · rintro ⟨h, hop⟩
    refine ⟨hcalled ▸ h.called, htake ▸ h.absent, htake ▸ h.room, fun j hij hclear => ?_⟩
    have hj : j < (history ++ [op]).length := (List.getElem?_eq_some_iff.1 hclear).1
    rw [List.length_append, List.length_singleton] at hj
    rcases Nat.lt_or_eq_of_le (Nat.le_of_lt_succ hj) with hlt | rfl
    · rw [List.getElem?_append_left hlt] at hclear
      exact h.kept j hij hclear
    · exact hop (Option.some.inj (hlast.symm.trans hclear))

theorem stores_concat_length_iff {capacity : Option Nat} {history : List Operation}
    {op : Operation} {key : String} {args : List Argument} :
    Stores capacity (history ++ [op]) history.length key args ↔
      op = .insert key args ∧ (after capacity history).get? key = none ∧
        (after capacity history).isFull = false := by
  have htake : (history ++ [op]).take history.length = history := by simp
  have hlast : (history ++ [op])[history.length]? = some op := List.getElem?_concat_length
  rw [isFull_eq_false_iff, capacity_after]
  constructor
  · rintro ⟨hcalled, habsent, hroom, -⟩
    rw [htake] at habsent hroom
    exact ⟨Option.some.inj (hlast.symm.trans hcalled), habsent, hroom⟩
  · rintro ⟨rfl, habsent, hroom⟩
    -- No call comes behind the last one that could clear the cache.
    refine ⟨hlast, htake.symm ▸ habsent, htake.symm ▸ hroom, fun j hj hclear => ?_⟩
    have hlength := (List.getElem?_eq_some_iff.1 hclear).1
    rw [List.length_append, List.length_singleton] at hlength
    omega

theorem exists_stores_concat_iff {capacity : Option Nat} {history : List Operation}
    {op : Operation} {key : String} {args : List Argument} :
    (∃ i, Stores capacity (history ++ [op]) i key args) ↔
      ((∃ i, Stores capacity history i key args) ∧ op ≠ .clear) ∨
        (op = .insert key args ∧ (after capacity history).get? key = none ∧
          (after capacity history).isFull = false) := by
  constructor
  · rintro ⟨i, h⟩
    have hi : i < (history ++ [op]).length := (List.getElem?_eq_some_iff.1 h.called).1
    rw [List.length_append, List.length_singleton] at hi
    -- The call that stores is one of those before, or the new one.
    rcases Nat.lt_or_eq_of_le (Nat.le_of_lt_succ hi) with hlt | rfl
    · obtain ⟨hbefore, hop⟩ := (stores_concat_iff_of_lt hlt).1 h
      exact .inl ⟨⟨i, hbefore⟩, hop⟩
    · exact .inr (stores_concat_length_iff.1 h)
  · rintro (⟨⟨i, h⟩, hop⟩ | hlast)
    · have hi : i < history.length := (List.getElem?_eq_some_iff.1 h.called).1
      exact ⟨i, (stores_concat_iff_of_lt hi).2 ⟨h, hop⟩⟩
    · exact ⟨history.length, stores_concat_length_iff.2 hlast⟩

/-- The list that a key has is the one that a call has stored under it. -/
theorem get?_after_eq_some_iff {capacity : Option Nat} {history : List Operation} {key : String}
    {args : List Argument} :
    (after capacity history).get? key = some args ↔ ∃ i, Stores capacity history i key args := by
  induction history using List.reverseRecOn with
  | nil =>
    refine ⟨fun h => ?_, fun ⟨i, h⟩ => ?_⟩
    · rw [after, List.foldl_nil, get?_empty] at h
      cases h
    · cases h.called
  | append_singleton history op ih =>
    rw [after_concat, exists_stores_concat_iff, ← ih]
    cases op with
    | insert other list =>
      rw [step, get?_insert]
      -- The insertion concerns the key only if it stores, and then the key had no list before.
      by_cases hstores : other = key ∧ (after capacity history).get? other = none ∧
          (after capacity history).isFull = false
      · obtain ⟨rfl, habsent, hroom⟩ := hstores
        simp [habsent, hroom]
      · rw [if_neg hstores]
        refine ⟨fun h => .inl ⟨h, nofun⟩, ?_⟩
        rintro (⟨h, -⟩ | ⟨heq, habsent, hroom⟩)
        · exact h
        · obtain ⟨rfl, rfl⟩ := Operation.insert.inj heq
          exact absurd ⟨rfl, habsent, hroom⟩ hstores
    | get other => simp [step]
    | clear => simp [step, get?_clear]

/-- What is stored at the end was stored already at any time behind the call. -/
theorem Stores.take {capacity : Option Nat} {history : List Operation} {i j : Nat} {key : String}
    {args : List Argument} (h : Stores capacity history i key args) (hij : i < j) :
    Stores capacity (history.take j) i key args := by
  have htake : (history.take j).take i = history.take i := by
    rw [List.take_take, Nat.min_eq_left (Nat.le_of_lt hij)]
  refine ⟨?_, htake.symm ▸ h.absent, htake.symm ▸ h.room, fun k hk hclear => ?_⟩
  · rw [List.getElem?_take_of_lt hij, h.called]
  · have hkj : k < j := by
      have hlength := (List.getElem?_eq_some_iff.1 hclear).1
      rw [List.length_take] at hlength
      omega
    rw [List.getElem?_take_of_lt hkj] at hclear
    exact h.kept k hk hclear

theorem Stores.not_lt {capacity : Option Nat} {history : List Operation} {i j : Nat} {key : String}
    {args list : List Argument} (h : Stores capacity history i key args)
    (hlater : Stores capacity history j key list) : ¬ i < j := by
  intro hij
  -- By then the key has a list, so a later insertion finds one and does not store.
  have hget := get?_after_eq_some_iff.2 ⟨i, h.take hij⟩
  rw [hlater.absent] at hget
  cases hget

/-! ## How many lists there are -/

/-- Each key has one list, and there are no more than the capacity allows. -/
structure Bounded (cache : Cache) : Prop where
  keys : (cache.entries.map Prod.fst).Nodup
  size : ∀ limit ∈ cache.capacity, cache.size ≤ limit

theorem bounded_empty (capacity : Option Nat) : (empty capacity).Bounded :=
  ⟨List.nodup_nil, fun limit _ => Nat.zero_le limit⟩

theorem mem_keys_iff (cache : Cache) (key : String) :
    key ∈ cache.entries.map Prod.fst ↔ cache.get? key ≠ none := by
  rw [get?, Ne, List.lookup_eq_none_iff]
  simp

theorem Bounded.step {cache : Cache} (h : cache.Bounded) (op : Operation) :
    (cache.step op).Bounded := by
  cases op with
  | insert key args =>
    rw [Cache.step, insert_snd]
    split
    · next hstores =>
      obtain ⟨habsent, hroom⟩ := hstores
      have hnew : key ∉ cache.entries.map Prod.fst := fun hmem =>
        (cache.mem_keys_iff key).1 hmem habsent
      refine ⟨?_, fun limit hlimit => ?_⟩
      · rw [List.map_append, List.map_singleton, ← List.concat_eq_append]
        exact List.Nodup.concat hnew h.keys
      · have hlt := cache.isFull_eq_false_iff.1 hroom limit hlimit
        simpa [Cache.size] using hlt
    · exact h
  | get key => exact h
  | clear => exact ⟨List.nodup_nil, fun limit _ => Nat.zero_le limit⟩

theorem bounded_after (capacity : Option Nat) (history : List Operation) :
    (after capacity history).Bounded := by
  induction history using List.reverseRecOn with
  | nil => exact bounded_empty capacity
  | append_singleton history op ih =>
    rw [after_concat]
    exact ih.step op

/-- The size is the number of keys that are found. -/
theorem Bounded.size_eq {cache : Cache} (h : cache.Bounded) :
    cache.size = {key | cache.get? key ≠ none}.ncard := by
  have hkeys :
      {key | cache.get? key ≠ none} = ((cache.entries.map Prod.fst).toFinset : Set String) := by
    ext key
    rw [List.coe_toFinset]
    exact (cache.mem_keys_iff key).symm
  rw [hkeys, Set.ncard_coe_finset, List.toFinset_card_of_nodup h.keys, List.length_map,
    Cache.size]

/-! ## The cache as a map -/

/-- An insertion hands back what its key has from now on, or else its own list. -/
theorem insert_fst (cache : Cache) (key : String) (args : List Argument) :
    (cache.insert key args).1 = ((cache.insert key args).2.get? key).getD args := by
  unfold insert
  cases hget : cache.get? key with
  | some stored => simp [hget]
  | none =>
    cases hfull : cache.isFull with
    | true => simp [hget]
    | false =>
      have hself := get?_insert_self hget hfull args
      rw [insert, hget, hfull] at hself
      rw [if_neg Bool.false_ne_true] at hself ⊢
      rw [hself]
      rfl

/-- **The first write wins.** After any calls, whatever the capacity: a key has the list of the
first insertion that stores under it, and no list if there is none; the size is the number of keys
with such an insertion and never above the capacity; and one more insertion hands back what is
stored for its key after it, or its own list if nothing is. -/
theorem after_firstWriteWins (capacity : Option Nat) (history : List Operation) :
    let cache := after capacity history
    (∀ key args, cache.get? key = some args ↔
      ∃ i, Stores capacity history i key args ∧
        ∀ j < i, ∀ list, ¬ Stores capacity history j key list) ∧
    (∀ key, cache.get? key = none ↔ ∀ i args, ¬ Stores capacity history i key args) ∧
    cache.size = {key | ∃ i args, Stores capacity history i key args}.ncard ∧
    (∀ limit ∈ capacity, cache.size ≤ limit) ∧
    ∀ key args, (cache.insert key args).1 = ((cache.insert key args).2.get? key).getD args := by
  intro cache
  have hbounded : cache.Bounded := bounded_after capacity history
  have hstored (key : String) (args : List Argument) :
      cache.get? key = some args ↔ ∃ i, Stores capacity history i key args :=
    get?_after_eq_some_iff
  have hfound (key : String) :
      cache.get? key ≠ none ↔ ∃ i args, Stores capacity history i key args := by
    rw [Option.ne_none_iff_exists', exists_comm]
    exact exists_congr fun args => hstored key args
  refine ⟨fun key args => ?_, fun key => ?_, ?_, ?_, cache.insert_fst⟩
  · rw [hstored]
    -- The call that stores is the only one, so none stores before it.
    refine ⟨fun ⟨i, h⟩ => ⟨i, h, fun j hj list hearlier => hearlier.not_lt h hj⟩, ?_⟩
    rintro ⟨i, h, -⟩
    exact ⟨i, h⟩
  · have hnone := not_congr (hfound key)
    rw [not_not] at hnone
    simpa using hnone
  · rw [hbounded.size_eq]
    exact congrArg Set.ncard (Set.ext hfound)
  · have hlimit := hbounded.size
    rwa [capacity_after] at hlimit

/-- A refused insertion leaves no trace: once the cache is cleared, there is room for its key. -/
example :
    let history := [.insert "a()" [], .insert "b()" [], .clear, .insert "b()" [.text "late"]]
    (after (some 1) (history.take 2)).get? "b()" = none ∧
      (after (some 1) history).get? "b()" = some [.text "late"] := ⟨rfl, rfl⟩

end Deskhand.Command.Cache
