/-
  Deskhand.Text.Search

  Searching and substituting text.

  One scan serves every substituting pass of the library: from left to right, a `Rule` is tried at
  each position; where it matches it says what to write and how many characters it has used up, and
  elsewhere the character is copied. Matches therefore never overlap and the leftmost one wins.
-/

namespace Deskhand.Text

/-- What a rule does at a position: the text that it writes instead, and the number of characters
that it stands for, or nothing where it does not match. -/
abbrev Rule := List Char → Option (List Char × Nat)

/-- Substitutes with `rule`, the first `skip` characters having been used up by an earlier match. -/
def substituteFrom (rule : Rule) : Nat → List Char → List Char
  | _, [] => []
  | skip + 1, _ :: rest => substituteFrom rule skip rest
  | 0, c :: rest =>
    match rule (c :: rest) with
    | some (text, used) => text ++ substituteFrom rule (used - 1) rest
    | none => c :: substituteFrom rule 0 rest

/-- The text with every leftmost match of `rule` replaced. -/
def substitute (rule : Rule) (s : List Char) : List Char := substituteFrom rule 0 s

/-- The rule that writes `replacement` for the fixed text `target`. -/
def replaceRule (target replacement : List Char) : Rule := fun s =>
  if target.isPrefixOf s then some (replacement, target.length) else none

/-- Every occurrence of a non-empty `target` replaced, from left to right. -/
def replaceAll (target replacement s : List Char) : List Char :=
  substitute (replaceRule target replacement) s

/-- The pieces between the occurrences of `separator`; there is always one. -/
def splitOn (separator : Char) : List Char → List (List Char)
  | [] => [[]]
  | c :: rest =>
    if c = separator then [] :: splitOn separator rest
    else
      match splitOn separator rest with
      | piece :: pieces => (c :: piece) :: pieces
      | [] => [[c]]

/-- Whether `target` occurs in the text. -/
def occursIn (target : List Char) : List Char → Bool
  | [] => target.isEmpty
  | c :: rest => target.isPrefixOf (c :: rest) || occursIn target rest

/-- The text before the first occurrence of `target` and the text after it. -/
def cutAt (target : List Char) : List Char → Option (List Char × List Char)
  | [] => if target.isEmpty then some ([], []) else none
  | c :: rest =>
    if target.isPrefixOf (c :: rest) then some ([], (c :: rest).drop target.length)
    else (cutAt target rest).map fun (before, after) => (c :: before, after)

/-- The text without the copies of `c` at its end. -/
def trimEndOf (c : Char) (s : List Char) : List Char :=
  (s.reverse.dropWhile (· == c)).reverse

/-- ASCII lower case; every other character is left alone. -/
def asciiLower (s : List Char) : List Char := s.map Char.toLower

def asciiLowercase (s : String) : String := String.ofList (asciiLower s.toList)

/-! ## Small facts -/

theorem splitOn_ne_nil (separator : Char) (s : List Char) : splitOn separator s ≠ [] := by
  cases s with
  | nil => simp [splitOn]
  | cons c rest =>
    unfold splitOn
    split
    · simp
    · split <;> simp

/-- The pieces with the separator between them are the text. -/
theorem intercalate_splitOn (separator : Char) (s : List Char) :
    [separator].intercalate (splitOn separator s) = s := by
  induction s with
  | nil => rfl
  | cons c rest ih =>
    unfold splitOn
    split
    · next h =>
      subst h
      obtain ⟨piece, pieces, hp⟩ := List.exists_cons_of_ne_nil (splitOn_ne_nil c rest)
      rw [hp] at ih ⊢
      simpa [List.intercalate] using ih
    · split
      · next piece pieces hp =>
        rw [hp] at ih
        cases pieces <;> simp_all [List.intercalate]
      · next hp => exact absurd hp (splitOn_ne_nil separator rest)

/-- The text before an occurrence, the occurrence and the text after it make up the whole. -/
theorem append_of_cutAt {target s before after : List Char}
    (h : cutAt target s = some (before, after)) : s = before ++ target ++ after := by
  induction s generalizing before with
  | nil =>
    unfold cutAt at h
    split at h <;> simp_all
  | cons c rest ih =>
    unfold cutAt at h
    split at h
    · next hp =>
      obtain ⟨tail, ht⟩ := List.isPrefixOf_iff_prefix.1 hp
      simp only [Option.some.injEq, Prod.mk.injEq] at h
      obtain ⟨rfl, rfl⟩ := h
      rw [← ht]
      simp
    · obtain ⟨⟨front, back⟩, hcut, heq⟩ := Option.map_eq_some_iff.1 h
      simp only [Prod.mk.injEq] at heq
      obtain ⟨rfl, rfl⟩ := heq
      rw [ih hcut]
      simp

@[simp] theorem substituteFrom_nil (rule : Rule) (skip : Nat) :
    substituteFrom rule skip [] = [] := by
  cases skip <;> rfl

end Deskhand.Text
