/-
  Deskhand.Proofs.Text.TrailingCommas

  What the repair of trailing commas does.

  The repair is a substitution, but it obeys a plain recursion: a comma that is followed, blanks
  aside, by a closer goes, and so do the blanks at the front of what the repair makes of the rest.
  Every other character stays. Two consequences carry all uses of it. A text in which no comma
  stands before a closer is left as it is, and only such a text is; and at a character that is
  neither blank nor a comma the repair of a text falls into two parts.
-/

import Deskhand.Proofs.Text.Substitution
import Deskhand.Text.Commas

namespace Deskhand.Text

/-- Whether the first character of a text that is not blank is a closer. -/
def closesNext (s : List Char) : Bool := (trimLeft s).head?.any isCloser

/-- Whether a comma of the text is followed, blanks aside, by a closer. -/
def HoldsTrailingComma (s : List Char) : Prop :=
  ∃ before rest, s = before ++ ',' :: rest ∧ closesNext rest = true

/-! ## The recursion -/

theorem exists_of_closesNext {s : List Char} (h : closesNext s = true) :
    ∃ pad closer after, s = pad ++ closer :: after ∧ (∀ c ∈ pad, isBlank c = true) ∧
      isCloser closer = true ∧ trimLeft s = closer :: after := by
  obtain ⟨closer, hhead, hcloser⟩ := (Option.any_eq_true _ _).1 h
  obtain ⟨after, hafter⟩ : ∃ after, trimLeft s = closer :: after := by
    cases htrim : trimLeft s with
    | nil =>
      rw [htrim] at hhead
      cases hhead
    | cons c after =>
      rw [htrim] at hhead
      obtain rfl : c = closer := Option.some.inj hhead
      exact ⟨after, rfl⟩
  refine ⟨s.takeWhile isBlank, closer, after, ?_, ?_, hcloser, hafter⟩
  · rw [← hafter]
    exact (List.takeWhile_append_dropWhile (p := isBlank) (l := s)).symm
  · exact List.all_eq_true.1 List.all_takeWhile

theorem isBlank_of_isCloser {c : Char} (h : isCloser c = true) : isBlank c = false := by
  simp only [isCloser, Bool.or_eq_true, beq_iff_eq] at h
  rcases h with rfl | rfl <;> rfl

theorem ne_comma_of_isCloser {c : Char} (h : isCloser c = true) : c ≠ ',' := by
  rintro rfl
  exact absurd h (by decide)

theorem ne_comma_of_isBlank {c : Char} (h : isBlank c = true) : c ≠ ',' := by
  rintro rfl
  exact absurd h (by decide)

theorem trailingComma_eq_none {c : Char} {rest : List Char}
    (h : ¬ (c = ',' ∧ closesNext rest = true)) : trailingComma (c :: rest) = none := by
  by_cases hc : c = ','
  · subst hc
    have hrest : closesNext rest = false := by simpa using h
    rw [closesNext] at hrest
    rw [trailingComma]
    split
    · next closer after htrim =>
      rw [htrim] at hrest
      have hcloser : isCloser closer = false := hrest
      rw [if_neg (by simp [hcloser])]
    · rfl
  · rw [trailingComma]
    intro other heq
    exact hc (List.cons.inj heq).1

theorem dropTrailingCommas_cons_of_not {c : Char} {rest : List Char}
    (h : ¬ (c = ',' ∧ closesNext rest = true)) :
    dropTrailingCommas (c :: rest) = c :: dropTrailingCommas rest := by
  show substituteFrom trailingComma 0 (c :: rest) = _
  rw [substituteFrom, trailingComma_eq_none h]
  rfl

theorem dropTrailingCommas_cons {c : Char} (hc : c ≠ ',') (rest : List Char) :
    dropTrailingCommas (c :: rest) = c :: dropTrailingCommas rest :=
  dropTrailingCommas_cons_of_not fun h => hc h.1

theorem dropTrailingCommas_append_of_notMem {s : List Char} (h : ',' ∉ s) (rest : List Char) :
    dropTrailingCommas (s ++ rest) = s ++ dropTrailingCommas rest := by
  induction s with
  | nil => rfl
  | cons c s ih =>
    have hc : c ≠ ',' := fun heq => h (heq ▸ List.mem_cons_self)
    have hs := ih fun hmem => h (List.mem_cons_of_mem c hmem)
    rw [List.cons_append, dropTrailingCommas_cons hc, hs, List.cons_append]

/-- A comma before a closer goes, together with the blanks between them. -/
theorem dropTrailingCommas_comma {rest : List Char} (h : closesNext rest = true) :
    dropTrailingCommas (',' :: rest) = trimLeft (dropTrailingCommas rest) := by
  obtain ⟨pad, closer, after, rfl, hpad, hcloser, htrim⟩ := exists_of_closesNext h
  have hlength : (pad ++ closer :: after).length - after.length = (pad ++ [closer]).length := by
    simp only [List.length_append, List.length_cons, List.length_nil]
    omega
  have hsplit : pad ++ closer :: after = (pad ++ [closer]) ++ after := by simp
  -- The match uses up the blanks and the closer, and writes the closer.
  have hleft : dropTrailingCommas (',' :: (pad ++ closer :: after)) =
      closer :: dropTrailingCommas after := by
    have hrule : trailingComma (',' :: (pad ++ closer :: after)) =
        some ([closer], 1 + (pad ++ [closer]).length) := by
      rw [trailingComma, htrim]
      simp only [hlength, hcloser, if_true]
    show substituteFrom trailingComma 0 (',' :: (pad ++ closer :: after)) = _
    rw [substituteFrom, hrule, hsplit]
    simp only [Nat.add_sub_cancel_left, substituteFrom_append]
    rfl
  -- Neither the blanks nor the closer are commas, so the rest is kept up to there.
  have hcomma : ',' ∉ pad ++ [closer] := by
    intro hmem
    rcases List.mem_append.1 hmem with hin | hin
    · exact ne_comma_of_isBlank (hpad ',' hin) rfl
    · exact ne_comma_of_isCloser hcloser (List.mem_singleton.1 hin).symm
  have hright : dropTrailingCommas (pad ++ closer :: after) =
      pad ++ closer :: dropTrailingCommas after := by
    rw [hsplit, dropTrailingCommas_append_of_notMem hcomma]
    simp
  rw [hleft, hright, trimLeft_append_of_blank hpad]
  exact (List.dropWhile_cons_of_neg (by simp [isBlank_of_isCloser hcloser])).symm

/-! ## Texts that are left alone -/

theorem length_trimLeft_le (s : List Char) : (trimLeft s).length ≤ s.length :=
  (List.dropWhile_suffix isBlank).length_le

theorem length_dropTrailingCommas_le (s : List Char) :
    (dropTrailingCommas s).length ≤ s.length := by
  induction s with
  | nil => exact Nat.le_refl 0
  | cons c rest ih =>
    by_cases h : c = ',' ∧ closesNext rest = true
    · obtain ⟨rfl, hrest⟩ := h
      have htrim := length_trimLeft_le (dropTrailingCommas rest)
      rw [dropTrailingCommas_comma hrest, List.length_cons]
      omega
    · rw [dropTrailingCommas_cons_of_not h, List.length_cons, List.length_cons]
      omega

theorem HoldsTrailingComma.cons {s : List Char} (h : HoldsTrailingComma s) (c : Char) :
    HoldsTrailingComma (c :: s) := by
  obtain ⟨before, rest, rfl, hrest⟩ := h
  exact ⟨c :: before, rest, rfl, hrest⟩

theorem dropTrailingCommas_of_not {s : List Char} (h : ¬ HoldsTrailingComma s) :
    dropTrailingCommas s = s := by
  induction s with
  | nil => rfl
  | cons c rest ih =>
    -- A comma that goes here would be a trailing one.
    have hhere : ¬ (c = ',' ∧ closesNext rest = true) := by
      rintro ⟨rfl, hrest⟩
      exact h ⟨[], rest, rfl, hrest⟩
    have hlater : ¬ HoldsTrailingComma rest := fun hrest => h (hrest.cons c)
    rw [dropTrailingCommas_cons_of_not hhere, ih hlater]

theorem length_dropTrailingCommas_lt {s : List Char} (h : HoldsTrailingComma s) :
    (dropTrailingCommas s).length < s.length := by
  obtain ⟨before, rest, rfl, hrest⟩ := h
  induction before with
  | nil =>
    have htrim := length_trimLeft_le (dropTrailingCommas rest)
    have hle := length_dropTrailingCommas_le rest
    rw [List.nil_append, dropTrailingCommas_comma hrest, List.length_cons]
    omega
  | cons c before ih =>
    by_cases hhere : c = ',' ∧ closesNext (before ++ ',' :: rest) = true
    · obtain ⟨rfl, hnext⟩ := hhere
      have htrim := length_trimLeft_le (dropTrailingCommas (before ++ ',' :: rest))
      rw [List.cons_append, dropTrailingCommas_comma hnext, List.length_cons]
      omega
    · rw [List.cons_append, dropTrailingCommas_cons_of_not hhere, List.length_cons,
        List.length_cons]
      omega

/-- The repair changes a text exactly when there is a trailing comma in it. -/
theorem dropTrailingCommas_eq_self_iff (s : List Char) :
    dropTrailingCommas s = s ↔ ¬ HoldsTrailingComma s := by
  constructor
  · intro h hholds
    have hlt := length_dropTrailingCommas_lt hholds
    rw [h] at hlt
    exact Nat.lt_irrefl _ hlt
  · exact dropTrailingCommas_of_not

instance (s : List Char) : Decidable (HoldsTrailingComma s) :=
  if h : dropTrailingCommas s = s then .isFalse ((dropTrailingCommas_eq_self_iff s).1 h)
  else .isTrue (Classical.byContradiction fun hnot => h (dropTrailingCommas_of_not hnot))

/-! ## Repairing in parts -/

/-- What a text goes on with is decided at the first character that is not blank. -/
theorem closesNext_append_cons {c : Char} (hc : isBlank c = false) (s rest : List Char) :
    closesNext (s ++ c :: rest) = closesNext (s ++ [c]) := by
  have htrim : ∀ t, trimLeft (s ++ c :: t) = trimLeft s ++ c :: t :=
    dropWhile_append_cons hc s
  rw [closesNext, closesNext, htrim, htrim]
  cases trimLeft s <;> rfl

/-- A character that is neither blank nor a comma is kept, and what stands before it does not
depend on what comes behind it. -/
theorem exists_dropTrailingCommas_append {c : Char} (hblank : isBlank c = false) (hcomma : c ≠ ',')
    (s : List Char) :
    ∃ kept, ∀ rest, dropTrailingCommas (s ++ c :: rest) = kept ++ c :: dropTrailingCommas rest := by
  induction s with
  | nil => exact ⟨[], fun rest => dropTrailingCommas_cons hcomma rest⟩
  | cons d s ih =>
    obtain ⟨kept, hkept⟩ := ih
    -- Whether a comma goes is settled before the character or at it.
    by_cases h : d = ',' ∧ closesNext (s ++ [c]) = true
    · obtain ⟨rfl, hnext⟩ := h
      refine ⟨trimLeft kept, fun rest => ?_⟩
      have hclose : closesNext (s ++ c :: rest) = true := by
        rw [closesNext_append_cons hblank, hnext]
      rw [List.cons_append, dropTrailingCommas_comma hclose, hkept]
      exact dropWhile_append_cons hblank kept _
    · refine ⟨d :: kept, fun rest => ?_⟩
      have hkeep : ¬ (d = ',' ∧ closesNext (s ++ c :: rest) = true) := by
        rwa [closesNext_append_cons hblank]
      rw [List.cons_append, dropTrailingCommas_cons_of_not hkeep, hkept, List.cons_append]

/-- The repair falls into parts behind a character that is neither blank nor a comma. -/
theorem dropTrailingCommas_append {c : Char} (hblank : isBlank c = false) (hcomma : c ≠ ',')
    (s rest : List Char) :
    dropTrailingCommas (s ++ [c] ++ rest) =
      dropTrailingCommas (s ++ [c]) ++ dropTrailingCommas rest := by
  obtain ⟨kept, hkept⟩ := exists_dropTrailingCommas_append hblank hcomma s
  rw [List.append_assoc, List.singleton_append, hkept rest, hkept []]
  simp [dropTrailingCommas, substitute]

end Deskhand.Text
