/-
  Deskhand.Proofs.Text.Pieces

  Pieces between separators.

  Every text is made of pieces with a separator between each two, none of which holds a separator,
  and there is only one way to see it so. Cutting a text at the separators finds these pieces.
-/

import Deskhand.Text.Search

namespace Deskhand.Text

/-- The text is made of the pieces, with a separator between each two and none inside a piece. -/
structure Separated (separator : Char) (s : List Char) (pieces : List (List Char)) : Prop where
  ne_nil : pieces ≠ []
  free : ∀ piece ∈ pieces, separator ∉ piece
  joined : [separator].intercalate pieces = s

theorem notMem_of_mem_splitOn {separator : Char} {s piece : List Char}
    (h : piece ∈ splitOn separator s) : separator ∉ piece := by
  induction s generalizing piece with
  | nil =>
    obtain rfl := List.mem_singleton.1 h
    exact List.not_mem_nil
  | cons c rest ih =>
    unfold splitOn at h
    split at h
    -- A separator begins a new piece.
    · rcases List.mem_cons.1 h with rfl | hlater
      · exact List.not_mem_nil
      · exact ih hlater
    · next hc =>
      split at h
      -- Any other character goes to the piece behind it.
      · next first others hsplit =>
        rw [hsplit] at ih
        rcases List.mem_cons.1 h with rfl | hlater
        · exact List.not_mem_cons_of_ne_of_not_mem (Ne.symm hc) (ih List.mem_cons_self)
        · exact ih (List.mem_cons_of_mem first hlater)
      · obtain rfl := List.mem_singleton.1 h
        exact List.not_mem_cons_of_ne_of_not_mem (Ne.symm hc) List.not_mem_nil

theorem mem_of_mem_splitOn {separator c : Char} {s piece : List Char}
    (h : piece ∈ splitOn separator s) (hc : c ∈ piece) : c ∈ s := by
  induction s generalizing piece with
  | nil =>
    obtain rfl := List.mem_singleton.1 h
    exact hc
  | cons d rest ih =>
    unfold splitOn at h
    split at h
    · rcases List.mem_cons.1 h with rfl | hlater
      · cases hc
      · exact List.mem_cons_of_mem d (ih hlater hc)
    · split at h
      · next first others hsplit =>
        rw [hsplit] at ih
        rcases List.mem_cons.1 h with rfl | hlater
        · rcases List.mem_cons.1 hc with rfl | hmem
          · exact List.mem_cons_self
          · exact List.mem_cons_of_mem d (ih List.mem_cons_self hmem)
        · exact List.mem_cons_of_mem d (ih (List.mem_cons_of_mem first hlater) hc)
      · obtain rfl := List.mem_singleton.1 h
        obtain rfl := List.mem_singleton.1 hc
        exact List.mem_cons_self

theorem separated_splitOn (separator : Char) (s : List Char) :
    Separated separator s (splitOn separator s) where
  ne_nil := splitOn_ne_nil separator s
  free _ := notMem_of_mem_splitOn
  joined := intercalate_splitOn separator s

theorem splitOn_of_notMem {separator : Char} {s : List Char} (h : separator ∉ s) :
    splitOn separator s = [s] := by
  induction s with
  | nil => rfl
  | cons c rest ih =>
    have hc : c ≠ separator := (List.ne_of_not_mem_cons h).symm
    rw [splitOn, if_neg hc, ih (List.not_mem_of_not_mem_cons h)]

theorem splitOn_append {separator : Char} {piece : List Char} (h : separator ∉ piece)
    (rest : List Char) :
    splitOn separator (piece ++ separator :: rest) = piece :: splitOn separator rest := by
  induction piece with
  | nil => rw [List.nil_append, splitOn, if_pos rfl]
  | cons c piece ih =>
    have hc : c ≠ separator := (List.ne_of_not_mem_cons h).symm
    rw [List.cons_append, splitOn, if_neg hc, ih (List.not_mem_of_not_mem_cons h)]

/-- There is no other way to see a text as pieces between separators. -/
theorem Separated.splitOn_eq {separator : Char} {s : List Char} {pieces : List (List Char)}
    (h : Separated separator s pieces) : splitOn separator s = pieces := by
  obtain ⟨hne, hfree, rfl⟩ := h
  induction pieces with
  | nil => exact absurd rfl hne
  | cons piece others ih =>
    have hpiece : separator ∉ piece := hfree piece List.mem_cons_self
    -- The first piece ends at the separator that follows it.
    cases others with
    | nil => simpa [List.intercalate] using splitOn_of_notMem hpiece
    | cons next others =>
      have hothers := ih (List.cons_ne_nil next others) fun other hother =>
        hfree other (List.mem_cons_of_mem piece hother)
      have hjoined : [separator].intercalate (piece :: next :: others) =
          piece ++ separator :: [separator].intercalate (next :: others) := by
        simp [List.intercalate]
      rw [hjoined, splitOn_append hpiece, hothers]

end Deskhand.Text
