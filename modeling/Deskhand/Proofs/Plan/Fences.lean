/-
  Deskhand.Proofs.Plan.Fences

  Fences and the array between them.

  What the fence pass and the search for the array do to an answer that is put together from parts.
  The pass of an opening fence over its tag is greedy and may go on into the text behind it, so an
  interior is known only up to a piece at its front; what it has from a bracket or a backtick on is
  never lost.
-/

import Deskhand.Plan.Extraction
import Deskhand.Proofs.Text.Substitution

namespace Deskhand.Plan

open Deskhand.Text

/-! ## The opening of a block -/

/-- A character at which the pass over the tag and the blanks behind it stops. -/
structure EndsTag (c : Char) : Prop where
  word : isWordChar c = false
  dash : c ≠ '-'
  blank : isBlank c = false

theorem endsTag_backtick : EndsTag '\x60' := ⟨by decide, by decide, by decide⟩

theorem endsTag_bracket : EndsTag '[' := ⟨by decide, by decide, by decide⟩

theorem afterTag_suffix (s : List Char) : afterTag s <:+ s := by
  -- Both loops leave an end of the text, and one more line feed may go.
  have hblanks : (s.dropWhile fun c => isWordChar c || c == '-').dropWhile
      (fun c => isBlank c && c != '\n') <:+ s :=
    (List.dropWhile_suffix _).trans (List.dropWhile_suffix _)
  unfold afterTag
  simp only
  split
  · next rest heq =>
    rw [heq] at hblanks
    exact (List.suffix_cons '\n' rest).trans hblanks
  · exact hblanks

theorem afterTag_append {c : Char} (h : EndsTag c) (s rest : List Char) :
    afterTag (s ++ c :: rest) = afterTag s ++ c :: rest := by
  obtain ⟨hword, hdash, hblank⟩ := h
  have htag : (s ++ c :: rest).dropWhile (fun d => isWordChar d || d == '-') =
      s.dropWhile (fun d => isWordChar d || d == '-') ++ c :: rest :=
    dropWhile_append_cons (by simp [hword, hdash]) s rest
  have hblanks (untagged : List Char) :
      (untagged ++ c :: rest).dropWhile (fun d => isBlank d && d != '\n') =
        untagged.dropWhile (fun d => isBlank d && d != '\n') ++ c :: rest :=
    dropWhile_append_cons (by simp [hblank]) untagged rest
  have hfeed : c ≠ '\n' := by
    rintro rfl
    exact absurd hblank (by decide)
  simp only [afterTag, htag, hblanks]
  generalize (s.dropWhile fun d => isWordChar d || d == '-').dropWhile
    (fun d => isBlank d && d != '\n') = unblanked
  -- One line feed behind the blanks is taken too; the character itself is none.
  cases unblanked with
  | nil => simp [hfeed]
  | cons d more => by_cases hd : d = '\n' <;> simp [hd]

/-- The pass over the tag takes a piece from the front of what stands before the character. -/
theorem exists_suffix_afterTag {c : Char} (h : EndsTag c) (s rest : List Char) :
    ∃ kept, kept <:+ s ∧ afterTag (s ++ c :: rest) = kept ++ c :: rest :=
  ⟨afterTag s, afterTag_suffix s, afterTag_append h s rest⟩

/-! ## Blocks -/

/-- A block, `inside` being its tag and its interior. -/
def block (inside : List Char) : List Char := fence ++ (inside ++ fence)

/-- What the rule for blocks does behind an opening fence. -/
theorem fencedBlock_fence (s : List Char) :
    fencedBlock (fence ++ s) = (cutAt fence (afterTag s)).map fun (interior, rest) =>
      (if mayHoldArray interior then interior else [], (fence ++ s).length - rest.length) :=
  rfl

/-- The rule matches up to the closing fence, and `inside` ends with that fence. -/
theorem fencedBlock_of_cut {inside interior rest : List Char}
    (h : cutAt fence (afterTag (inside ++ rest)) = some (interior, rest)) :
    fencedBlock (fence ++ inside ++ rest) =
      some (if mayHoldArray interior then interior else [], (fence ++ inside).length) := by
  have hlength : (fence ++ inside ++ rest).length - rest.length = (fence ++ inside).length := by
    simp only [List.length_append]
    omega
  rw [← hlength, List.append_assoc, fencedBlock_fence, h]
  rfl

/-- Everything that the rule matches is such a block. -/
theorem exists_cut_of_fencedBlock {s text : List Char} {used : Nat}
    (h : fencedBlock s = some (text, used)) :
    ∃ inside interior rest, s = fence ++ inside ++ rest ∧
      cutAt fence (afterTag (inside ++ rest)) = some (interior, rest) ∧
      text = (if mayHoldArray interior then interior else []) ∧
      used = (fence ++ inside).length := by
  obtain ⟨tagged, rfl⟩ : ∃ tagged, s = fence ++ tagged := by
    by_cases hfence : fence.isPrefixOf s = true
    · obtain ⟨tagged, htagged⟩ := List.isPrefixOf_iff_prefix.1 hfence
      exact ⟨tagged, htagged.symm⟩
    · rw [fencedBlock, if_neg hfence] at h
      cases h
  obtain ⟨⟨interior, rest⟩, hcut, -⟩ := Option.map_eq_some_iff.1 h
  replace hcut : cutAt fence (afterTag tagged) = some (interior, rest) := hcut
  -- What follows the block is an end of the text, so the block is what stands before it.
  obtain ⟨inside, rfl⟩ : ∃ inside, tagged = inside ++ rest := by
    have hsuffix : rest <:+ afterTag tagged := by
      rw [append_of_cutAt hcut]
      exact List.suffix_append _ rest
    obtain ⟨inside, hinside⟩ := hsuffix.trans (afterTag_suffix tagged)
    exact ⟨inside, hinside.symm⟩
  have hmatch := fencedBlock_of_cut hcut
  rw [List.append_assoc, h, Option.some.injEq, Prod.mk.injEq] at hmatch
  exact ⟨inside, interior, rest, (List.append_assoc _ _ _).symm, hcut, hmatch⟩

/-- A block becomes its interior, or nothing, whatever follows it. -/
theorem substitute_block {inside interior : List Char} (h : '\x60' ∉ interior) (rest : List Char)
    (hafter : afterTag (inside ++ (fence ++ rest)) = interior ++ (fence ++ rest)) :
    substitute fencedBlock (block inside ++ rest) =
      (if mayHoldArray interior then interior else []) ++ substitute fencedBlock rest := by
  -- The closing fence is the first one behind the tag, since the interior has no backtick.
  have hcut : cutAt fence (afterTag (inside ++ fence ++ rest)) = some (interior, rest) := by
    rw [List.append_assoc, hafter]
    exact cutAt_append h ['\x60', '\x60'] rest
  exact substitute_of_match (by simp [block, fence]) (fencedBlock_of_cut hcut)

theorem substitute_unfenced {s : List Char} (h : '\x60' ∉ s) (rest : List Char) :
    substitute fencedBlock (s ++ rest) = s ++ substitute fencedBlock rest := by
  refine substitute_append (fun c hc t => ?_) rest
  have hne : '\x60' ≠ c := fun heq => h (heq ▸ hc)
  simp [fencedBlock, fence, hne]

/-! ## The array -/

/-- The array is found between a text without `[` and a text without `]`. -/
theorem locateArray_append {before after : List Char} (hbefore : '[' ∉ before)
    (hafter : ']' ∉ after) (interior : List Char) :
    locateArray (before ++ ('[' :: (interior ++ [']']) ++ after)) =
      some ('[' :: (interior ++ [']'])) := by
  have hstart : (before ++ ('[' :: (interior ++ [']']) ++ after)).dropWhile (· != '[') =
      '[' :: (interior ++ [']']) ++ after := by
    rw [List.dropWhile_append_of_pos]
    · rfl
    · intro c hc
      have hne : c ≠ '[' := fun heq => hbefore (heq ▸ hc)
      simp [hne]
  have hend : ('[' :: (interior ++ [']']) ++ after).reverse.dropWhile (· != ']') =
      ('[' :: (interior ++ [']'])).reverse := by
    rw [List.reverse_append, List.dropWhile_append_of_pos]
    · simp
    · intro c hc
      have hne : c ≠ ']' := fun heq => hafter (heq ▸ List.mem_reverse.1 hc)
      simp [hne]
  simp only [locateArray, hstart, hend, List.reverse_reverse]

end Deskhand.Plan
