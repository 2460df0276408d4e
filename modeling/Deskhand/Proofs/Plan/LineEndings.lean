/-
  Deskhand.Proofs.Plan.LineEndings

  Plans and line endings.

  An answer whose lines end with a carriage return and a line feed holds the same plan as with line
  feeds alone. Up to the located array the passes only carry the carriage returns along: a fence
  takes one for a blank behind its tag, and nothing else looks at them. The comment scan drops those
  at the end of a comment and keeps the others, but wherever it stands, what it makes of the two
  line endings becomes the same space when lines are joined. From there on the texts are equal.
-/

import Deskhand.Proofs.Plan.Fences
import Deskhand.Proofs.Plan.Lines
import Deskhand.Proofs.Text.LineEndings

namespace Deskhand.Plan

open Deskhand.Text

/-! ## Fences -/

theorem fence_oneLine : ∀ c ∈ fence, c ≠ '\n' ∧ c ≠ '\r' := by simp [fence]

theorem fence_ne_nil : fence ≠ [] := by decide

/-- Behind an opening fence the carriage return is one of the blanks before the line feed. -/
theorem afterTag_withReturns (s : List Char) :
    afterTag (withReturns s) = withReturns (afterTag s) := by
  have htag : (withReturns s).dropWhile (fun c => isWordChar c || c == '-') =
      withReturns (s.dropWhile fun c => isWordChar c || c == '-') :=
    dropWhile_withReturns (by decide) s
  unfold afterTag
  simp only [htag]
  generalize s.dropWhile (fun c => isWordChar c || c == '-') = untagged
  generalize hblank : (fun c => isBlank c && c != '\n') = blank
  have hreturn : blank '\r' = true := by rw [← hblank]; decide
  have hfeed : ¬ blank '\n' = true := by rw [← hblank]; decide
  induction untagged with
  | nil => rfl
  | cons c rest ih =>
    by_cases hc : c = '\n'
    · -- The blanks end at the line feed in both texts, with one blank more in the first.
      subst hc
      rw [withReturns_lineFeed, List.dropWhile_cons_of_pos hreturn,
        List.dropWhile_cons_of_neg hfeed, List.dropWhile_cons_of_neg hfeed]
      rfl
    · rw [withReturns_cons hc]
      by_cases hdrop : blank c = true
      · rw [List.dropWhile_cons_of_pos hdrop, List.dropWhile_cons_of_pos hdrop]
        exact ih
      · rw [List.dropWhile_cons_of_neg hdrop, List.dropWhile_cons_of_neg hdrop]
        simp [hc, withReturns_cons hc]

theorem mayHoldArray_withReturns (s : List Char) :
    mayHoldArray (withReturns s) = mayHoldArray s := by
  simp [mayHoldArray, mem_withReturns]

/-- A block is the same block with other line endings. -/
theorem lineBlind_fencedBlock : LineBlind fencedBlock where
  lineFeed rest := by
    rw [fencedBlock, fence, isPrefixOf_cons_of_ne (by decide)]
    rfl
  unmatched {s} h := by
    by_cases hfence : fence.isPrefixOf s = true
    · obtain ⟨tagged, rfl⟩ := List.isPrefixOf_iff_prefix.1 hfence
      rw [fencedBlock_fence, Option.map_eq_none_iff] at h
      rw [withReturns_append, withReturns_oneLine fence_oneLine, fencedBlock_fence,
        afterTag_withReturns, cutAt_withReturns fence_oneLine fence_ne_nil, h]
      rfl
    · rw [fencedBlock, isPrefixOf_withReturns fence_oneLine, if_neg hfence]
  matched {s text used} h := by
    obtain ⟨inside, interior, rest, rfl, hcut, rfl, rfl⟩ := exists_cut_of_fencedBlock h
    have hreturns : cutAt fence (afterTag (withReturns inside ++ withReturns rest)) =
        some (withReturns interior, withReturns rest) := by
      rw [← withReturns_append, afterTag_withReturns,
        cutAt_withReturns fence_oneLine fence_ne_nil, hcut]
      rfl
    have hblock := fencedBlock_of_cut hreturns
    rw [mayHoldArray_withReturns] at hblock
    refine ⟨fence ++ inside, rest, rfl, by simp [fence_ne_nil], rfl, ?_⟩
    rw [withReturns_append, withReturns_append, withReturns_oneLine fence_oneLine, hblock]
    split <;> rfl

/-- The fence pass leaves the line endings as they are. -/
theorem stripFences_withReturns (s : List Char) :
    stripFences (withReturns s) = withReturns (stripFences s) := by
  have hmarkers := lineBlind_replaceRule fence_oneLine fence_ne_nil
  rw [stripFences, lineBlind_fencedBlock.substitute_withReturns]
  exact hmarkers.substitute_withReturns _

theorem mem_of_mem_stripFences {c : Char} {s : List Char} (h : c ∈ stripFences s) : c ∈ s := by
  have hmarkers : c ∈ substitute fencedBlock s := by
    refine mem_of_mem_substituteFrom (fun hmatch d hd => ?_) h
    rw [replaceRule] at hmatch
    split at hmatch
    · simp only [Option.some.injEq, Prod.mk.injEq] at hmatch
      rw [← hmatch.1] at hd
      cases hd
    · cases hmatch
  refine mem_of_mem_substituteFrom (fun {s text used} hmatch d hd => ?_) hmarkers
  obtain ⟨inside, interior, rest, rfl, hcut, rfl, -⟩ := exists_cut_of_fencedBlock hmatch
  have hinterior : d ∈ interior := by
    split at hd
    · exact hd
    · cases hd
  have hafter : d ∈ afterTag (inside ++ rest) := by
    rw [append_of_cutAt hcut]
    exact List.mem_append_left _ (List.mem_append_left _ hinterior)
  rw [List.append_assoc]
  exact List.mem_append_right _ ((afterTag_suffix _).mem hafter)

/-! ## The array -/

/-- The array begins and ends at its brackets, whatever the line endings are. -/
theorem locateArray_withReturns (s : List Char) :
    locateArray (withReturns s) = (locateArray s).map withReturns := by
  have hfront := dropWhile_withReturns (p := (· != '[')) rfl s
  have hback := reverse_dropWhile_withReturns (p := (· != ']')) rfl (s.dropWhile (· != '['))
  -- Dropping from either end stops at a bracket, which is no line ending.
  simp only [locateArray, hfront, hback]
  generalize ((s.dropWhile (· != '[')).reverse.dropWhile (· != ']')).reverse = array
  cases harray : withReturns array with
  | nil =>
    rw [withReturns_eq_nil_iff.1 harray]
    rfl
  | cons c rest =>
    cases array with
    | nil => cases harray
    | cons d more => exact congrArg some harray.symm

/-- The array is a part of the text. -/
theorem mem_of_mem_locateArray {c : Char} {s array : List Char} (h : locateArray s = some array)
    (hc : c ∈ array) : c ∈ s := by
  unfold locateArray at h
  simp only at h
  split at h
  · cases h
  · obtain rfl := Option.some.inj h
    have hback := (List.dropWhile_suffix _).mem (List.mem_reverse.1 hc)
    exact (List.dropWhile_suffix _).mem (List.mem_reverse.1 hback)

/-! ## Comments and lines -/

/-- A line ending of either kind becomes one space, and the comment scan goes on in the same
place behind it. -/
theorem exists_joinLines_stripFrom_lineFeed (place : Place) :
    ∃ next, ∀ rest,
      joinLines (stripFrom place ('\n' :: rest)) = ' ' :: joinLines (stripFrom next rest) ∧
      joinLines (stripFrom place ('\r' :: '\n' :: rest)) =
        ' ' :: joinLines (stripFrom next rest) := by
  cases place with
  -- Outside and in a literal the characters of the ending are kept, and in a comment the line feed.
  | outside => exact ⟨.outside, fun rest => by simp [stripFrom, joinLines]⟩
  | inString => exact ⟨.inString, fun rest => by simp [stripFrom, joinLines]⟩
  | afterBackslash => exact ⟨.inString, fun rest => by simp [stripFrom, joinLines]⟩
  | inComment => exact ⟨.outside, fun rest => by simp [stripFrom, joinLines]⟩

/-- Of the characters behind another one the comment scan looks only for a slash at their front. -/
theorem exists_stripFrom_cons {c : Char} (hc : c ≠ '\n') (place : Place) {rest : List Char}
    {other : List Char} (h : rest.head? = some '/' ↔ other.head? = some '/') :
    ∃ kept next, (∀ d ∈ kept, d = c) ∧ stripFrom place (c :: rest) = kept ++ stripFrom next rest ∧
      stripFrom place (c :: other) = kept ++ stripFrom next other := by
  cases place with
  | outside =>
    -- Only here the character behind matters: a second slash opens a comment.
    by_cases hquote : c = '"'
    · exact ⟨[c], .inString, by simp, by simp [stripFrom, hquote], by simp [stripFrom, hquote]⟩
    · by_cases hslash : c = '/' ∧ rest.head? = some '/'
      · have hslash' := hslash
        rw [h] at hslash'
        exact ⟨[], .inComment, by simp, by rw [stripFrom, if_neg hquote, if_pos hslash]; rfl,
          by rw [stripFrom, if_neg hquote, if_pos hslash']; rfl⟩
      · have hslash' := hslash
        rw [h] at hslash'
        exact ⟨[c], .outside, by simp, by rw [stripFrom, if_neg hquote, if_neg hslash]; rfl,
          by rw [stripFrom, if_neg hquote, if_neg hslash']; rfl⟩
  | inString => exact ⟨[c], _, by simp, rfl, rfl⟩
  | afterBackslash => exact ⟨[c], _, by simp, rfl, rfl⟩
  | inComment =>
    exact ⟨[], .inComment, by simp, by rw [stripFrom, if_neg hc]; rfl,
      by rw [stripFrom, if_neg hc]; rfl⟩

/-- What is read of an array does not depend on its line endings. -/
theorem joinLines_stripFrom_withReturns {s : List Char} (h : '\r' ∉ s) (place : Place) :
    joinLines (stripFrom place (withReturns s)) = joinLines (stripFrom place s) := by
  induction s generalizing place with
  | nil => rfl
  | cons c rest ih =>
    have hrest := ih fun hmem => h (List.mem_cons_of_mem c hmem)
    by_cases hc : c = '\n'
    · subst hc
      obtain ⟨next, hnext⟩ := exists_joinLines_stripFrom_lineFeed place
      rw [withReturns_lineFeed, (hnext _).2, (hnext _).1, hrest]
    · have hreturn : c ≠ '\r' := fun heq => h (heq ▸ List.mem_cons_self)
      have hhead : (withReturns rest).head? = some '/' ↔ rest.head? = some '/' := by
        cases rest with
        | nil => rfl
        | cons d more =>
          by_cases hd : d = '\n'
          · subst hd
            simp [withReturns_lineFeed]
          · simp [withReturns_cons hd]
      -- All that is kept here is the character itself.
      obtain ⟨kept, next, hkept, hleft, hright⟩ := exists_stripFrom_cons hc place hhead
      have honeLine : ∀ d ∈ kept, d ≠ '\n' ∧ d ≠ '\r' := by
        intro d hd
        rw [hkept d hd]
        exact ⟨hc, hreturn⟩
      rw [withReturns_cons hc, hleft, hright, joinLines_oneLine honeLine,
        joinLines_oneLine honeLine, hrest]

/-! ## Extraction -/

/-- The text that is read as JSON is the same for both line endings. -/
theorem cleanArray_withReturns {s : List Char} (h : '\r' ∉ s) :
    cleanArray (withReturns s) = cleanArray s := by
  rw [cleanArray, cleanArray, stripFences_withReturns, locateArray_withReturns, Option.map_map]
  cases harray : locateArray (stripFences s) with
  | none => rfl
  | some array =>
    -- The array has no carriage return either, being a part of the answer.
    have hreturn : '\r' ∉ array := fun hmem =>
      h (mem_of_mem_stripFences (mem_of_mem_locateArray harray hmem))
    exact congrArg some (joinLines_stripFrom_withReturns hreturn .outside)

/-- **Line endings make no difference.** The extraction of an answer without carriage returns gives
the same plan, or the same error, when a carriage return is put before every line feed. -/
theorem extract_withReturns (answer : String) (h : '\r' ∉ answer.toList) :
    extract (String.ofList (withReturns answer.toList)) = extract answer := by
  rw [extract, extract, String.toList_ofList, extractChars, extractChars, cleanArray_withReturns h]

/-- A tag, a comment, a string and a backslash that each end at a line feed. -/
theorem extract_withReturns_everywhere :
    let answer := "Plan:\n\x60\x60\x60json \n[\"a\nb\", // c\n\"\\\nd\",]\n\x60\x60\x60\n"
    '\r' ∉ answer.toList ∧
      extract (String.ofList (withReturns answer.toList)) = extract answer := by
  intro answer
  have hreturn : '\r' ∉ answer.toList := by decide +kernel
  exact ⟨hreturn, extract_withReturns answer hreturn⟩

end Deskhand.Plan
