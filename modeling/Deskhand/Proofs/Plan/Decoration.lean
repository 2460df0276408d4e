/-
  Deskhand.Proofs.Plan.Decoration

  Extraction undoes decoration.

  An answer of a language model: a rendering of a plan in a fenced block of its own, with prose and
  further blocks around it. Extraction gives back exactly the commands of the rendering. The proof
  follows the passes: the fence pass takes the block to its interior and drops the other blocks, the
  brackets of the rendering are the outermost ones of what is left, and a cleaned rendering is read
  as its commands.
-/

import Deskhand.Proofs.Plan.Fences
import Deskhand.Proofs.Plan.Rendering

namespace Deskhand.Plan

open Deskhand.Json Deskhand.Text

/-! ## The parts of an answer -/

/-- Text around and between blocks, without backticks and brackets. -/
structure Prose where
  text : List Char
  unfenced : '\x60' ∉ text
  noOpening : '[' ∉ text
  noClosing : ']' ∉ text

/-- The tag behind an opening fence, which may be empty. -/
structure Tag where
  text : List Char
  plain : ∀ c ∈ text, c.isAlphanum ∨ c = '_' ∨ c = '-'

/-- A block that is not the plan: its interior lacks an opening or a closing bracket. -/
structure Aside where
  tag : Tag
  interior : List Char
  unfenced : '\x60' ∉ interior
  noArray : '[' ∉ interior ∨ ']' ∉ interior

/-- The block as it is written. -/
def Aside.text (aside : Aside) : List Char := block (aside.tag.text ++ aside.interior)

/-- A block that is not the plan, and the prose behind it. -/
structure Remark where
  aside : Aside
  prose : Prose

/-- Remarks as they are written. -/
def remarksText (remarks : List Remark) : List Char :=
  remarks.flatMap fun remark => remark.aside.text ++ remark.prose.text

/-- The prose of remarks. -/
def remarksProse (remarks : List Remark) : List Char :=
  remarks.flatMap fun remark => remark.prose.text

/-- An answer: prose and remarks, the block with the plan, prose and remarks. -/
structure Answer where
  opening : Prose
  before : List Remark
  tag : Tag
  lead : Prose
  plan : Rendering
  trail : Prose
  closing : Prose
  after : List Remark

/-- What stands in the block with the plan. -/
def Answer.inside (answer : Answer) : List Char :=
  answer.tag.text ++ answer.lead.text ++ answer.plan.text ++ answer.trail.text

/-- The answer as it is written. -/
def Answer.text (answer : Answer) : List Char :=
  answer.opening.text ++ remarksText answer.before ++ block answer.inside ++
    answer.closing.text ++ remarksText answer.after

/-! ## The fence pass over the parts -/

/-- What is left of a tag and the text behind it has no character that the text does not have,
unless a tag may have it. -/
theorem Tag.not_mem_of_suffix (tag : Tag) {kept text : List Char}
    (hsuffix : kept <:+ tag.text ++ text) {c : Char}
    (htag : ¬(c.isAlphanum ∨ c = '_' ∨ c = '-')) (htext : c ∉ text) : c ∉ kept := by
  intro hmem
  rcases List.mem_append.1 (hsuffix.subset hmem) with hin | hin
  · exact htag (tag.plain c hin)
  · exact htext hin

theorem Aside.substitute_text (aside : Aside) (rest : List Char) :
    substitute fencedBlock (aside.text ++ rest) = substitute fencedBlock rest := by
  obtain ⟨kept, hsuffix, hafter⟩ := exists_suffix_afterTag endsTag_backtick
    (aside.tag.text ++ aside.interior) ('\x60' :: '\x60' :: rest)
  have hunfenced : '\x60' ∉ kept :=
    aside.tag.not_mem_of_suffix hsuffix (by decide) aside.unfenced
  -- One of the two brackets is missing, also once the tag is gone.
  have hnone : mayHoldArray kept = false := by
    rcases aside.noArray with hopening | hclosing
    · have hlacks : '[' ∉ kept := aside.tag.not_mem_of_suffix hsuffix (by decide) hopening
      simp [mayHoldArray, hlacks]
    · have hlacks : ']' ∉ kept := aside.tag.not_mem_of_suffix hsuffix (by decide) hclosing
      simp [mayHoldArray, hlacks]
  rw [Aside.text, substitute_block hunfenced rest hafter, hnone]
  rfl

theorem substitute_remarks (remarks : List Remark) (rest : List Char) :
    substitute fencedBlock (remarksText remarks ++ rest) =
      remarksProse remarks ++ substitute fencedBlock rest := by
  induction remarks with
  | nil => rfl
  | cons remark remarks ih =>
    have haside := remark.aside.substitute_text
      (remark.prose.text ++ (remarksText remarks ++ rest))
    rw [substitute_unfenced remark.prose.unfenced, ih] at haside
    simpa [remarksText, remarksProse] using haside

/-- The prose of remarks has none of the characters that no prose has. -/
theorem not_mem_remarksProse {c : Char} (h : ∀ prose : Prose, c ∉ prose.text)
    (remarks : List Remark) : c ∉ remarksProse remarks := by
  intro hmem
  obtain ⟨remark, -, hprose⟩ := List.mem_flatMap.1 hmem
  exact h remark.prose hprose

/-- The block with the plan becomes its interior, of which the rendering is kept. -/
theorem Answer.substitute_block (answer : Answer) (rest : List Char) :
    ∃ lead, '\x60' ∉ lead ∧ '[' ∉ lead ∧
      substitute fencedBlock (block answer.inside ++ rest) =
        lead ++ (answer.plan.text ++ (answer.trail.text ++ substitute fencedBlock rest)) := by
  -- The pass over the tag stops at the opening bracket of the rendering at the latest.
  obtain ⟨lead, hsuffix, hafter⟩ := exists_suffix_afterTag endsTag_bracket
    (answer.tag.text ++ answer.lead.text)
    (answer.plan.interior ++ [']'] ++ answer.trail.text ++ (fence ++ rest))
  have hbacktick : '\x60' ∉ lead :=
    answer.tag.not_mem_of_suffix hsuffix (by decide) answer.lead.unfenced
  have hbracket : '[' ∉ lead :=
    answer.tag.not_mem_of_suffix hsuffix (by decide) answer.lead.noOpening
  have hunfenced : '\x60' ∉ lead ++ (answer.plan.text ++ answer.trail.text) := by
    simp [hbacktick, answer.plan.backtick_not_mem_text, answer.trail.unfenced]
  have hinterior : afterTag (answer.inside ++ (fence ++ rest)) =
      lead ++ (answer.plan.text ++ answer.trail.text) ++ (fence ++ rest) := by
    simpa [Answer.inside, Rendering.text] using hafter
  have harray : mayHoldArray (lead ++ (answer.plan.text ++ answer.trail.text)) = true := by
    simp [mayHoldArray, Rendering.text]
  refine ⟨lead, hbacktick, hbracket, ?_⟩
  rw [Plan.substitute_block hunfenced rest hinterior, harray]
  simp

/-- Without its fences an answer is its rendering between a text without `[` and a text without
`]`. -/
theorem Answer.stripFences_text (answer : Answer) :
    ∃ before after, '[' ∉ before ∧ ']' ∉ after ∧
      stripFences answer.text = before ++ (answer.plan.text ++ after) := by
  obtain ⟨lead, hbacktick, hbracket, hblock⟩ := answer.substitute_block
    (answer.closing.text ++ (remarksText answer.after ++ []))
  rw [substitute_unfenced answer.closing.unfenced, substitute_remarks] at hblock
  let before := answer.opening.text ++ (remarksProse answer.before ++ lead)
  let after := answer.trail.text ++ (answer.closing.text ++ remarksProse answer.after)
  -- Only the texts between the blocks and the interior of the plan are left.
  have hpass : substitute fencedBlock answer.text = before ++ (answer.plan.text ++ after) := by
    have htext : answer.text = answer.opening.text ++ (remarksText answer.before ++
        (block answer.inside ++ (answer.closing.text ++ (remarksText answer.after ++ [])))) := by
      simp [Answer.text]
    rw [htext, substitute_unfenced answer.opening.unfenced, substitute_remarks, hblock]
    simp [before, after, substitute]
  -- None of the kept parts has a backtick, so the second pass finds nothing.
  have hunfenced : '\x60' ∉ before ++ (answer.plan.text ++ after) := by
    simp [before, after, hbacktick, answer.opening.unfenced, answer.trail.unfenced,
      answer.closing.unfenced, answer.plan.backtick_not_mem_text,
      not_mem_remarksProse Prose.unfenced]
  refine ⟨before, after, ?_, ?_, ?_⟩
  · simp [before, hbracket, answer.opening.noOpening, not_mem_remarksProse Prose.noOpening]
  · simp [after, answer.trail.noClosing, answer.closing.noClosing,
      not_mem_remarksProse Prose.noClosing]
  · rw [stripFences, hpass]
    exact replaceAll_of_not_mem hunfenced ['\x60', '\x60'] []

/-! ## Extraction -/

/-- The text that is read as JSON is the cleaned rendering. -/
theorem Answer.cleanArray_text (answer : Answer) :
    cleanArray answer.text = some (joinLines (stripComments answer.plan.text)) := by
  obtain ⟨before, after, hbefore, hafter, hstrip⟩ := answer.stripFences_text
  -- The first opening and the last closing bracket are those of the rendering.
  have hlocate := locateArray_append hbefore hafter answer.plan.interior
  rw [cleanArray, hstrip]
  exact congrArg (Option.map fun array => joinLines (stripComments array)) hlocate

/-- **Extraction undoes decoration.** The plan of an answer is the list of the commands of the
rendering in it, in their order. -/
theorem extract_decorated (answer : Answer) :
    extract (String.ofList answer.text) = .ok answer.plan.commands := by
  -- The first reading succeeds, so no comma is ever repaired.
  have hread : readRepaired (joinLines (stripComments answer.plan.text)) =
      .ok (.array (answer.plan.commands.map .string)) := by
    rw [readRepaired, answer.plan.parseChars_text]
  have hcommands : ofJson (.array (answer.plan.commands.map .string)) =
      .ok answer.plan.commands := by
    simp [ofJson, commandOf, Function.comp_def]
  rw [extract, String.toList_ofList, extractChars, answer.cleanArray_text]
  simp only [hread, hcommands]
  simp [Rendering.commands]

/-- An answer with a block of other kind on either side of the plan, a comment in front of its first
command, and brackets, slashes and a comma where they mean nothing. -/
def chatty : Answer where
  opening := ⟨"Plan:\n".toList, by decide, by decide, by decide⟩
  before :=
    [⟨⟨⟨"sh".toList, by simp⟩, "\n[ -d x\n".toList, by decide, by decide⟩,
      ⟨"\nthen ".toList, by decide, by decide, by decide⟩⟩]
  tag := ⟨"json-5".toList, by simp⟩
  lead := ⟨" Do: ".toList, by decide, by decide, by decide⟩
  plan :=
    { first :=
        ⟨[.space ' ' rfl, .comment " \"a\", ]".toList (by decide) (by decide), .space '\t' rfl],
          "wait(1)", [], by decide⟩
      others := [⟨[.space '\n' rfl], "typeText(\"],//[\")", [.space ' ' rfl], by decide⟩] }
  trail := ⟨". ".toList, by decide, by decide, by decide⟩
  closing := ⟨"\nDone. ".toList, by decide, by decide, by decide⟩
  after := [⟨⟨⟨[], by simp⟩, " ] ".toList, by decide, by decide⟩, ⟨[], by decide, by decide,
    by decide⟩⟩]

/-- Such an answer is taken for its plan. -/
theorem extract_decorated_chatty :
    extract ("Plan:\n\x60\x60\x60sh\n[ -d x\n\x60\x60\x60\nthen \x60\x60\x60json-5 Do: " ++
        "[ // \"a\", ]\n\t\"wait(1)\",\n\"typeText(\\\"],//[\\\")\" ]. \x60\x60\x60" ++
        "\nDone. \x60\x60\x60 ] \x60\x60\x60") =
      .ok ["wait(1)", "typeText(\"],//[\")"] :=
  extract_decorated chatty

end Deskhand.Plan
