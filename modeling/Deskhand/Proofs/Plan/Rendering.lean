/-
  Deskhand.Proofs.Plan.Rendering

  Renderings of a plan.

  An array of string literals in which any mix of spaces and line comments stands between the
  tokens. The types carry what makes a rendering well formed, so that every value of them is one.
  Without its comments and on one line, a rendering is an array with nothing but spaces between its
  tokens, and is read as the list of its commands.
-/

import Deskhand.Proofs.Plan.Lines

namespace Deskhand.Plan

open Deskhand.Json

/-! ## Gaps -/

/-- A piece of what stands between two tokens. -/
inductive Filler where
  | space (c : Char) (blank : isSpace c = true)
  | comment (text : List Char) (oneLine : '\n' ∉ text) (unfenced : '\x60' ∉ text)

/-- The piece as it is written: a comment runs up to a line feed. -/
def Filler.text : Filler → List Char
  | .space c _ => [c]
  | .comment text _ _ => '/' :: '/' :: (text ++ ['\n'])

/-- What the comment scan keeps of the piece. -/
def Filler.residue : Filler → List Char
  | .space c _ => [c]
  | .comment _ _ _ => ['\n']

/-- What stands between two tokens. -/
abbrev Gap := List Filler

/-- The gap as it is written. -/
def Gap.text (gap : Gap) : List Char := gap.flatMap Filler.text

/-- The spaces that are left of a gap once it is on one line without its comments. -/
def Gap.spaces (gap : Gap) : List Char := joinLines (gap.flatMap Filler.residue)

theorem Filler.stripFrom_text (filler : Filler) (rest : List Char) :
    stripFrom .outside (filler.text ++ rest) = filler.residue ++ stripFrom .outside rest := by
  cases filler with
  -- No space opens a literal or a comment.
  | space c blank =>
    have hquote : c ≠ '"' := by
      rintro rfl
      exact absurd blank (by decide)
    have hslash : c ≠ '/' := by
      rintro rfl
      exact absurd blank (by decide)
    exact stripFrom_outside hquote hslash rest
  | comment text oneLine _ =>
    -- The line feed at its end is all that is left of a comment.
    have hcomment := stripFrom_inComment oneLine rest
    simpa [Filler.text, Filler.residue, stripFrom] using hcomment

/-- The comment scan takes the gap to its residue, whatever follows it. -/
theorem Gap.stripFrom_text (gap : Gap) (rest : List Char) :
    stripFrom .outside (gap.text ++ rest) =
      gap.flatMap Filler.residue ++ stripFrom .outside rest := by
  induction gap with
  | nil => rfl
  | cons filler gap ih =>
    have hfiller := filler.stripFrom_text (Gap.text gap ++ rest)
    rw [ih] at hfiller
    simpa [Gap.text] using hfiller

theorem Gap.blank_spaces (gap : Gap) : Blank gap.spaces := by
  refine blank_joinLines fun c hc => ?_
  obtain ⟨filler, -, hmem⟩ := List.mem_flatMap.1 hc
  cases filler with
  | space d blank =>
    rw [List.mem_singleton.1 hmem]
    exact blank
  | comment _ _ _ =>
    rw [List.mem_singleton.1 hmem]
    rfl

theorem Gap.backtick_not_mem_text (gap : Gap) : '\x60' ∉ gap.text := by
  intro hmem
  obtain ⟨filler, -, hfiller⟩ := List.mem_flatMap.1 hmem
  cases filler with
  | space d blank =>
    obtain rfl := List.mem_singleton.1 hfiller
    exact absurd blank (by decide)
  | comment text _ unfenced => exact absurd hfiller (by simp [Filler.text, unfenced])

/-! ## Entries -/

/-- A command with what stands around it. -/
structure Entry where
  before : Gap
  command : String
  after : Gap
  unfenced : '\x60' ∉ command.toList

/-- The entry as it is written. -/
def Entry.text (entry : Entry) : List Char :=
  entry.before.text ++ literal entry.command.toList ++ entry.after.text

/-- The entry as the JSON reader gets it. -/
def Entry.spelled (entry : Entry) : Spelled where
  before := entry.before.spaces
  text := literal entry.command.toList
  after := entry.after.spaces
  value := .string entry.command

theorem Entry.reads_spelled (entry : Entry) (depth : Nat) : entry.spelled.Reads 1 depth := by
  have hreads := reads_literal entry.before.blank_spaces entry.after.blank_spaces
    entry.command.toList depth
  rwa [String.ofList_toList] at hreads

/-- Cleaning an entry leaves its literal and spaces, unless the rest goes on with a line feed that
could join a carriage return. -/
theorem Entry.joinLines_text (entry : Entry) {rest : List Char}
    (h : (stripFrom .outside rest).head? ≠ some '\n') :
    joinLines (stripFrom .outside (entry.text ++ rest)) =
      entry.spelled.chars ++ joinLines (stripFrom .outside rest) := by
  have hscan : stripFrom .outside (entry.text ++ rest) =
      entry.before.flatMap Filler.residue ++ (literal entry.command.toList ++
        (entry.after.flatMap Filler.residue ++ stripFrom .outside rest)) := by
    rw [Entry.text, List.append_assoc, List.append_assoc, Gap.stripFrom_text, stripFrom_literal,
      Gap.stripFrom_text]
  -- The literal starts with its quote, so no line break lies across its borders.
  rw [hscan, joinLines_append _ (by simp [literal]), joinLines_oneLine (oneLine_literal _),
    joinLines_append _ h]
  simp [Spelled.chars, Entry.spelled, Gap.spaces]

theorem Entry.backtick_not_mem_text (entry : Entry) : '\x60' ∉ entry.text := by
  have hliteral : '\x60' ∉ literal entry.command.toList := by
    intro hmem
    rcases mem_literal hmem with ⟨hcommand, -⟩ | hescape
    · exact entry.unfenced hcommand
    · exact absurd hescape (by decide)
  simp [Entry.text, hliteral, Gap.backtick_not_mem_text]

/-! ## Arrays -/

/-- A non-empty array of commands with anything between its tokens that is not read. -/
structure Rendering where
  first : Entry
  others : List Entry

/-- The commands in the order in which they are written. -/
def Rendering.commands (rendering : Rendering) : List String :=
  rendering.first.command :: rendering.others.map Entry.command

/-- What stands between the brackets. -/
def Rendering.interior (rendering : Rendering) : List Char :=
  rendering.first.text ++ rendering.others.flatMap fun entry => ',' :: entry.text

/-- The array as it is written. -/
def Rendering.text (rendering : Rendering) : List Char := '[' :: (rendering.interior ++ [']'])

theorem joinLines_others (entries : List Entry) :
    joinLines (stripFrom .outside ((entries.flatMap fun entry => ',' :: entry.text) ++ [']'])) =
        closing (entries.map Entry.spelled) [] ∧
      (stripFrom .outside ((entries.flatMap fun entry => ',' :: entry.text) ++ [']'])).head? ≠
        some '\n' := by
  induction entries with
  | nil => decide
  | cons entry entries ih =>
    obtain ⟨hjoined, hhead⟩ := ih
    -- What follows the entry is a comma or the bracket, so no line break is joined.
    have hentry := entry.joinLines_text hhead
    rw [hjoined] at hentry
    have hcomma : ∀ s, stripFrom .outside (',' :: s) = ',' :: stripFrom .outside s :=
      stripFrom_outside (by decide) (by decide)
    have hline : ∀ s, joinLines (',' :: s) = ',' :: joinLines s :=
      joinLines_oneLine (s := [',']) (by simp)
    rw [List.flatMap_cons, List.cons_append, List.cons_append, List.append_assoc, hcomma, hline,
      hentry]
    exact ⟨by simp [closing], by simp⟩

theorem Rendering.joinLines_text (rendering : Rendering) :
    joinLines (stripComments rendering.text) =
      arrayText rendering.first.spelled (rendering.others.map Entry.spelled) [] := by
  obtain ⟨hjoined, hhead⟩ := joinLines_others rendering.others
  have hfirst := rendering.first.joinLines_text hhead
  rw [hjoined] at hfirst
  have hline : ∀ s, joinLines ('[' :: s) = '[' :: joinLines s :=
    joinLines_oneLine (s := ['[']) (by simp)
  rw [stripComments, Rendering.text, stripFrom_outside (by decide) (by decide), hline,
    Rendering.interior, List.append_assoc, hfirst]
  rfl

theorem Rendering.parseChars_text (rendering : Rendering) :
    parseChars (joinLines (stripComments rendering.text)) =
      .ok (.array (rendering.commands.map .string)) := by
  have hitems : ∀ item ∈ (rendering.first :: rendering.others).map Entry.spelled,
      item.Reads (2 * item.text.length) (maxDepth - 1) := by
    intro item hitem
    obtain ⟨entry, -, rfl⟩ := List.mem_map.1 hitem
    -- The literal has its quotes at least, which is a step more than it takes.
    have hlength : 0 < (literal entry.command.toList).length := by simp [literal]
    exact (entry.reads_spelled _).mono (by simp only [Entry.spelled]; omega)
  rw [rendering.joinLines_text, parseChars_array hitems]
  simp [Rendering.commands, Entry.spelled, Function.comp_def]

theorem Rendering.backtick_not_mem_text (rendering : Rendering) : '\x60' ∉ rendering.text := by
  simp [Rendering.text, Rendering.interior, Entry.backtick_not_mem_text]

end Deskhand.Plan
