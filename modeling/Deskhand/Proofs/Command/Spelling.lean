/-
  Deskhand.Proofs.Command.Spelling

  Commands whose arguments are JSON.

  A command as it is asked for: a name and, between parentheses, JSON values with commas between
  them. Blanks may stand before the name, in front of the opening parenthesis and at the end, and
  JSON spaces around each value. The types carry what makes such a text well formed.

  Nothing that the values hold can mislead the reader. The opening parenthesis is the first
  character behind the name that is not blank, and the closing one is the last character that is not
  blank, so parentheses inside the values are not looked at. What lies between is the inside of a
  JSON array, and the strict strategy takes it as it stands.
-/

import Deskhand.Proofs.Command.Form
import Deskhand.Proofs.Json.RoundTrip
import Mathlib.Data.List.Forall2

namespace Deskhand.Command

open Deskhand.Text Deskhand.Json

/-! ## The parts of a command -/

/-- A value, written in the compact form with spaces around it. -/
structure Operand (levels : Nat) where
  before : List Char
  value : Json
  after : List Char
  blankBefore : Blank before
  plain : Plain levels value
  blankAfter : Blank after

/-- The operand as an item of an array. -/
def Operand.spelled {levels : Nat} (operand : Operand levels) : Spelled :=
  ⟨operand.before, compactChars operand.value, operand.after, operand.value⟩

/-- What stands between the parentheses. -/
inductive Operands (levels : Nat) where
  | none (spaces : List Char) (blank : Blank spaces)
  | some (first : Operand levels) (others : List (Operand levels))

namespace Operands

variable {levels : Nat}

/-- The operands as they are written, with commas between them. -/
def text : Operands levels → List Char
  | .none spaces _ => spaces
  | .some first others =>
    first.spelled.chars ++ others.flatMap fun operand => ',' :: operand.spelled.chars

def values : Operands levels → List Json
  | .none _ _ => []
  | .some first others => (first :: others).map Operand.value

end Operands

/-- A command with JSON values for arguments. -/
structure Spelling (levels : Nat) where
  margin : List Char
  name : Name
  gap : List Char
  operands : Operands levels
  trail : List Char
  blankMargin : ∀ c ∈ margin, isBlank c = true
  blankGap : ∀ c ∈ gap, isBlank c = true
  blankTrail : ∀ c ∈ trail, isBlank c = true

def Spelling.text {levels : Nat} (spelling : Spelling levels) : List Char :=
  spelling.margin ++ (spelling.name.text ++ (spelling.gap ++
    '(' :: (spelling.operands.text ++ ')' :: spelling.trail)))

/-- The command with its operands for argument text. -/
def Spelling.form {levels : Nat} (spelling : Spelling levels) : Form where
  margin := spelling.margin
  name := spelling.name
  gap := spelling.gap
  args := spelling.operands.text
  trail := spelling.trail
  blankMargin := spelling.blankMargin
  blankGap := spelling.blankGap
  blankTrail := spelling.blankTrail

/-- A command is split at its own parentheses. -/
theorem Spelling.split?_text {levels : Nat} (spelling : Spelling levels) :
    split? spelling.text = some (spelling.name.text, spelling.operands.text) :=
  spelling.form.split?_text

/-! ## Reading the operands -/

section Reading

variable {levels : Nat} (hlevels : levels < maxDepth)
include hlevels

/-- The brackets around the operands take one of the levels. -/
theorem Operand.reads_spelled (operand : Operand levels) :
    operand.spelled.Reads (2 * operand.spelled.text.length) (maxDepth - 1) :=
  operand.plain.reads (Nat.le_sub_one_of_lt hlevels) operand.blankBefore operand.blankAfter

/-- Between brackets the operands are the array of their values. -/
theorem Operands.parseChars_bracketed (operands : Operands levels) :
    parseChars (bracketed operands.text) = .ok (.array operands.values) := by
  cases operands with
  | none spaces blank =>
    -- There are only spaces between the brackets.
    have hread : readLeading ('[' :: (spaces ++ [']'])) = .ok (.array [], []) :=
      readValue_emptyArray blank _ (maxDepth - 1) []
    exact parseChars_of_readLeading hread blank_nil
  | some first others =>
    -- The operands are the items of an array, each of which can be read by itself.
    have htext : bracketed (Operands.some first others).text =
        arrayText first.spelled (others.map Operand.spelled) [] := by
      simp [bracketed, Operands.text, arrayText, closing, List.flatMap_map]
    have hitems : ∀ item ∈ (first :: others).map Operand.spelled,
        item.Reads (2 * item.text.length) (maxDepth - 1) := by
      intro item hitem
      obtain ⟨operand, -, rfl⟩ := List.mem_map.1 hitem
      exact operand.reads_spelled hlevels
    rw [htext, parseChars_array hitems]
    simp [Operands.values, Operand.spelled, Function.comp_def]

theorem Operands.readStrict_text (operands : Operands levels) :
    readStrict operands.text = .ok (operands.values.map argumentOf) := by
  simp only [readStrict, readArray, operands.parseChars_bracketed hlevels]

/-- No other strategy is asked. -/
theorem Operands.readArguments_text (operands : Operands levels) :
    readArguments operands.text = operands.values.map argumentOf := by
  simp only [readArguments, operands.readStrict_text hlevels]

theorem Spelling.parseFresh_text (spelling : Spelling levels) :
    parseFresh (String.ofList spelling.text) =
      .ok ⟨String.ofList spelling.name.text, spelling.operands.values.map argumentOf⟩ := by
  simp only [parseFresh, String.toList_ofList, spelling.split?_text,
    spelling.operands.readArguments_text hlevels]

end Reading

/-! ## Arguments for values -/

/-- The argument that is meant by a value: the content of a string, the binary number nearest to an
integer, and the compact text of anything else. -/
inductive StandsFor : Json → Argument → Prop where
  | text (content : String) : StandsFor (.string content) (.text content)
  | number (n : Int) :
      StandsFor (.number (.integer n)) (.number (.ofInt Number.binary64 n))
  | token {value : Json} (notText : ∀ content, value ≠ .string content)
      (notNumber : ∀ n, value ≠ .number n) : StandsFor value (.token value.compact)

theorem standsFor_argumentOf {levels : Nat} {value : Json} (h : Plain levels value) :
    StandsFor value (argumentOf value) := by
  cases h with
  | null => exact .token nofun nofun
  | bool value => exact .token nofun nofun
  | integer fits => exact .number _
  | string text => exact .text text
  | array plain => exact .token nofun nofun
  | object sorted plain => exact .token nofun nofun

theorem Operands.plain_of_mem {levels : Nat} (operands : Operands levels) :
    ∀ value ∈ operands.values, Plain levels value := by
  intro value hvalue
  cases operands with
  | none spaces blank => cases hvalue
  | some first others =>
    obtain ⟨operand, -, rfl⟩ := List.mem_map.1 hvalue
    exact operand.plain

/-- **What is spelled is read.** A command whose arguments are written as JSON, nested less deep
than the reader can go, is read with a new cache as its name and one argument for each value, in
order. -/
theorem parse_spelled {levels : Nat} (hlevels : levels < maxDepth) (spelling : Spelling levels)
    (capacity : Option Nat) :
    ∃ args, (parse (.empty capacity) (String.ofList spelling.text)).1 =
        .ok ⟨String.ofList spelling.name.text, args⟩ ∧
      List.Forall₂ StandsFor spelling.operands.values args := by
  refine ⟨spelling.operands.values.map argumentOf, ?_, ?_⟩
  · have hparse := ((Cache.faithful_empty capacity).parse (String.ofList spelling.text)).1
    rw [hparse]
    exact spelling.parseFresh_text hlevels
  · rw [List.forall₂_map_right_iff, List.forall₂_same]
    intro value hvalue
    exact standsFor_argumentOf (spelling.operands.plain_of_mem value hvalue)

/-- A command with parentheses, a quote and a comma in its values, and blanks of all kinds. -/
def misleading : Spelling 100 where
  margin := ['\n']
  name := ⟨'_', ['t', '1'], rfl, List.all_eq_true.1 rfl⟩
  gap := ['\u2003']
  operands :=
    .some ⟨[' '], .string "a),\"(", [], by decide, .string _, by decide⟩
      [⟨['\t'], .array [.number (.integer (-1)), .bool true], ['\n'], by decide,
        .array (by
          intro item hitem
          rcases List.mem_cons.1 hitem with rfl | hrest
          · exact .integer (by decide)
          · rw [List.mem_singleton.1 hrest]
            exact .bool true),
        by decide⟩]
  trail := [' ']
  blankMargin := List.all_eq_true.1 rfl
  blankGap := List.all_eq_true.1 rfl
  blankTrail := List.all_eq_true.1 rfl

/-- Such values do not mislead the reader. -/
theorem parse_spelled_misleading :
    100 < maxDepth ∧
      ∃ args, (parse (.empty none) "\n_t1\u2003( \"a),\\\"(\",\t[-1,true]\n) ").1 =
          .ok ⟨"_t1", args⟩ ∧
        List.Forall₂ StandsFor
          [.string "a),\"(", .array [.number (.integer (-1)), .bool true]] args :=
  ⟨by decide, @parse_spelled 100 (by decide) misleading none⟩

end Deskhand.Command
