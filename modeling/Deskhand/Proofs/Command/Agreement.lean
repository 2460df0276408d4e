/-
  Deskhand.Proofs.Command.Agreement

  Where the strict and the manual strategy agree.

  Whole numbers written with their digits and texts in quotes are JSON values as well as tokens. The
  strict strategy finds the array of the values, the manual one cuts the text at the commas between
  the tokens, and both come to the same arguments, whatever commas, brackets and quotes are in the
  texts.
-/

import Deskhand.Proofs.Command.Spelling
import Deskhand.Proofs.Command.Tokens

namespace Deskhand.Command

open Deskhand.Text Deskhand.Json Deskhand.Number

/-! ## Simple arguments -/

/-- A whole number of 64 bits, or a text without control characters and backslashes. -/
inductive Simple where
  | integer (n : Nat) (fits : n ≤ maxU64)
  | text (content : List Char) (visible : ∀ c ∈ content, 0x20 ≤ c.toNat)
      (noBackslash : '\\' ∉ content)

/-- The number in decimal digits; the text in quotes, its own quotes escaped. -/
def Simple.chars : Simple → List Char
  | .integer n _ => Nat.toDigits 10 n
  | .text content _ _ => quotedToken content

/-- The binary number nearest to the number; the text itself. -/
def Simple.argument : Simple → Argument
  | .integer n _ => .number (.ofNat binary64 n)
  | .text content _ _ => .text (String.ofList content)

/-- A simple argument with JSON spaces around it. -/
structure SimpleOperand where
  before : List Char
  simple : Simple
  after : List Char
  blankBefore : Blank before
  blankAfter : Blank after

/-- The argument as it stands between two commas. -/
def SimpleOperand.chars (operand : SimpleOperand) : List Char :=
  operand.before ++ (operand.simple.chars ++ operand.after)

/-- Simple arguments with commas between them. -/
def simpleText (operands : List SimpleOperand) : List Char :=
  List.intercalate [','] (operands.map SimpleOperand.chars)

/-! ## As values -/

/-- The value that is written. -/
def Simple.value : Simple → Json
  | .integer n _ => .number (.integer n)
  | .text content _ _ => .string (String.ofList content)

theorem Simple.plain (simple : Simple) : Plain 0 simple.value := by
  cases simple with
  | integer n fits =>
    have hlower : -(maxI64 + 1 : Int) ≤ n := by omega
    exact .integer ⟨hlower, Int.ofNat_le.2 fits⟩
  | text content visible noBackslash => exact .string _

theorem literal_eq_quotedToken {s : List Char} (hvisible : ∀ c ∈ s, 0x20 ≤ c.toNat)
    (hbackslash : '\\' ∉ s) : literal s = quotedToken s := by
  have hescape : s.flatMap escapeChar = escapeQuotes s := by
    rw [escapeQuotes, List.flatMap_def, List.flatMap_def]
    -- The two ways to escape agree on every character of the text.
    refine congrArg List.flatten (List.map_congr_left fun c hc => ?_)
    split
    · next hquote =>
      subst hquote
      rfl
    · next hquote =>
      have hne : c ≠ '\\' := fun heq => hbackslash (heq ▸ hc)
      exact escapeChar_of_visible hquote hne (hvisible c hc)
  rw [literal, hescape, quotedToken, List.cons_append]

/-- A simple argument is written like its value. -/
theorem Simple.compactChars_value (simple : Simple) : compactChars simple.value = simple.chars := by
  cases simple with
  | integer n fits => exact text_ofNat n
  | text content visible noBackslash =>
    have hliteral := literal_eq_quotedToken visible noBackslash
    simpa [value, chars, compactChars] using hliteral

theorem Simple.argumentOf_value (simple : Simple) : argumentOf simple.value = simple.argument := by
  cases simple with
  | integer n fits =>
    have hsign : decide ((n : Int) < 0) = false := by simp
    simp only [value, argument, argumentOf, Json.Number.toDouble, Binary.ofInt, Binary.ofNat, hsign,
      Int.natAbs_natCast]
  | text content visible noBackslash => rfl

def SimpleOperand.operand (operand : SimpleOperand) : Operand 0 :=
  ⟨operand.before, operand.simple.value, operand.after, operand.blankBefore, operand.simple.plain,
    operand.blankAfter⟩

theorem SimpleOperand.operand_chars (operand : SimpleOperand) :
    operand.operand.spelled.chars = operand.chars := by
  simp [SimpleOperand.operand, Operand.spelled, Spelled.chars, SimpleOperand.chars,
    operand.simple.compactChars_value]

theorem readStrict_simpleText (operands : List SimpleOperand) :
    readStrict (simpleText operands) =
      .ok (operands.map fun operand => operand.simple.argument) := by
  cases operands with
  | nil => exact (Operands.none [] blank_nil : Operands 0).readStrict_text (by decide)
  | cons first others =>
    -- Between brackets the arguments are values without any nesting.
    have hread := (Operands.some first.operand (others.map SimpleOperand.operand)).readStrict_text
      (by decide)
    have htext : (Operands.some first.operand (others.map SimpleOperand.operand)).text =
        simpleText (first :: others) := by
      rw [simpleText, List.map_cons, intercalate_cons, List.flatMap_map]
      simp [Operands.text, SimpleOperand.operand_chars, List.flatMap_map]
    rw [htext] at hread
    simpa [Operands.values, SimpleOperand.operand, Function.comp_def, Simple.argumentOf_value]
      using hread

/-! ## As tokens -/

theorem Simple.readAs (simple : Simple) : ReadAs simple.chars simple.argument := by
  cases simple with
  | integer n fits => exact readAs_toDigits fits
  | text content visible noBackslash => exact readAs_quotedToken noBackslash

def SimpleOperand.piece (operand : SimpleOperand) : Piece :=
  ⟨operand.before, operand.simple.chars, operand.after, operand.simple.argument,
    operand.blankBefore.isBlank, operand.blankAfter.isBlank, operand.simple.readAs⟩

theorem readManual_simpleText (operands : List SimpleOperand) :
    readManual (simpleText operands) = operands.map fun operand => operand.simple.argument := by
  have hread := readManual_joined (operands.map SimpleOperand.piece)
  rw [joined, List.map_map, List.map_map] at hread
  exact hread

/-! ## Agreement -/

/-- **Two ways to one result.** The strict and the manual strategy both accept simple arguments and
give the same list: each number and each text, in order. -/
theorem apply_strict_manual (operands : List SimpleOperand) :
    Strategy.strict.apply (simpleText operands) =
        .ok (operands.map fun operand => operand.simple.argument) ∧
      Strategy.manual.apply (simpleText operands) =
        .ok (operands.map fun operand => operand.simple.argument) :=
  ⟨readStrict_simpleText operands, congrArg Except.ok (readManual_simpleText operands)⟩

/-- The largest number, and texts with commas, brackets and quotes. -/
def quotedCommas : List SimpleOperand :=
  [⟨[' ', ' '], .integer 18446744073709551615 (by decide), ['\t', ' '], by decide, by decide⟩,
    ⟨[], .text "a],\"".toList (by simp) (by decide), [], Json.blank_nil, Json.blank_nil⟩,
    ⟨['\n', ' '], .text [] (by simp) (by decide), [], by decide, Json.blank_nil⟩]

/-- Both strategies take them. -/
theorem apply_strict_manual_quotedCommas :
    Strategy.strict.apply "  18446744073709551615\t ,\"a],\\\"\",\n \"\"".toList =
        .ok [.number (.ofNat binary64 18446744073709551615), .text "a],\"", .text ""] ∧
      Strategy.manual.apply "  18446744073709551615\t ,\"a],\\\"\",\n \"\"".toList =
        .ok [.number (.ofNat binary64 18446744073709551615), .text "a],\"", .text ""] :=
  apply_strict_manual quotedCommas

end Deskhand.Command
