/-
  Deskhand.Command.Strategy

  Argument strategies.

  The text between the parentheses of a command is read by a chain of three strategies, and the
  first that accepts it wins. The strict one wants the items of a JSON array. The sanitized one
  first drops trailing commas and escapes quotes that stand inside a string. The manual one cuts the
  text at commas outside quotes and accepts everything.
-/

import Deskhand.Command.Argument
import Deskhand.Json.Reader
import Deskhand.Json.Writer
import Deskhand.Text.Commas

namespace Deskhand.Command

open Deskhand.Text

/-- A way to read argument text. -/
inductive Strategy where
  | strict
  | sanitized
  | manual
  deriving DecidableEq, Repr

def Strategy.name : Strategy → String
  | .strict => "strict"
  | .sanitized => "sanitized"
  | .manual => "manual"

/-- A strategy refused the argument text. -/
structure Refusal where
  strategy : Strategy
  text : String
  deriving DecidableEq, Repr

def Refusal.message (r : Refusal) : String :=
  r.strategy.name ++ " strategy rejected arguments: " ++ r.text

/-! ## Arguments from JSON -/

/-- The argument that a JSON value stands for. -/
def argumentOf : Json → Argument
  | .string value => .text value
  | .number value => .number value.toDouble
  | other => .token other.compact

def bracketed (s : List Char) : List Char := '[' :: s ++ [']']

/-- Reads an array of arguments for a strategy. -/
def readArray (strategy : Strategy) (s : List Char) : Except Refusal (List Argument) :=
  match Json.parseChars s with
  | .ok (.array items) => .ok (items.map argumentOf)
  | .ok _ => .error ⟨strategy, "not an array"⟩
  | .error e => .error ⟨strategy, e.message⟩

def readStrict (s : List Char) : Except Refusal (List Argument) := readArray .strict (bracketed s)

/-! ## Repairing quotes -/

/-- Whether a quote before this text ends its string: the next character that is not blank is a
comma or a closer, or there is none. -/
def endsString (rest : List Char) : Bool :=
  match trimLeft rest with
  | [] => true
  | c :: _ => c == ',' || c == ']' || c == '\x7d' || c == ')'

/-- Escapes the quotes inside strings, the text being read from inside a string or not. -/
def escapeInnerFrom : Bool → List Char → List Char
  | _, [] => []
  | false, c :: rest => c :: escapeInnerFrom (c == '"') rest
  | true, '\\' :: c :: rest => '\\' :: c :: escapeInnerFrom true rest
  | true, c :: rest =>
    if c = '"' then
      if endsString rest then c :: escapeInnerFrom false rest
      else '\\' :: c :: escapeInnerFrom true rest
    else c :: escapeInnerFrom true rest

/-- The text with the quotes inside its strings escaped. -/
def escapeInnerQuotes (s : List Char) : List Char := escapeInnerFrom false s

def readSanitized (s : List Char) : Except Refusal (List Argument) :=
  readArray .sanitized (escapeInnerQuotes (dropTrailingCommas (bracketed s)))

/-! ## Tokens -/

/-- The number of characters from inside a quoted token to behind its closing quote. A backslash
takes the next character with it, which must not be a line feed. -/
def quotedLength : List Char → Option Nat
  | [] => none
  | '"' :: _ => some 1
  | '\\' :: rest =>
    match rest with
    | [] => none
    | c :: rest => if c = '\n' then none else (quotedLength rest).map (· + 2)
  | _ :: rest => (quotedLength rest).map (· + 1)

/-- The number of characters of the token that starts here, zero where none does. A quote that is
not closed is an ordinary character. -/
def tokenLength : List Char → Nat
  | [] => 0
  | c :: rest =>
    let plain := 1 + (rest.takeWhile (· != ',')).length
    -- A token starts with neither a comma nor a blank.
    if c = ',' || isBlank c then 0
    else if c = '"' then (quotedLength rest).elim plain (· + 1)
    else plain

/-- The tokens of a text, the first `skip` characters belonging to an earlier one. -/
def tokensFrom : Nat → List Char → List (List Char)
  | _, [] => []
  | skip + 1, _ :: rest => tokensFrom skip rest
  | 0, c :: rest =>
    match tokenLength (c :: rest) with
    | 0 => tokensFrom 0 rest
    | length + 1 => (c :: rest).take (length + 1) :: tokensFrom length rest

def tokens (s : List Char) : List (List Char) := tokensFrom 0 s

/-- The content of a token that starts and ends with a quote. -/
def unquoted? (s : List Char) : Option (List Char) :=
  match s with
  | '"' :: rest => if rest.getLast? = some '"' then some rest.dropLast else none
  | _ => none

/-- The characters that may follow a pattern. -/
def isPatternFlag (c : Char) : Bool := "gimsuy".toList.contains c

/-- The source and flags of a pattern between slashes, the last slash being the closing one. -/
def pattern? (s : List Char) : Option (List Char × List Char) :=
  match s with
  | '/' :: rest =>
    let flags := (rest.reverse.takeWhile (· != '/')).reverse
    -- What stands before the flags still ends in the closing slash.
    let source := (rest.take (rest.length - flags.length)).dropLast
    if rest.contains '/' && !source.isEmpty && !source.contains '\n' && flags.all isPatternFlag then
      some (source, flags)
    else none
  | _ => none

/-- The argument that a token stands for. -/
def classify (s : List Char) : Argument :=
  match unquoted? s with
  | some content => .text (String.ofList (replaceAll ['\\', '"'] ['"'] content))
  | none =>
    if !s.isEmpty && s.all Char.isDigit then
      .number (Number.ofDecimal Number.binary64 false (Number.ofDigits s) 0)
    else
      match pattern? s with
      | some (source, flags) => .pattern (String.ofList source) (String.ofList flags)
      | none => .token (String.ofList s)

def readManual (s : List Char) : List Argument :=
  (tokens s).map fun token => classify (trimBoth token)

/-! ## The chain -/

def Strategy.apply (strategy : Strategy) (s : List Char) : Except Refusal (List Argument) :=
  match strategy with
  | .strict => readStrict s
  | .sanitized => readSanitized s
  | .manual => .ok (readManual s)

/-- Reads argument text by the chain of strategies. -/
def readArguments (s : List Char) : List Argument :=
  match readStrict s with
  | .ok args => args
  | .error _ =>
    match readSanitized s with
    | .ok args => args
    | .error _ => readManual s

end Deskhand.Command
