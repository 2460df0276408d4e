/-
  Deskhand.Json.Reader

  Reading JSON.

  A reader of JSON documents that says where and why it stops. Each step takes the rest of the text
  and returns what it has read and the rest after it; a `Fault` records how many bytes were still to
  come, from which `locate` finds the line and the column of the error.

  Three rules go beyond the grammar. Arrays and objects may be nested 127 deep. An integer that fits
  64 bits is kept as it is. Any other number is taken from its leading digits, as many as fit 64
  bits, scaled by a power of ten in binary arithmetic.
-/

import Deskhand.Json.Basic
import Deskhand.Number.Reading

namespace Deskhand.Json

open Deskhand.Number

/-! ## Errors -/

/-- Why a text is not a JSON document. -/
inductive Reason where
  | endInValue
  | endInArray
  | endInObject
  | endInString
  | expectedValue
  | expectedWord
  | expectedCommaOrBracket
  | expectedCommaOrBrace
  | expectedColon
  | expectedKey
  | trailingComma
  | trailingText
  | invalidNumber
  | numberOutOfRange
  | invalidEscape
  | controlCharacter
  | loneSurrogate
  | unfinishedPair
  | tooDeep
  deriving DecidableEq, Repr

def Reason.message : Reason → String
  | .endInValue => "EOF while parsing a value"
  | .endInArray => "EOF while parsing a list"
  | .endInObject => "EOF while parsing an object"
  | .endInString => "EOF while parsing a string"
  | .expectedValue => "expected value"
  | .expectedWord => "expected ident"
  | .expectedCommaOrBracket => "expected `,` or `]`"
  | .expectedCommaOrBrace => "expected `,` or `\x7d`"
  | .expectedColon => "expected `:`"
  | .expectedKey => "key must be a string"
  | .trailingComma => "trailing comma"
  | .trailingText => "trailing characters"
  | .invalidNumber => "invalid number"
  | .numberOutOfRange => "number out of range"
  | .invalidEscape => "invalid escape"
  | .controlCharacter => "control character (\\u0000-\\u001F) found while parsing a string"
  | .loneSurrogate => "lone leading surrogate in hex escape"
  | .unfinishedPair => "unexpected end of hex escape"
  | .tooDeep => "recursion limit exceeded"

/-- A reason and the number of bytes of the text that were still to come. -/
structure Fault where
  reason : Reason
  remaining : Nat
  deriving DecidableEq, Repr

def byteCount (s : List Char) : Nat := s.foldr (fun c count => c.utf8Size + count) 0

/-- An error right before the rest of the text. -/
def faultBefore {α : Type} (reason : Reason) (rest : List Char) : Except Fault α :=
  .error ⟨reason, byteCount rest⟩

/-- An error at the next byte of the text, if there is one. -/
def faultAt {α : Type} (reason : Reason) (rest : List Char) : Except Fault α :=
  .error ⟨reason, byteCount rest - 1⟩

/-! ## Blanks and words -/

/-- The four characters that may stand between tokens. -/
def isSpace (c : Char) : Bool := c == ' ' || c == '\n' || c == '\t' || c == '\r'

/-- The text from the next token on. -/
def skipSpace (s : List Char) : List Char := s.dropWhile isSpace

/-- Reads the rest of one of the three words. -/
def readWord (value : Json) : List Char → List Char → Except Fault (Json × List Char)
  | [], rest => .ok (value, rest)
  | _ :: _, [] => faultBefore .endInValue []
  | w :: word, c :: rest =>
    if c = w then readWord value word rest else faultAt .expectedWord (c :: rest)

/-! ## Strings -/

def hexDigit? (c : Char) : Option Nat :=
  if '0' ≤ c ∧ c ≤ '9' then some (c.toNat - '0'.toNat)
  else if 'a' ≤ c ∧ c ≤ 'f' then some (c.toNat - 'a'.toNat + 10)
  else if 'A' ≤ c ∧ c ≤ 'F' then some (c.toNat - 'A'.toNat + 10)
  else none

/-- The number that four hexadecimal digits denote. -/
def hexQuad? (a b c d : Char) : Option Nat := do
  return 4096 * (← hexDigit? a) + 256 * (← hexDigit? b) + 16 * (← hexDigit? c) + (← hexDigit? d)

/-- The four digits after a hexadecimal escape. Four bytes are taken for them, whatever they are. -/
def readQuad (s : List Char) : Except Fault Nat :=
  let refused : Except Fault Nat :=
    if byteCount s < 4 then .error ⟨.endInString, 0⟩ else .error ⟨.invalidEscape, byteCount s - 4⟩
  match s with
  | a :: b :: c :: d :: _ => (hexQuad? a b c d).elim refused .ok
  | _ => refused

/-- What stands at a position inside a string: its closing quote, or a character written with
`used` characters. -/
inductive StringPart where
  | close
  | char (value : Char) (used : Nat)

/-- Whether a code unit opens a surrogate pair. -/
def isLeading (n : Nat) : Bool := 0xD800 ≤ n && n ≤ 0xDBFF

/-- Whether a code unit ends a surrogate pair. -/
def isTrailing (n : Nat) : Bool := 0xDC00 ≤ n && n ≤ 0xDFFF

/-- The second half of a surrogate pair, `rest` being what follows the first half. -/
def readTrailing (leading : Nat) (rest : List Char) : Except Fault StringPart :=
  match rest with
  | '\\' :: 'u' :: digits =>
    match readQuad digits with
    | .error fault => .error fault
    | .ok trailing =>
      if isTrailing trailing then
        .ok (.char (Char.ofNat ((leading - 0xD800) * 1024 + (trailing - 0xDC00) + 0x10000)) 12)
      else faultBefore .loneSurrogate (digits.drop 4)
  | ['\\'] => faultBefore .endInString []
  | '\\' :: other => faultAt .unfinishedPair other
  | [] => faultBefore .endInString []
  | other => faultAt .unfinishedPair other

/-- A hexadecimal escape, `digits` being what follows its `u`. -/
def readUnicode (digits : List Char) : Except Fault StringPart :=
  match readQuad digits with
  | .error fault => .error fault
  | .ok n =>
    if isTrailing n then faultBefore .loneSurrogate (digits.drop 4)
    else if isLeading n then readTrailing n (digits.drop 4)
    else .ok (.char (Char.ofNat n) 6)

/-- An escape, `rest` being what follows its backslash. -/
def readEscape : List Char → Except Fault StringPart
  | [] => faultBefore .endInString []
  | 'u' :: digits => readUnicode digits
  | '"' :: _ => .ok (.char '"' 2)
  | '\\' :: _ => .ok (.char '\\' 2)
  | '/' :: _ => .ok (.char '/' 2)
  | 'b' :: _ => .ok (.char '\x08' 2)
  | 'f' :: _ => .ok (.char '\x0c' 2)
  | 'n' :: _ => .ok (.char '\n' 2)
  | 'r' :: _ => .ok (.char '\r' 2)
  | 't' :: _ => .ok (.char '\t' 2)
  | other => faultAt .invalidEscape other

/-- The part of a string at the first character of a text. -/
def readPart (c : Char) (rest : List Char) : Except Fault StringPart :=
  if c = '"' then .ok .close
  else if c = '\\' then readEscape rest
  else if c.toNat < 0x20 then faultBefore .controlCharacter rest
  else .ok (.char c 1)

/-- The content of a string and the text after its closing quote, the first `skip` characters
having been used up by an escape. -/
def readStringFrom : Nat → List Char → Except Fault (List Char × List Char)
  | _, [] => faultBefore .endInString []
  | skip + 1, _ :: rest => readStringFrom skip rest
  | 0, c :: rest =>
    match readPart c rest with
    | .error fault => .error fault
    | .ok .close => .ok ([], rest)
    | .ok (.char value used) =>
      match readStringFrom (used - 1) rest with
      | .error fault => .error fault
      | .ok (content, rest) => .ok (value :: content, rest)

/-- The content of a string whose opening quote has been read. -/
def readString (s : List Char) : Except Fault (String × List Char) :=
  match readStringFrom 0 s with
  | .error fault => .error fault
  | .ok (content, rest) => .ok (String.ofList content, rest)

/-! ## Numbers -/

/-- Takes digits into a significand while it fits 64 bits. Returns the significand and the number
of digits taken. -/
def takeDigits : Nat → List Char → Nat × Nat
  | n, [] => (n, 0)
  | n, c :: rest =>
    let next := 10 * n + digitValue c
    if next ≤ maxU64 then
      let (result, count) := takeDigits next rest
      (result, count + 1)
    else (n, 0)

/-- The power of ten of a table that ends at `10 ^ 308`. -/
def powerOfTen (n : Nat) : Double := ofDecimal binary64 false 1 n

/-- `value * 10 ^ exponent` in binary arithmetic: one multiplication, or divisions by at most
`10 ^ 308` each. Nothing if the result is infinite. -/
def scale : (fuel : Nat) → Double → Int → Option Double
  | 0, _, _ => some (.finite false 0 0)
  | fuel + 1, value, exponent =>
    if exponent.natAbs ≤ 308 then
      if 0 ≤ exponent then
        let scaled := value.mul (powerOfTen exponent.toNat)
        if scaled.isFinite then some scaled else none
      else some (value.div (powerOfTen (-exponent).toNat))
    else if value.units = 0 then some value
    else if 0 ≤ exponent then none
    else scale fuel (value.div (powerOfTen 308)) (exponent + 308)

/-- The number `significand * 10 ^ exponent` with a sign. -/
def makeFloat (negative : Bool) (significand : Nat) (exponent : Int) (rest : List Char) :
    Except Fault (Json.Number × List Char) :=
  match scale 4 (.ofNat binary64 significand) exponent with
  | some value => .ok (.float (if negative then value.negate else value), rest)
  | none => faultBefore .numberOutOfRange rest

/-- The integer with a given magnitude; what does not fit 64 bits and the negative zero are binary
numbers. -/
def makeInteger (negative : Bool) (significand : Nat) : Json.Number :=
  if negative then
    if 0 < significand ∧ significand ≤ maxI64 + 1 then .integer (-(significand : Int))
    else .float (Binary.ofNat binary64 significand).negate
  else .integer significand

/-- The largest exponent that is read digit by digit. -/
def maxExponent : Nat := maxI32

/-- The digits of an exponent, the first of them in `n`. -/
def readExponentDigits (negative : Bool) (significand : Nat) (start : Int) (down : Bool) :
    Nat → List Char → Except Fault (Json.Number × List Char)
  | n, [] => makeFloat negative significand (if down then start - n else start + n) []
  | n, c :: rest =>
    if c.isDigit then
      if maxExponent < 10 * n + digitValue c then
        -- Zero stays zero, and what is divided by so much is zero too.
        if significand ≠ 0 ∧ !down then faultBefore .numberOutOfRange rest
        else .ok (.float (.finite negative 0 0), rest.dropWhile Char.isDigit)
      else readExponentDigits negative significand start down (10 * n + digitValue c) rest
    else makeFloat negative significand (if down then start - n else start + n) (c :: rest)

/-- An exponent, `s` being what follows its `e`. -/
def readExponent (negative : Bool) (significand : Nat) (start : Int) (s : List Char) :
    Except Fault (Json.Number × List Char) :=
  let (down, s) :=
    match s with
    | '+' :: rest => (false, rest)
    | '-' :: rest => (true, rest)
    | rest => (false, rest)
  match s with
  | [] => faultBefore .endInValue []
  | c :: rest =>
    if c.isDigit then readExponentDigits negative significand start down (digitValue c) rest
    else faultAt .invalidNumber (c :: rest)

/-- What may follow the digits before or after the point. -/
def readAfterDigits (negative : Bool) (significand : Nat) (exponent : Int) (s : List Char) :
    Except Fault (Json.Number × List Char) :=
  match s with
  | 'e' :: rest | 'E' :: rest => readExponent negative significand exponent rest
  | rest => makeFloat negative significand exponent rest

/-- The digits after the point. -/
def readFraction (negative : Bool) (significand : Nat) (exponent : Int) (s : List Char) :
    Except Fault (Json.Number × List Char) :=
  let digits := s.takeWhile Char.isDigit
  let rest := s.dropWhile Char.isDigit
  if digits.isEmpty then
    if rest.isEmpty then faultBefore .endInValue [] else faultAt .invalidNumber rest
  else
    let (significand, taken) := takeDigits significand digits
    readAfterDigits negative significand (exponent - taken) rest

/-- A number whose sign has been read. -/
def readNumber (negative : Bool) (s : List Char) : Except Fault (Json.Number × List Char) :=
  match s with
  | [] => faultBefore .endInValue []
  | c :: next =>
    if !c.isDigit then faultAt .invalidNumber (c :: next)
    else
      let digits := if c = '0' then [c] else s.takeWhile Char.isDigit
      let rest := if c = '0' then next else s.dropWhile Char.isDigit
      -- A zero in front stands alone.
      if c = '0' ∧ (next.head?.any Char.isDigit) then faultAt .invalidNumber next
      else
        let (significand, taken) := takeDigits 0 digits
        let dropped : Int := digits.length - taken
        match rest with
        | '.' :: rest => readFraction negative significand dropped rest
        | 'e' :: rest | 'E' :: rest => readExponent negative significand dropped rest
        | rest =>
          -- Digits that do not fit the significand make the number a binary one.
          if dropped = 0 then .ok (makeInteger negative significand, rest)
          else makeFloat negative significand dropped rest

/-! ## Values -/

/-- How deep arrays and objects may be nested. -/
def maxDepth : Nat := 127

def numberValue (result : Except Fault (Json.Number × List Char)) :
    Except Fault (Json × List Char) :=
  match result with
  | .error fault => .error fault
  | .ok (value, rest) => .ok (.number value, rest)

mutual

/-- A value, with room for `depth` more levels. -/
def readValue : (fuel depth : Nat) → List Char → Except Fault (Json × List Char)
  | 0, _, rest => faultAt .endInValue rest
  | fuel + 1, depth, s =>
    match skipSpace s with
    | [] => faultAt .endInValue []
    | 'n' :: rest => readWord .null ['u', 'l', 'l'] rest
    | 't' :: rest => readWord (.bool true) ['r', 'u', 'e'] rest
    | 'f' :: rest => readWord (.bool false) ['a', 'l', 's', 'e'] rest
    | '"' :: rest =>
      match readString rest with
      | .error fault => .error fault
      | .ok (content, rest) => .ok (.string content, rest)
    | '[' :: rest =>
      match depth with
      | 0 => faultAt .tooDeep ('[' :: rest)
      | depth + 1 =>
        match readItems fuel depth true rest with
        | .error fault => .error fault
        | .ok (items, rest) => .ok (.array items, rest)
    | '\x7b' :: rest =>
      match depth with
      | 0 => faultAt .tooDeep ('\x7b' :: rest)
      | depth + 1 =>
        match readMembers fuel depth true rest with
        | .error fault => .error fault
        | .ok (members, rest) => .ok (ofMembers members, rest)
    | '-' :: rest => numberValue (readNumber true rest)
    | c :: rest =>
      if c.isDigit then numberValue (readNumber false (c :: rest))
      else faultAt .expectedValue (c :: rest)

/-- The items of an array up to its closing bracket, `first` before the first of them. -/
def readItems : (fuel depth : Nat) → (first : Bool) → List Char →
    Except Fault (List Json × List Char)
  | 0, _, _, rest => faultAt .endInArray rest
  | fuel + 1, depth, first, s =>
    match skipSpace s with
    | [] => faultAt .endInArray []
    | ']' :: rest => .ok ([], rest)
    | c :: rest =>
      let start : Except Fault (List Char) :=
        -- Between two items there is one comma, and none in front of the bracket.
        if first then .ok (c :: rest)
        else if c = ',' then
          match skipSpace rest with
          | [] => faultAt .endInValue []
          | ']' :: rest => faultAt .trailingComma (']' :: rest)
          | rest => .ok rest
        else faultAt .expectedCommaOrBracket (c :: rest)
      match start with
      | .error fault => .error fault
      | .ok rest =>
        match readValue fuel depth rest with
        | .error fault => .error fault
        | .ok (item, rest) =>
          match readItems fuel depth false rest with
          | .error fault => .error fault
          | .ok (items, rest) => .ok (item :: items, rest)

/-- The members of an object up to its closing brace, in the order of the text. -/
def readMembers : (fuel depth : Nat) → (first : Bool) → List Char →
    Except Fault (List (String × Json) × List Char)
  | 0, _, _, rest => faultAt .endInObject rest
  | fuel + 1, depth, first, s =>
    match skipSpace s with
    | [] => faultAt .endInObject []
    | '\x7d' :: rest => .ok ([], rest)
    | c :: rest =>
      let start : Except Fault (List Char) :=
        if first then
          if c = '"' then .ok rest else faultAt .expectedKey (c :: rest)
        else if c = ',' then
          match skipSpace rest with
          | [] => faultAt .endInValue []
          | '"' :: rest => .ok rest
          | '\x7d' :: rest => faultAt .trailingComma ('\x7d' :: rest)
          | rest => faultAt .expectedKey rest
        else faultAt .expectedCommaOrBrace (c :: rest)
      match start with
      | .error fault => .error fault
      | .ok rest =>
        match readString rest with
        | .error fault => .error fault
        | .ok (key, rest) =>
          match skipSpace rest with
          | [] => faultAt .endInObject []
          | ':' :: rest =>
            match readValue fuel depth rest with
            | .error fault => .error fault
            | .ok (value, rest) =>
              match readMembers fuel depth false rest with
              | .error fault => .error fault
              | .ok (members, rest) => .ok ((key, value) :: members, rest)
          | rest => faultAt .expectedColon rest

end

/-- Enough steps for any text: each step but one of two uses up a character. -/
def enoughFuel (s : List Char) : Nat := 2 * s.length + 2

/-- A value at the start of a text, and the text after it. -/
def readLeading (s : List Char) : Except Fault (Json × List Char) :=
  readValue (enoughFuel s) maxDepth s

/-- A document: one value with nothing but spaces around it. -/
def readDocument (s : List Char) : Except Fault Json :=
  match readLeading s with
  | .error fault => .error fault
  | .ok (value, rest) =>
    match skipSpace rest with
    | [] => .ok value
    | rest => faultAt .trailingText rest

/-! ## Where an error is -/

/-- A reason with the line and the column, in bytes, where it was found. -/
structure ParseError where
  reason : Reason
  line : Nat
  column : Nat
  deriving DecidableEq, Repr

def ParseError.message (e : ParseError) : String :=
  e.reason.message ++ " at line " ++ toString e.line ++ " column " ++ toString e.column

/-- The line and column after `offset` more bytes. -/
def locate : List Char → (offset line column : Nat) → Nat × Nat
  | [], _, line, column => (line, column)
  | c :: rest, offset, line, column =>
    if offset = 0 then (line, column)
    else if c = '\n' then locate rest (offset - 1) (line + 1) 0
    else locate rest (offset - c.utf8Size) line (column + min offset c.utf8Size)

/-- A fault of a text, placed. -/
def Fault.place (s : List Char) (fault : Fault) : ParseError :=
  let (line, column) := locate s (byteCount s - fault.remaining) 1 0
  ⟨fault.reason, line, column⟩

def parseChars (s : List Char) : Except ParseError Json :=
  match readDocument s with
  | .ok value => .ok value
  | .error fault => .error (fault.place s)

def parse (s : String) : Except ParseError Json := parseChars s.toList

end Deskhand.Json
