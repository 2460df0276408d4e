/-
  Deskhand.Json.Outline

  Reading JSON by expected shape.

  A reader that knows which shape it expects need not understand the parts that it has no use for.
  An outline is a document of which only the grammar has been checked: strings and numbers are kept
  as they are written. What is then asked for is read strictly; what is passed over may hold numbers
  out of range, halves of surrogate pairs, bytes that are no text, and any depth of nesting.

  A record may be written as an object, where unknown members are passed over and a known one must
  not be repeated, or as an array of its fields in order.
-/

import Deskhand.Json.Reader
import Deskhand.Text.Utf8

namespace Deskhand.Json

open Deskhand.Number
open Deskhand.Text

/-- A document of which only the grammar has been checked. -/
inductive Outline where
  | null
  | bool (value : Bool)
  | number (text : List Char)
  | string (raw : List UInt8)
  | array (items : List Outline)
  | object (members : List (List UInt8 × Outline))

namespace Outline

/-! ## The grammar -/

def isByte (c : Char) (b : UInt8) : Bool := b.toNat == c.toNat

/-- The bytes from the next token on. -/
def skipBlanks (s : List UInt8) : List UInt8 :=
  s.dropWhile fun b => isSpace (Char.ofNat b.toNat)

def isDigitByte (b : UInt8) : Bool := 0x30 ≤ b && b ≤ 0x39

def asciiChar (b : UInt8) : Char := Char.ofNat b.toNat

/-- The bytes after a word. -/
def afterWord : List Char → List UInt8 → Option (List UInt8)
  | [], rest => some rest
  | _ :: _, [] => none
  | c :: word, b :: rest => if isByte c b then afterWord word rest else none

/-- The number of bytes of the escape that follows a backslash. -/
def escapeLength : List UInt8 → Option Nat
  | [] => none
  | b :: rest =>
    if isByte 'u' b then
      match rest with
      | p :: q :: r :: s :: _ =>
        (hexQuad? (asciiChar p) (asciiChar q) (asciiChar r) (asciiChar s)).map fun _ => 5
      | _ => none
    else if "\"\\/bfnrt".toList.contains (asciiChar b) then some 1
    else none

/-- The bytes of a string up to its closing quote and the bytes after it; the first `skip` bytes
belong to an escape. -/
def stringFrom : Nat → List UInt8 → Option (List UInt8 × List UInt8)
  | _, [] => none
  | skip + 1, b :: rest => (stringFrom skip rest).map fun (raw, rest) => (b :: raw, rest)
  | 0, b :: rest =>
    if isByte '"' b then some ([], rest)
    else if isByte '\\' b then do
      let length ← escapeLength rest
      let (raw, rest) ← stringFrom length rest
      return (b :: raw, rest)
    else if b < 0x20 then none
    else (stringFrom 0 rest).map fun (raw, rest) => (b :: raw, rest)

/-- Whether the text of a number follows the grammar; the sign has been taken off. -/
def isUnsignedNumber (s : List Char) : Bool :=
  let digits := s.takeWhile Char.isDigit
  let rest := s.dropWhile Char.isDigit
  let fractionEnd :=
    match rest with
    | '.' :: rest =>
      if (rest.takeWhile Char.isDigit).isEmpty then none else some (rest.dropWhile Char.isDigit)
    | rest => some rest
  let exponentEnds (s : List Char) : Bool := !s.isEmpty && s.all Char.isDigit
  !digits.isEmpty && (digits.head? != some '0' || digits.length == 1) &&
    match fractionEnd with
    | none => false
    | some [] => true
    | some (e :: rest) =>
      (e == 'e' || e == 'E') &&
        match rest with
        | '+' :: rest | '-' :: rest => exponentEnds rest
        | rest => exponentEnds rest

/-- Whether a byte may stand in a number. -/
def isNumberByte (b : UInt8) : Bool :=
  isDigitByte b || "+-.eE".toList.contains (asciiChar b)

/-- A number and the bytes after it. -/
def readNumberText (s : List UInt8) : Option (Outline × List UInt8) :=
  let text := (s.takeWhile isNumberByte).map asciiChar
  let unsigned := if text.head? == some '-' then text.drop 1 else text
  if isUnsignedNumber unsigned then some (.number text, s.dropWhile isNumberByte) else none

mutual

/-- A value and the bytes after it. -/
def valueFrom : (fuel : Nat) → List UInt8 → Option (Outline × List UInt8)
  | 0, _ => none
  | fuel + 1, s =>
    match skipBlanks s with
    | [] => none
    | b :: rest =>
      if isByte 'n' b then (afterWord "ull".toList rest).map fun rest => (.null, rest)
      else if isByte 't' b then (afterWord "rue".toList rest).map fun rest => (.bool true, rest)
      else if isByte 'f' b then (afterWord "alse".toList rest).map fun rest => (.bool false, rest)
      else if isByte '"' b then (stringFrom 0 rest).map fun (raw, rest) => (.string raw, rest)
      else if isByte '[' b then
        (itemsFrom fuel true rest).map fun (items, rest) => (.array items, rest)
      else if isByte '\x7b' b then
        (membersFrom fuel true rest).map fun (members, rest) => (.object members, rest)
      else readNumberText (b :: rest)

/-- The items of an array up to its closing bracket. -/
def itemsFrom : (fuel : Nat) → (first : Bool) → List UInt8 → Option (List Outline × List UInt8)
  | 0, _, _ => none
  | fuel + 1, first, s =>
    match skipBlanks s with
    | [] => none
    | b :: rest =>
      if isByte ']' b then some ([], rest)
      else if !first && !isByte ',' b then none
      else do
        let start := skipBlanks (if first then b :: rest else rest)
        if !first && start.head?.any (isByte ']') then none
        else
          let (item, rest) ← valueFrom fuel start
          let (items, rest) ← itemsFrom fuel false rest
          return (item :: items, rest)

/-- The members of an object up to its closing brace. -/
def membersFrom : (fuel : Nat) → (first : Bool) → List UInt8 →
    Option (List (List UInt8 × Outline) × List UInt8)
  | 0, _, _ => none
  | fuel + 1, first, s =>
    match skipBlanks s with
    | [] => none
    | b :: rest =>
      if isByte '\x7d' b then some ([], rest)
      else if !first && !isByte ',' b then none
      else do
        match skipBlanks (if first then b :: rest else rest) with
        | q :: rest =>
          if isByte '"' q then
            let (key, rest) ← stringFrom 0 rest
            match skipBlanks rest with
            | c :: rest =>
              if isByte ':' c then
                let (value, rest) ← valueFrom fuel rest
                let (members, rest) ← membersFrom fuel false rest
                return ((key, value) :: members, rest)
              else none
            | [] => none
          else none
        | [] => none

end

/-- The outline of a document: one value with nothing but spaces around it. -/
def ofBytes (s : List UInt8) : Option Outline := do
  let (value, rest) ← valueFrom (2 * s.length + 2) s
  if (skipBlanks rest).isEmpty then some value else none

/-- The outline of a text. -/
def ofText (s : String) : Option Outline := ofBytes (Utf8.encode s)

/-! ## Strict reading -/

/-- The content of a string as it is written. -/
def content? (raw : List UInt8) : Option String := do
  let text ← Utf8.decode? raw
  match readString (text.toList ++ ['"']) with
  | .ok (content, []) => some content
  | _ => none

def text? : Outline → Option String
  | .string raw => content? raw
  | _ => none

def number? : Outline → Option Json.Number
  | .number text =>
    let result :=
      match text with
      | '-' :: rest => readNumber true rest
      | rest => readNumber false rest
    match result with
    | .ok (value, []) => some value
    | _ => none
  | _ => none

def natural? (above : Nat) (o : Outline) : Option Nat :=
  match o.number? with
  | some (.integer n) => if 0 ≤ n ∧ n ≤ above then some n.toNat else none
  | _ => none

/-- A number with 24 significant bits. -/
def single? (o : Outline) : Option Single :=
  o.number?.map fun
    | .integer n => .ofInt binary32 n
    | .float x => x.convert binary32

def list? {α : Type} (read : Outline → Option α) : Outline → Option (List α)
  | .array items => items.mapM read
  | _ => none

def nullable? {α : Type} (read : Outline → Option α) : Outline → Option (Option α)
  | .null => some none
  | o => (read o).map some

/-! ## Records -/

/-- The value of a field among the members of an object; a repeated field is refused. -/
def field? (members : List (String × Outline)) (name : String) : Option (Option Outline) :=
  match members.filter fun member => member.1 == name with
  | [] => some none
  | [(_, value)] => some (some value)
  | _ => none

/-- The values of the fields of a record in order. A field may be missing; those that stand at the
end of an array may. -/
def fields? (names : List String) : Outline → Option (List (Option Outline))
  | .object members => do
    let members ← members.mapM fun (key, value) => (content? key).map fun key => (key, value)
    names.mapM (field? members)
  | .array items =>
    if items.length ≤ names.length then
      some (items.map some ++ List.replicate (names.length - items.length) none)
    else none
  | _ => none

/-- Whether a record is written as an array. -/
def isArray : Outline → Bool
  | .array _ => true
  | _ => false

/-- The value of a field that may be missing. -/
def orDefault {α : Type} (read : Outline → Option α) (default : α) : Option Outline → Option α
  | none => some default
  | some o => read o

end Outline

end Deskhand.Json
