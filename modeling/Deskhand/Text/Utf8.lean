/-
  Deskhand.Text.Utf8

  Text as bytes.

  Texts are written as UTF-8. Bytes that come from elsewhere need not be UTF-8: a run of bytes that
  starts a character but does not finish it, or a byte that cannot start one, is one broken piece. A
  strict reading refuses broken pieces and a lenient one puts the replacement character in the place
  of each.
-/

namespace Deskhand.Text.Utf8

def encodeChars (s : List Char) : List UInt8 := s.flatMap String.utf8EncodeChar

def encode (s : String) : List UInt8 := encodeChars s.toList

/-- What stands at a position: a character written with some bytes, or some bytes that are none. -/
inductive Piece where
  | char (c : Char) (length : Nat)
  | broken (length : Nat)

/-- What the first byte of a longer character says: how many bytes the character has, and between
which bounds the second one lies. -/
structure Lead where
  size : Nat
  low : UInt8
  high : UInt8

/-- The reading of a first byte that is not ASCII. Overlong forms, surrogates and numbers beyond the
last character are shut out by the bounds of the second byte. -/
def lead? (b : UInt8) : Option Lead :=
  if 0xC2 ≤ b ∧ b ≤ 0xDF then some ⟨2, 0x80, 0xBF⟩
  else if b = 0xE0 then some ⟨3, 0xA0, 0xBF⟩
  else if b = 0xED then some ⟨3, 0x80, 0x9F⟩
  else if 0xE1 ≤ b ∧ b ≤ 0xEF then some ⟨3, 0x80, 0xBF⟩
  else if b = 0xF0 then some ⟨4, 0x90, 0xBF⟩
  else if 0xF1 ≤ b ∧ b ≤ 0xF3 then some ⟨4, 0x80, 0xBF⟩
  else if b = 0xF4 then some ⟨4, 0x80, 0x8F⟩
  else none

def isContinuation (b : UInt8) : Bool := 0x80 ≤ b && b ≤ 0xBF

/-- The character with a first byte and the bytes that continue it. -/
def assemble (size : Nat) (first : UInt8) (others : List UInt8) : Char :=
  Char.ofNat (others.foldl (fun n b => 64 * n + b.toNat % 64) (first.toNat % Nat.pow 2 (7 - size)))

/-- The piece that starts with a byte. -/
def piece (first : UInt8) (rest : List UInt8) : Piece :=
  if first < 0x80 then .char (Char.ofNat first.toNat) 1
  else
    match lead? first, rest with
    | some lead, second :: more =>
      if lead.low ≤ second ∧ second ≤ lead.high then
        let others := (more.take (lead.size - 2)).takeWhile isContinuation
        if others.length = lead.size - 2 then
          .char (assemble lead.size first (second :: others)) lead.size
        else .broken (2 + others.length)
      else .broken 1
    | _, _ => .broken 1

/-- Reads bytes, the first `skip` of them belonging to an earlier piece, behind the characters in
`read`, which stand in reverse. A broken piece becomes `replacement`; without one it ends the
reading. Also says whether all bytes were read. -/
def decodeFrom (replacement : Option Char) :
    (skip : Nat) → (read : List Char) → List UInt8 → List Char × Bool
  | _, read, [] => (read.reverse, true)
  | skip + 1, read, _ :: rest => decodeFrom replacement skip read rest
  | 0, read, first :: rest =>
    match piece first rest with
    | .char c length => decodeFrom replacement (length - 1) (c :: read) rest
    | .broken length =>
      match replacement with
      | some c => decodeFrom replacement (length - 1) (c :: read) rest
      | none => (read.reverse, false)

/-- The text of bytes, with a replacement character for each broken piece. -/
def lenient (bytes : List UInt8) : String :=
  String.ofList (decodeFrom (some '\uFFFD') 0 [] bytes).1

/-- The text of bytes up to the first broken piece. -/
def leading (bytes : List UInt8) : List Char := (decodeFrom none 0 [] bytes).1

/-- The text of bytes that are UTF-8. -/
def decode? (bytes : List UInt8) : Option String :=
  match decodeFrom none 0 [] bytes with
  | (text, true) => some (String.ofList text)
  | (_, false) => none

end Deskhand.Text.Utf8
