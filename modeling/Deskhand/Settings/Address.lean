/-
  Deskhand.Settings.Address

  Socket addresses.

  The address that the server listens on: four octets or eight groups, and a port. Groups may be
  shortened by a double colon, may end in four octets, and may name a scope. The text of an address
  is its canonical one, with the longest run of zero groups shortened.
-/

import Deskhand.Number.Reading

namespace Deskhand

open Deskhand.Number

/-- An address of four octets or of eight groups of 16 bits, with a port. -/
inductive SocketAddress where
  | v4 (octets : List Nat) (port : Nat)
  | v6 (groups : List Nat) (scope port : Nat)
  deriving DecidableEq, Repr

namespace SocketAddress

/-! ## Reading -/

/-- What a reader takes from the front of a text, and the text after it. -/
abbrev Reader (α : Type) := List Char → Option (α × List Char)

def digit? (base : Nat) (c : Char) : Option Nat :=
  let value :=
    if c.isDigit then c.toNat - '0'.toNat
    else if 'a' ≤ c ∧ c ≤ 'f' then c.toNat - 'a'.toNat + 10
    else if 'A' ≤ c ∧ c ≤ 'F' then c.toNat - 'A'.toNat + 10
    else base
  if value < base then some value else none

/-- A number up to `bound` of at most `maxDigits` digits, if there is such a limit. -/
def number (base bound : Nat) (maxDigits : Option Nat) (leadingZero : Bool) : Reader Nat := fun s =>
  let digits := s.takeWhile fun c => (digit? base c).isSome
  let value := digits.foldl (fun n c => base * n + (digit? base c).getD 0) 0
  if digits.isEmpty || maxDigits.any (· < digits.length) || bound < value ||
      (!leadingZero && digits.head? == some '0' && digits.length != 1) then none
  else some (value, s.drop digits.length)

/-- A given character. -/
def given (c : Char) : Reader Unit
  | d :: rest => if d = c then some ((), rest) else none
  | [] => none

/-- What a reader takes behind a colon; the first item of a list has no colon before it. -/
def afterColon {α : Type} (first : Bool) (reader : Reader α) : Reader α := fun s =>
  if first then reader s else (given ':' s).bind fun (_, rest) => reader rest

/-- An octet, written without leading zeros. -/
def octet : Reader Nat := number 10 255 (some 3) false

/-- Four octets between dots. -/
def octets : Reader (List Nat) := fun s => do
  let (a, s) ← octet s
  let (_, s) ← given '.' s
  let (b, s) ← octet s
  let (_, s) ← given '.' s
  let (c, s) ← octet s
  let (_, s) ← given '.' s
  let (d, s) ← octet s
  return ([a, b, c, d], s)

/-- The two groups that four octets make. -/
def groupsOfOctets : List Nat → List Nat
  | [a, b, c, d] => [256 * a + b, 256 * c + d]
  | _ => []

/-- Groups between colons, at most `room` of them. Says whether they end in octets. -/
def groups : (room : Nat) → (first : Bool) → List Char → List Nat × Bool × List Char
  | 0, _, s => ([], false, s)
  | room + 1, first, s =>
    -- Octets take the room of two groups, so the last place is not enough for them.
    match if room = 0 then none else afterColon first octets s with
    | some (four, rest) => (groupsOfOctets four, true, rest)
    | none =>
      match afterColon first (number 16 0xFFFF (some 4) true) s with
      | none => ([], false, s)
      | some (group, rest) =>
        let (others, dotted, rest) := groups room false rest
        (group :: others, dotted, rest)

/-- Eight groups, of which a run of zeros may be shortened. -/
def eightGroups : Reader (List Nat) := fun s =>
  let (front, dotted, rest) := groups 8 true s
  if front.length = 8 then some (front, rest)
  else if dotted then none
  else do
    let (_, rest) ← given ':' rest
    let (_, rest) ← given ':' rest
    -- The double colon stands for one group at least.
    let (back, _, rest) := groups (8 - (front.length + 1)) true rest
    return (front ++ List.replicate (8 - front.length - back.length) 0 ++ back, rest)

def port : Reader Nat := fun s =>
  (given ':' s).bind fun (_, rest) => number 10 0xFFFF none true rest

/-- An address of four octets. -/
def readV4 : Reader SocketAddress := fun s => do
  let (four, s) ← octets s
  let (port, s) ← port s
  return (.v4 four port, s)

/-- A scope behind its percent sign; none is zero. -/
def readScope : Reader Nat := fun s =>
  match given '%' s with
  | none => some (0, s)
  | some (_, rest) => (number 10 maxU32 none true rest).orElse fun _ => some (0, s)

/-- An address of eight groups, between brackets. -/
def readV6 : Reader SocketAddress := fun s => do
  let (_, s) ← given '[' s
  let (eight, s) ← eightGroups s
  let (scope, s) ← readScope s
  let (_, s) ← given ']' s
  let (port, s) ← port s
  return (.v6 eight scope port, s)

/-- Reads an address. -/
def parse? (s : String) : Option SocketAddress :=
  let whole (result : Option (SocketAddress × List Char)) : Option SocketAddress :=
    result.bind fun (address, rest) => if rest.isEmpty then some address else none
  (whole (readV4 s.toList)).orElse fun _ => whole (readV6 s.toList)

/-! ## Writing -/

/-- A run of zero groups, by the number of groups before it. -/
structure ZeroRun where
  start : Nat
  length : Nat

/-- The first of the longest runs of zero groups, found from the current position on: `run` zero
groups end right before it, and `best` is the longest run so far. -/
def longestRun : (position run : Nat) → (best : ZeroRun) → List Nat → ZeroRun
  | _, _, best, [] => best
  | position, run, best, group :: rest =>
    let run := if group = 0 then run + 1 else 0
    let best := if best.length < run then ⟨position + 1 - run, run⟩ else best
    longestRun (position + 1) run best rest

def groupsText (groups : List Nat) : String :=
  ":".intercalate (groups.map fun group => String.ofList (Nat.toDigits 16 group))

def octetsText (octets : List Nat) : String := ".".intercalate (octets.map toString)

/-- The canonical text of eight groups. -/
def eightText (groups : List Nat) : String :=
  match groups with
  | [0, 0, 0, 0, 0, 0xFFFF, high, low] =>
    "::ffff:" ++ octetsText [high / 256, high % 256, low / 256, low % 256]
  | _ =>
    -- A single zero group is not shortened.
    let zeros := longestRun 0 0 ⟨0, 0⟩ groups
    if 1 < zeros.length then
      groupsText (groups.take zeros.start) ++ "::" ++
        groupsText (groups.drop (zeros.start + zeros.length))
    else groupsText groups

def text : SocketAddress → String
  | .v4 octets port => octetsText octets ++ ":" ++ toString port
  | .v6 groups scope port =>
    "[" ++ eightText groups ++ (if scope = 0 then "" else "%" ++ toString scope) ++ "]:" ++
      toString port

/-- Whether a connection can never be accepted at an address: one for many receivers, or one of a
single link that is not named. -/
def isUnusable : SocketAddress → Bool
  | .v4 .. => false
  | .v6 groups scope _ =>
    let first := groups.headD 0
    first / 256 == 0xFF || (first / 64 == 0x3FA && scope == 0)

end SocketAddress

end Deskhand
