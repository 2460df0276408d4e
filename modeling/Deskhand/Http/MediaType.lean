/-
  Deskhand.Http.MediaType

  Media types.

  The value of a `content-type` header: two names with a slash between them, and parameters behind
  semicolons. Spaces may stand in front of a parameter and behind a quoted value, and nowhere else.
-/

import Deskhand.Text.Search

namespace Deskhand.Http

open Deskhand.Text

/-- The two names of a media type, in lower case. -/
structure MediaType where
  main : List Char
  sub : List Char
  deriving DecidableEq, Repr

namespace MediaType

/-- The characters of names and of values without quotes. -/
def isToken (c : Char) : Bool := c.isAlphanum || "!#$%&'*+-.^_\x60|~".toList.contains c

def isVisible (c : Char) : Bool := 0x20 ≤ c.toNat && c.toNat < 0x7F

/-- Where a reader of parameters is: in a name, in a value without quotes or with them, or behind a
closing quote. `started` says whether there was a character of the name or value. -/
inductive Place where
  | name (started : Bool)
  | value (started : Bool)
  | quoted (started : Bool)
  | closed
  deriving DecidableEq, Repr

/-- Where the reader is after one more character; nothing if it cannot stand there. A quote right
behind the opening one belongs to the value. -/
def Place.next? : Place → Char → Option Place
  | .name started, c =>
    if isToken c then some (.name true)
    else if c = ' ' ∧ !started then some (.name false)
    else if c = '=' ∧ started then some (.value false)
    else none
  | .value started, c =>
    if isToken c then some (.value true)
    else if c = '"' ∧ !started then some (.quoted false)
    else if c = ';' ∧ started then some (.name false)
    else none
  | .quoted started, c =>
    if c = '"' ∧ started then some .closed
    else if isVisible c then some (.quoted true)
    else none
  | .closed, c =>
    if c = ';' then some (.name false)
    else if c = ' ' then some .closed
    else none

/-- Whether the parameters may end here. -/
def Place.mayEnd : Place → Bool
  | .name started => !started
  | .value _ | .closed => true
  | .quoted _ => false

/-- Whether a text can stand behind the first semicolon. -/
def areParameters (s : List Char) : Bool := (s.foldlM Place.next? (.name false)).any Place.mayEnd

def parse? (s : String) : Option MediaType :=
  let s := s.toList
  let main := s.takeWhile isToken
  match s.drop main.length with
  | '/' :: rest =>
    let sub := rest.takeWhile isToken
    let found := if main.isEmpty then none else some (⟨asciiLower main, asciiLower sub⟩ : MediaType)
    match rest.drop sub.length with
    | [] => found
    | ';' :: parameters => if !sub.isEmpty && areParameters parameters then found else none
    | _ => none
  | _ => none

/-- The second name before and after its last plus sign, which is no such sign if it comes first. -/
def parts (sub : List Char) : List Char × Option (List Char) :=
  let suffix := (sub.reverse.takeWhile (· != '+')).reverse
  let before := sub.take (sub.length - suffix.length - 1)
  if before.isEmpty then (sub, none) else (before, some suffix)

/-- Whether a body of this type is a JSON document. -/
def isJson (m : MediaType) : Bool :=
  let (name, suffix) := parts m.sub
  m.main == "application".toList && (name == "json".toList || suffix == some "json".toList)

end MediaType

end Deskhand.Http
