/-
  Deskhand.Plan.Extraction

  Finding the plan in an answer.

  A language model wraps its array in fences, puts prose around it, comments on its items and leaves
  trailing commas. Extraction takes these layers off in a fixed order:

  1. a fenced block that holds an array is replaced by its interior, every other fenced block is
     dropped, and single fences that are left over are deleted;
  2. the text from the first `[` to the last `]` is taken;
  3. comments that start with `//` outside strings are dropped;
  4. line breaks become spaces;
  5. the result is read as JSON, and if that fails once more without its trailing commas.
-/

import Deskhand.Json.Reader
import Deskhand.Plan.Basic
import Deskhand.Text.Classes
import Deskhand.Text.Commas

namespace Deskhand.Plan

open Deskhand.Text

/-! ## Fences -/

def fence : List Char := ['\x60', '\x60', '\x60']

/-- The text after the tag of an opening fence, the blanks behind it and its line break. -/
def afterTag (s : List Char) : List Char :=
  let untagged := s.dropWhile fun c => isWordChar c || c == '-'
  match untagged.dropWhile fun c => isBlank c && c != '\n' with
  | '\n' :: rest => rest
  | rest => rest

/-- Whether the interior of a block may hold an array. -/
def mayHoldArray (s : List Char) : Bool := s.contains '[' && s.contains ']'

/-- A fenced block becomes its interior if that may hold an array, and nothing otherwise. -/
def fencedBlock : Rule := fun s =>
  if fence.isPrefixOf s then
    (cutAt fence (afterTag (s.drop 3))).map fun (interior, rest) =>
      (if mayHoldArray interior then interior else [], s.length - rest.length)
  else none

def stripFences (s : List Char) : List Char := replaceAll fence [] (substitute fencedBlock s)

/-! ## The array -/

/-- The text from the first `[` to the last `]`. -/
def locateArray (s : List Char) : Option (List Char) :=
  let tail := s.dropWhile (· != '[')
  match (tail.reverse.dropWhile (· != ']')).reverse with
  | [] => none
  | array => some array

/-! ## Comments and line breaks -/

/-- Where the comment scan stands. -/
inductive Place where
  | outside
  | inString
  | afterBackslash
  | inComment
  deriving DecidableEq, Repr

/-- Drops the comments of a text, read from the given place. -/
def stripFrom : Place → List Char → List Char
  | _, [] => []
  | .outside, c :: rest =>
    if c = '"' then c :: stripFrom .inString rest
    else if c = '/' ∧ rest.head? = some '/' then stripFrom .inComment rest
    else c :: stripFrom .outside rest
  | .inString, c :: rest =>
    let next : Place :=
      if c = '\\' then .afterBackslash else if c = '"' then .outside else .inString
    c :: stripFrom next rest
  | .afterBackslash, c :: rest => c :: stripFrom .inString rest
  | .inComment, c :: rest =>
    if c = '\n' then c :: stripFrom .outside rest else stripFrom .inComment rest

def stripComments (s : List Char) : List Char := stripFrom .outside s

/-- Every line break becomes one space. -/
def joinLines : List Char → List Char
  | [] => []
  | '\r' :: '\n' :: rest => ' ' :: joinLines rest
  | c :: rest => (if c = '\n' ∨ c = '\r' then ' ' else c) :: joinLines rest

/-! ## Extraction -/

/-- Reads JSON, and if that fails reads it once more without trailing commas. -/
def readRepaired (s : List Char) : Except PlanError Json :=
  match Json.parseChars s with
  | .ok value => .ok value
  | .error first =>
    match Json.parseChars (dropTrailingCommas s) with
    | .ok value => .ok value
    -- The message gives both objections: the second one is about a text that nobody wrote.
    | .error second => .error (.malformed (first.message ++ "; after repair: " ++ second.message))

/-- The text that is read as JSON: the located array without comments, on one line. -/
def cleanArray (s : List Char) : Option (List Char) :=
  (locateArray (stripFences s)).map fun array => joinLines (stripComments array)

def extractChars (s : List Char) : Except PlanError Plan :=
  match cleanArray s with
  | none => .error (.extraction "no array found")
  | some array =>
    match readRepaired array with
    | .error e => .error e
    | .ok value =>
      match ofJson value with
      | .error e => .error e
      | .ok [] => .error .empty
      | .ok plan => .ok plan

/-- The plan of an answer. -/
def extract (answer : String) : Except PlanError Plan := extractChars answer.toList

end Deskhand.Plan
