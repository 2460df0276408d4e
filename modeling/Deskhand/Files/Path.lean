/-
  Deskhand.Files.Path

  Paths.

  Paths as texts, with slashes between their names. Nothing here looks at a file: joining and taking
  the parent work on the text alone. A single dot and an empty name between slashes stand for
  nothing, save for a dot at the very start of a relative path.
-/

import Deskhand.Text.Search

namespace Deskhand.Files.Path

open Deskhand.Text

def isAbsolute (path : String) : Bool := path.toList.head? == some '/'

/-- A path continued by another one. An absolute one stands for itself; otherwise a slash is put
between the two unless there is one. -/
def join (base path : String) : String :=
  if isAbsolute path then path
  else if base.isEmpty || base.toList.getLast? == some '/' then base ++ path
  else base ++ "/" ++ path

/-- The pieces of a path between its slashes, the last one first. -/
def reversedPieces (path : String) : List (List Char) := (splitOn '/' path.toList).reverse

def ofReversedPieces (pieces : List (List Char)) : String :=
  String.ofList (['/'].intercalate pieces.reverse)

/-- Drops the pieces at the end that stand for nothing. The piece that stands alone is the first one
of the path. -/
def dropUnnamed : List (List Char) → List (List Char)
  | [] => []
  | [first] => if first.isEmpty then [] else [first]
  | piece :: rest => if piece.isEmpty || piece == ['.'] then dropUnnamed rest else piece :: rest

/-- The path of the pieces that are left when the last name has been taken off. -/
def ofRemaining (absolute : Bool) (pieces : List (List Char)) : String :=
  match dropUnnamed pieces with
  | [] => if absolute then "/" else ""
  | kept => ofReversedPieces kept

/-- The path without its last name; the root and the empty path have no parent. -/
def parent? (path : String) : Option String :=
  match dropUnnamed (reversedPieces path) with
  | [] => none
  | _ :: rest => some (ofRemaining (isAbsolute path) rest)

/-- The parents of the path that some pieces make, from the longest to the shortest. -/
def parentsOf (absolute : Bool) : List (List Char) → List String
  | [] => []
  | piece :: rest =>
    if dropUnnamed (piece :: rest) == piece :: rest then
      ofRemaining absolute rest :: parentsOf absolute rest
    else parentsOf absolute rest

/-- The parents of a path, from the longest to the shortest. -/
def parents (path : String) : List String := parentsOf (isAbsolute path) (reversedPieces path)

/-- The names of a path, empty ones left out. -/
def names (path : String) : List String :=
  ((splitOn '/' path.toList).filter fun piece => !piece.isEmpty).map String.ofList

end Deskhand.Files.Path
