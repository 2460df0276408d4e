/-
  Deskhand.Files.Tree

  A tree of files.

  Folders and regular files by place, where a place is the list of names from the root. The tree
  knows the current folder, from which relative paths start. Creating folders and writing files
  follow the rules of the operating system, and so do their errors: which one is reported depends on
  the first step of a path that cannot be taken.
-/

import Deskhand.Files.Path

namespace Deskhand.Files

/-- Why an operation on files failed. -/
inductive FileError where
  | notFound
  | exists
  | notFolder
  | isFolder
  | nameTooLong
  | nullInName
  deriving DecidableEq, Repr

def FileError.message : FileError → String
  | .notFound => "No such file or directory (os error 2)"
  | .exists => "File exists (os error 17)"
  | .notFolder => "Not a directory (os error 20)"
  | .isFolder => "Is a directory (os error 21)"
  | .nameTooLong => "File name too long (os error 36)"
  | .nullInName => "file name contained an unexpected NUL byte"

/-- The names from the root down. -/
abbrev Place := List String

/-- What is at a place. -/
inductive Node where
  | folder
  | file (content : List UInt8)
  deriving DecidableEq

/-- The nodes by place, and the current folder. The root is there without being listed. -/
structure FileTree where
  nodes : List (Place × Node)
  current : Place

namespace FileTree

def node? (tree : FileTree) (place : Place) : Option Node :=
  if place = [] then some .folder else tree.nodes.lookup place

def put (tree : FileTree) (place : Place) (node : Node) : FileTree :=
  { tree with nodes := (place, node) :: tree.nodes.filter fun entry => entry.1 != place }

def maxNameBytes : Nat := 255

def maxPathBytes : Nat := 4095

/-- Checks a path before it is followed. -/
def checkPath (path : String) : Except FileError Unit :=
  if path.toList.contains '\x00' then .error .nullInName
  else if path.isEmpty then .error .notFound
  else if maxPathBytes < path.utf8ByteSize then .error .nameTooLong
  else .ok ()

/-- The place that a name leads to from a folder. -/
def step (folder : Place) (name : String) : Except FileError Place :=
  if name = "." then .ok folder
  else if name = ".." then .ok folder.dropLast
  else if maxNameBytes < name.utf8ByteSize then .error .nameTooLong
  else .ok (folder ++ [name])

/-- Follows names from a folder to a folder. -/
def enter (tree : FileTree) : Place → List String → Except FileError Place
  | place, [] => .ok place
  | place, name :: rest => do
    let next ← step place name
    match tree.node? next with
    | none => .error .notFound
    | some (.file _) => .error .notFolder
    | some .folder => tree.enter next rest

/-- Where a path starts. -/
def start (tree : FileTree) (path : String) : Place :=
  if Path.isAbsolute path then [] else tree.current

/-- The folder that the last name of a path is looked up in, and that name. A path without a name
leads to where it starts. -/
def approach (tree : FileTree) (path : String) : Except FileError (Place × Option String) := do
  checkPath path
  let names := Path.names path
  let folder ← tree.enter (tree.start path) names.dropLast
  return (folder, names.getLast?)

/-- The node that a path leads to; a path that ends in a slash leads to folders only. -/
def find? (tree : FileTree) (path : String) : Except FileError (Place × Node) := do
  let (folder, name) ← tree.approach path
  let place ← (name.map (step folder)).getD (.ok folder)
  match tree.node? place with
  | none => .error .notFound
  | some .folder => .ok (place, .folder)
  | some node =>
    if path.toList.getLast? == some '/' then .error .notFolder else .ok (place, node)

def isFolder (tree : FileTree) (path : String) : Bool :=
  match tree.find? path with
  | .ok (_, .folder) => true
  | _ => false

/-- Whether a name leads from a folder to a place of its own, and not to itself or up. -/
def isOrdinary (name : String) : Bool := name != "." && name != ".."

/-- Creates a folder whose parent is there. -/
def makeFolder (tree : FileTree) (path : String) : Except FileError FileTree := do
  match ← tree.approach path with
  | (_, none) => .error .exists
  | (folder, some name) =>
    if isOrdinary name then
      let place ← step folder name
      match tree.node? place with
      | some _ => .error .exists
      | none => .ok (tree.put place .folder)
    else .error .exists

/-- Creates a folder unless it is there. -/
def ensureFolder (tree : FileTree) (path : String) : Except FileError FileTree :=
  match tree.makeFolder path with
  | .ok tree => .ok tree
  | .error error => if tree.isFolder path then .ok tree else .error error

/-- Creates the first folder of a list, and before it the others where they are missing: each is the
parent of the one in front of it. Folders that were created stay even if a later step fails. -/
def ensureChain : List String → FileTree → Option FileError × FileTree
  | [], tree => (none, tree)
  | path :: parents, tree =>
    if path.isEmpty then (none, tree)
    else
      let retry (tree : FileTree) : Option FileError × FileTree :=
        match tree.ensureFolder path with
        | .ok tree => (none, tree)
        | .error error => (some error, tree)
      match tree.makeFolder path with
      | .ok tree => (none, tree)
      | .error .notFound =>
        match ensureChain parents tree with
        | (none, tree) => retry tree
        | failed => failed
      | .error _ => retry tree

/-- Creates a folder with all its parents. -/
def ensureFolders (tree : FileTree) (path : String) : Option FileError × FileTree :=
  ensureChain (path :: Path.parents path) tree

/-- Writes a file whose folder is there; what it held before is gone. -/
def write (tree : FileTree) (path : String) (content : List UInt8) : Except FileError FileTree := do
  match ← tree.approach path with
  | (_, none) => .error .isFolder
  | (folder, some name) =>
    if isOrdinary name && path.toList.getLast? != some '/' then
      let place ← step folder name
      match tree.node? place with
      | some .folder => .error .isFolder
      | _ => .ok (tree.put place (.file content))
    else .error .isFolder

/-- Writes a file and creates the folders above it. -/
def save (tree : FileTree) (path : String) (content : List UInt8) : Option FileError × FileTree :=
  let prepared :=
    match Path.parent? path with
    | none | some "" => (none, tree)
    | some folder => tree.ensureFolders folder
  match prepared with
  | (none, tree) =>
    match tree.write path content with
    | .ok tree => (none, tree)
    | .error error => (some error, tree)
  | failed => failed

def read (tree : FileTree) (path : String) : Except FileError (List UInt8) := do
  match ← tree.find? path with
  | (_, .folder) => .error .isFolder
  | (_, .file content) => .ok content

/-- The files below a folder by their paths from there. -/
def filesBelow (tree : FileTree) (folder : Place) : List (String × List UInt8) :=
  tree.nodes.filterMap fun (place, node) =>
    match node with
    | .file content =>
      if folder.isPrefixOf place then
        some ("/".intercalate (place.drop folder.length), content)
      else none
    | .folder => none

end FileTree

end Deskhand.Files
