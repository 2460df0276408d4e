/-
  Deskhand.Main

  The executable.

  Gathers what a call of the program finds, and puts what it comes to into effect. The files that
  the words of the command line name are read beforehand; files that the call leaves behind are
  written at its end. Programs are not started, and there is no network.
-/

import Deskhand.CommandLine.Program
import Deskhand.Text.Identifier

namespace Deskhand.Main

open Deskhand.CommandLine
open Deskhand.Files

/-- The variables of the environment that matter. -/
def knownKeys : List String :=
  [configKey, "GEMINI_API_KEY", "GEMINI_MODEL", "GEMINI_BASE_URL"] ++
    ["host", "port", "allowed_origins", "parse_cache_capacity", "plan_timeout_secs", "dry_run"].map
      (Environment.key AgentSettings.keyStart)

def readEnvironment : IO Environment :=
  knownKeys.filterMapM fun key => do
    return (← IO.getEnv key).map fun value => (key, Text.Utf8.encode value)

/-- The tree with the folders on the way from one place to another. -/
def withFolders (tree : FileTree) (above : Place) : Place → FileTree
  | [] => tree
  | name :: rest => withFolders (tree.put (above ++ [name]) .folder) (above ++ [name]) rest

/-- The tree with what is at a path. -/
def withPath (tree : FileTree) (path : String) : IO FileTree := do
  let place := tree.start path ++ Path.names path
  try
    let content ← IO.FS.readBinFile path
    return (withFolders tree [] place.dropLast).put place (.file content.toList)
  catch
    | .inappropriateType .. => return withFolders tree [] place
    | _ => return tree

/-- What a call with some words finds. -/
def findShell (words : List String) : IO Shell := do
  let env ← readEnvironment
  let folder := (← IO.currentDir).toString
  let current := Path.names folder
  let paths := words ++ (environmentConfig? env).toList
  let files ← paths.foldlM withPath (withFolders ⟨[], current⟩ [] current)
  let input ← if words.contains "-" then (← IO.getStdin).readBinToEnd else pure .empty
  let seed ← IO.getRandomBytes 16
  let identifier (n : Nat) : String :=
    Text.identifierOf (seed.toList.map fun b => b + UInt8.ofNat n)
  return { env, files, input := input.toList
           place := ⟨.linux, folder, fun _ => false, none⟩
           identifier
           network := fun _ => none
           refusesToListen := fun _ => some "Operation not supported (os error 95)" }

/-- Writes the files of a tree that differ from those of another one. -/
def writeChanges (before after : FileTree) : IO Unit :=
  after.nodes.forM fun (place, node) => do
    match node with
    | .folder => pure ()
    | .file content =>
      unless before.node? place == some node do
        IO.FS.createDirAll ("/" ++ "/".intercalate place.dropLast)
        IO.FS.writeBinFile ("/" ++ "/".intercalate place) ⟨content.toArray⟩

/-- Writes the two outputs and gives the exit code. -/
def finish (exit : Exit) : IO UInt32 := do
  IO.print exit.output
  IO.eprint exit.errors
  return .ofNat exit.code

end Deskhand.Main

open Deskhand.CommandLine in
def main (words : List String) : IO UInt32 := do
  let shell ← Deskhand.Main.findShell words
  match Invocation.read shell.env words with
  | .error stop => Deskhand.Main.finish stop.exit
  | .ok call =>
    let result := call.perform shell
    IO.sleep (.ofNat (min result.clock (UInt32.size - 1)))
    Deskhand.Main.writeChanges shell.files result.files
    Deskhand.Main.finish (result.ending.exit?.getD ⟨0, "", ""⟩)
