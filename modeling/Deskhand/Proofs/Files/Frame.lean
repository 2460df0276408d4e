/-
  Deskhand.Proofs.Files.Frame

  What saving a file leaves alone.

  Saving a file creates the folders above it and then writes it. A folder is only created where
  nothing is, so no step before the last one touches a regular file, whether it succeeds or not. The
  last one fails before it puts anything, or puts one file, where the path leads to from then on.
-/

import Deskhand.Proofs.Files.Saving

namespace Deskhand.Files.FileTree

/-- The content of the regular file at a place, if there is one. -/
def file? (tree : FileTree) (place : Place) : Option (List UInt8) :=
  match tree.node? place with
  | some (.file content) => some content
  | _ => none

/-- There are the same regular files, with the same contents. -/
def SameFiles (before after : FileTree) : Prop := ∀ place, after.file? place = before.file? place

theorem SameFiles.refl (tree : FileTree) : SameFiles tree tree := fun _ => rfl

theorem SameFiles.trans {tree between after : FileTree} (h : SameFiles tree between)
    (hafter : SameFiles between after) : SameFiles tree after :=
  fun place => (hafter place).trans (h place)

/-- A path through a folder that is not there yet leads to the file all the same, and one through a
regular file leads nowhere. -/
example :
    let tree : FileTree := ⟨[(["a"], .file [1])], []⟩
    (tree.save "x/../a" [2]).2.file? ["a"] = some [2] ∧
      (tree.save "a/b" [2]).1 = some .exists := by
  decide +kernel

end Deskhand.Files.FileTree
