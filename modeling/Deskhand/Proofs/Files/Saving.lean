/-
  Deskhand.Proofs.Files.Saving

  Files that were saved.

  A file is read back as it was written. On the way to it a path goes through folders only, and the
  place that is written is none of them, so the same path still leads there afterwards.
-/

import Deskhand.Files.Tree

namespace Deskhand.Files.FileTree

/-! ## Putting a node -/

theorem node?_put_self (tree : FileTree) {place : Place} (h : place ≠ []) (node : Node) :
    (tree.put place node).node? place = some node := by
  simp [node?, put, h]

theorem node?_put_of_ne (tree : FileTree) {place other : Place} (h : other ≠ place) (node : Node) :
    (tree.put place node).node? other = tree.node? other := by
  -- The entries of the place are taken out, which no look-up of another place notices.
  have hlookup : ∀ nodes : List (Place × Node),
      (nodes.filter fun entry => entry.1 != place).lookup other = nodes.lookup other := by
    intro nodes
    induction nodes with
    | nil => rfl
    | cons entry nodes ih =>
      obtain ⟨key, content⟩ := entry
      by_cases hkey : key = place
      · have hother : (other == key) = false := by simpa [hkey] using h
        rw [List.filter_cons_of_neg (by simpa using hkey), ih, List.lookup_cons, hother]
      · rw [List.filter_cons_of_pos (by simpa using hkey), List.lookup_cons, List.lookup_cons, ih]
  have hhead : (other == place) = false := by simpa using h
  simp only [node?, put, List.lookup_cons, hhead, hlookup]

/-! ## Paths -/

/-- Steps that come to a result have come to one each. -/
theorem exists_of_bind_eq_ok {α β : Type} {first : Except FileError α}
    {later : α → Except FileError β} {result : β} (h : first >>= later = .ok result) :
    ∃ found, first = .ok found ∧ later found = .ok result := by
  cases first with
  | error e => cases h
  | ok found => exact ⟨found, rfl, h⟩

/-- Every path through folders is left as it was when something else is put. -/
theorem enter_put {tree : FileTree} {place : Place} (h : tree.node? place ≠ some .folder)
    (node : Node) {names : List String} {start folder : Place}
    (henter : tree.enter start names = .ok folder) :
    (tree.put place node).enter start names = .ok folder := by
  induction names generalizing start with
  | nil => exact henter
  | cons name names ih =>
    rw [enter] at henter ⊢
    obtain ⟨next, hstep, hrest⟩ := exists_of_bind_eq_ok henter
    have hfolder : tree.node? next = some .folder ∧ tree.enter next names = .ok folder := by
      split at hrest
      · cases hrest
      · cases hrest
      · next hnode => exact ⟨hnode, hrest⟩
    -- The path goes on through this folder, and the node is put where none is.
    have hne : next ≠ place := by
      rintro rfl
      exact h hfolder.1
    simp only [hstep, bind, Except.bind, node?_put_of_ne tree hne node, hfolder.1]
    exact ih hfolder.2

theorem approach_put {tree : FileTree} {place : Place} (h : tree.node? place ≠ some .folder)
    (node : Node) {path : String} {approached : Place × Option String}
    (happroach : tree.approach path = .ok approached) :
    (tree.put place node).approach path = .ok approached := by
  unfold approach at happroach ⊢
  obtain ⟨checked, hcheck, hentering⟩ := exists_of_bind_eq_ok happroach
  obtain ⟨folder, henter, hfound⟩ := exists_of_bind_eq_ok hentering
  have hput : (tree.put place node).enter ((tree.put place node).start path)
      (Path.names path).dropLast = .ok folder := enter_put h node henter
  simp only [hcheck, bind, Except.bind, hput]
  exact hfound

/-! ## Writing and reading -/

/-- What a file was written to: a place of its own that is no folder. -/
theorem exists_of_write {tree written : FileTree} {path : String} {content : List UInt8}
    (h : tree.write path content = .ok written) :
    ∃ folder name place, tree.approach path = .ok (folder, some name) ∧
      path.toList.getLast? ≠ some '/' ∧ step folder name = .ok place ∧
      tree.node? place ≠ some .folder ∧ written = tree.put place (.file content) := by
  obtain ⟨⟨folder, name⟩, happroach, hrest⟩ := exists_of_bind_eq_ok h
  cases name with
  | none => cases hrest
  | some name =>
    simp only at hrest
    split at hrest
    · next hname =>
      obtain ⟨place, hstep, hput⟩ := exists_of_bind_eq_ok hrest
      split at hput
      · cases hput
      · next hnode =>
        simp only [Bool.and_eq_true, bne_iff_ne] at hname
        exact ⟨folder, name, place, happroach, hname.2, hstep, hnode, (Except.ok.inj hput).symm⟩
    · cases hrest

/-- A path leads to the file that was written through it. -/
theorem exists_find?_of_write {tree written : FileTree} {path : String} {content : List UInt8}
    (h : tree.write path content = .ok written) :
    ∃ place, written.find? path = .ok (place, .file content) ∧
      written = tree.put place (.file content) := by
  obtain ⟨folder, name, place, happroach, hslash, hstep, hnode, rfl⟩ := exists_of_write h
  -- The root is a folder, so nothing was written there.
  have hplace : place ≠ [] := by
    rintro rfl
    exact hnode rfl
  refine ⟨place, ?_, rfl⟩
  simp only [find?, approach_put hnode (.file content) happroach, bind, Except.bind,
    Option.map_some, Option.getD_some, hstep, node?_put_self tree hplace]
  simp [hslash]

theorem read_write {tree written : FileTree} {path : String} {content : List UInt8}
    (h : tree.write path content = .ok written) : written.read path = .ok content := by
  obtain ⟨place, hfound, -⟩ := exists_find?_of_write h
  simp only [read, hfound, bind, Except.bind]

/-- A file is read back after it was saved. -/
theorem read_save {tree : FileTree} {path : String} {content : List UInt8}
    (h : (tree.save path content).1 = none) :
    (tree.save path content).2.read path = .ok content := by
  unfold save at h ⊢
  simp only at h ⊢
  split at h
  · next prepared _ =>
    cases hwrite : prepared.write path content with
    | error e => simp [hwrite] at h
    | ok written => exact read_write hwrite
  · next hfailed =>
    -- The folders above the file could not be made, so there is an error.
    exact (hfailed _ (Prod.ext h rfl)).elim

end Deskhand.Files.FileTree
