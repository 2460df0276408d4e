/-
  Deskhand.Proofs.Registry

  What a registry holds after any changes.

  Handlers are registered and names removed in any order, the same name as often as one likes. What
  the registry holds in the end is told by the history alone: a name has the handler of its last
  registration, unless it has been removed since. The names come out in ascending order, each of
  them once, whatever the order of the changes.

  Everything goes by induction over the history from its end: one more change decides about its own
  name and leaves the others as they were.
-/

import Deskhand.Registry
import Mathlib.Data.List.Induction

namespace Deskhand

namespace Keyed

variable {α : Type}

/-! ## Keys in order -/

theorem mem_keys_insert {key other : String} {value : α} {pairs : Keyed α} :
    other ∈ keys (insert key value pairs) ↔ other = key ∨ other ∈ keys pairs := by
  induction pairs with
  | nil => simp [insert, keys]
  | cons pair rest ih =>
    obtain ⟨k, v⟩ := pair
    unfold keys at ih ⊢
    unfold insert
    split
    · simp
    · split
      · next heq => simp [heq]
      · rw [List.map_cons, List.mem_cons, ih, List.map_cons, List.mem_cons]
        exact or_left_comm

/-- A key that is put in its place leaves the keys in ascending order. -/
theorem pairwise_keys_insert {pairs : Keyed α} (h : (keys pairs).Pairwise (· < ·)) (key : String)
    (value : α) : (keys (insert key value pairs)).Pairwise (· < ·) := by
  induction pairs with
  | nil => exact List.pairwise_singleton _ key
  | cons pair rest ih =>
    obtain ⟨k, v⟩ := pair
    obtain ⟨hfirst, hrest⟩ := List.pairwise_cons.1 h
    rw [insert]
    split
    · next hlt =>
      refine List.pairwise_cons.2 ⟨fun other hother => ?_, h⟩
      rcases List.mem_cons.1 hother with rfl | hlater
      · exact hlt
      · exact String.lt_trans hlt (hfirst other hlater)
    · next hnot =>
      split
      · next heq =>
        subst heq
        exact h
      · next hne =>
        -- The key belongs behind the first one, and so do all the others already.
        have hlt : k < key := by
          by_contra hge
          exact hne (String.le_antisymm (String.not_lt.1 hge) (String.not_lt.1 hnot))
        refine List.pairwise_cons.2 ⟨fun other hother => ?_, ih hrest⟩
        rcases mem_keys_insert.1 hother with rfl | hlater
        · exact hlt
        · exact hfirst other hlater

theorem pairwise_keys_erase {pairs : Keyed α} (h : (keys pairs).Pairwise (· < ·)) (key : String) :
    (keys (erase key pairs)).Pairwise (· < ·) :=
  h.sublist (List.filter_sublist.map _)

theorem mem_keys_iff {key : String} {pairs : Keyed α} :
    key ∈ keys pairs ↔ ∃ value, get? key pairs = some value := by
  unfold keys get?
  rw [List.mem_map]
  constructor
  · rintro ⟨pair, hpair, rfl⟩
    have hfound : (pairs.find? fun other => other.1 == pair.1).isSome :=
      List.find?_isSome.2 ⟨pair, hpair, beq_self_eq_true _⟩
    obtain ⟨found, hfind⟩ := Option.isSome_iff_exists.1 hfound
    exact ⟨found.2, by rw [hfind, Option.map_some]⟩
  · rintro ⟨value, hvalue⟩
    obtain ⟨found, hfind, -⟩ := Option.map_eq_some_iff.1 hvalue
    have hkey := List.find?_some hfind
    exact ⟨found, List.mem_of_find?_eq_some hfind, by simpa using hkey⟩

end Keyed

namespace Registry

variable {I : Interface}

/-! ## Histories -/

/-- A change of a registry. -/
inductive Change (I : Interface) where
  | register (name : String) (handler : Handler I)
  | remove (name : String)

def Change.name : Change I → String
  | .register name _ => name
  | .remove name => name

/-- The registry after one more change. -/
def change (registry : Registry I) : Change I → Registry I
  | .register name handler => registry.register name handler
  | .remove name => registry.remove name

/-- The registry after a history of changes, the first of which found it empty. -/
def after (history : List (Change I)) : Registry I := history.foldl change empty

/-- The name has been registered and not been removed since. -/
def Registered (history : List (Change I)) (name : String) : Prop :=
  ∃ before handler since,
    history = before ++ .register name handler :: since ∧ .remove name ∉ since

/-- The handler comes with the last change about the name. -/
def RegisteredLast (history : List (Change I)) (name : String) (handler : Handler I) : Prop :=
  ∃ before since,
    history = before ++ .register name handler :: since ∧ ∀ other ∈ since, other.name ≠ name

theorem after_concat (history : List (Change I)) (last : Change I) :
    after (history ++ [last]) = (after history).change last := by
  rw [after, List.foldl_append]
  rfl

/-! ## One more change -/

theorem lookup_remove (name other : String) (registry : Registry I) :
    (registry.remove name).lookup other = if name = other then none else registry.lookup other :=
  Keyed.get?_erase name other registry.handlers

theorem lookup_change_of_ne {last : Change I} {name : String} (h : last.name ≠ name)
    (registry : Registry I) : (registry.change last).lookup name = registry.lookup name := by
  cases last with
  | register other handler => exact (lookup_register _ _ _ _).trans (if_neg h)
  | remove other => exact (lookup_remove _ _ _).trans (if_neg h)

theorem concat_eq_append_cons_iff {α : Type _} {front before since : List α} {last cut : α} :
    front ++ [last] = before ++ cut :: since ↔
      (since = [] ∧ front = before ∧ last = cut) ∨
        ∃ sooner, since = sooner ++ [last] ∧ front = before ++ cut :: sooner := by
  constructor
  · intro h
    -- The part behind the cut is empty, or it ends with the entry that was added.
    rcases List.eq_nil_or_concat since with rfl | ⟨sooner, final, rfl⟩
    · obtain ⟨hfront, hlast⟩ := List.append_inj' h rfl
      exact .inl ⟨rfl, hfront, List.head_eq_of_cons_eq hlast⟩
    · rw [List.concat_eq_append] at h ⊢
      rw [← List.cons_append, ← List.append_assoc] at h
      obtain ⟨hfront, hlast⟩ := List.append_inj' h rfl
      exact .inr ⟨sooner, by rw [hlast], hfront⟩
  · rintro (⟨rfl, rfl, rfl⟩ | ⟨sooner, rfl, rfl⟩)
    · rfl
    · simp

theorem registered_concat_iff {history : List (Change I)} {last : Change I} {name : String} :
    Registered (history ++ [last]) name ↔
      (∃ handler, last = .register name handler) ∨
        (last ≠ .remove name ∧ Registered history name) := by
  unfold Registered
  simp only [concat_eq_append_cons_iff]
  constructor
  · rintro ⟨before, handler, since, ⟨rfl, rfl, rfl⟩ | ⟨sooner, rfl, rfl⟩, hkept⟩
    · exact .inl ⟨handler, rfl⟩
    · rw [List.mem_append, not_or, List.mem_singleton] at hkept
      exact .inr ⟨Ne.symm hkept.2, before, handler, sooner, rfl, hkept.1⟩
  · rintro (⟨handler, rfl⟩ | ⟨hlast, before, handler, sooner, rfl, hkept⟩)
    · exact ⟨history, handler, [], .inl ⟨rfl, rfl, rfl⟩, List.not_mem_nil⟩
    · refine ⟨before, handler, sooner ++ [last], .inr ⟨sooner, rfl, rfl⟩, ?_⟩
      rw [List.mem_append, not_or, List.mem_singleton]
      exact ⟨hkept, Ne.symm hlast⟩

theorem registeredLast_concat_iff {history : List (Change I)} {last : Change I} {name : String}
    {handler : Handler I} :
    RegisteredLast (history ++ [last]) name handler ↔
      last = .register name handler ∨ (last.name ≠ name ∧ RegisteredLast history name handler) := by
  unfold RegisteredLast
  simp only [concat_eq_append_cons_iff]
  constructor
  · rintro ⟨before, since, ⟨rfl, rfl, rfl⟩ | ⟨sooner, rfl, rfl⟩, hothers⟩
    · exact .inl rfl
    · refine .inr ⟨hothers last (by simp), before, sooner, rfl, fun other hother => ?_⟩
      exact hothers other (List.mem_append_left _ hother)
  · rintro (rfl | ⟨hlast, before, sooner, rfl, hothers⟩)
    · exact ⟨history, [], .inl ⟨rfl, rfl, rfl⟩, fun other hother => absurd hother List.not_mem_nil⟩
    · refine ⟨before, sooner ++ [last], .inr ⟨sooner, rfl, rfl⟩, fun other hother => ?_⟩
      rcases List.mem_append.1 hother with hsooner | hfinal
      · exact hothers other hsooner
      · rw [List.mem_singleton.1 hfinal]
        exact hlast

/-! ## The whole history -/

/-- The handler of a name is the one that it was registered with last. -/
theorem lookup_after_iff {history : List (Change I)} {name : String} {handler : Handler I} :
    (after history).lookup name = some handler ↔ RegisteredLast history name handler := by
  induction history using List.reverseRecOn with
  | nil =>
    constructor
    -- Nothing was registered, and no history without changes has a last one.
    · intro h
      exact absurd h (by simp [after, empty, lookup, Keyed.get?])
    · rintro ⟨before, since, hhistory, -⟩
      exact absurd hhistory.symm (by simp)
  | append_singleton history last ih =>
    rw [after_concat, registeredLast_concat_iff, ← ih]
    by_cases hname : last.name = name
    · -- The last change decides alone: it gives its handler, or it leaves none.
      subst hname
      cases last with
      | register name other => simp [change, lookup_register, Change.name]
      | remove name => simp [change, lookup_remove, Change.name]
    · rw [lookup_change_of_ne hname]
      constructor
      · exact fun h => .inr ⟨hname, h⟩
      · rintro (rfl | ⟨-, h⟩)
        · exact absurd rfl hname
        · exact h

/-- A name is registered and not removed since if and only if some handler came last. -/
theorem registered_iff {history : List (Change I)} {name : String} :
    Registered history name ↔ ∃ handler, RegisteredLast history name handler := by
  induction history using List.reverseRecOn with
  | nil => simp [Registered, RegisteredLast]
  | append_singleton history last ih =>
    rw [registered_concat_iff, ih]
    simp only [registeredLast_concat_iff]
    -- What kind of change it is and which name it is about decide both sides.
    cases last with
    | register other handler =>
      by_cases hname : other = name <;> simp [Change.name, hname]
    | remove other => by_cases hname : other = name <;> simp [Change.name, hname]

theorem mem_names_after_iff {history : List (Change I)} {name : String} :
    name ∈ (after history).names ↔ Registered history name := by
  rw [registered_iff, names, Keyed.mem_keys_iff]
  exact exists_congr fun handler => lookup_after_iff

theorem pairwise_names_change {registry : Registry I} (h : registry.names.Pairwise (· < ·))
    (last : Change I) : (registry.change last).names.Pairwise (· < ·) := by
  cases last with
  | register name handler => exact Keyed.pairwise_keys_insert h name handler
  | remove name => exact Keyed.pairwise_keys_erase h name

theorem pairwise_names_after (history : List (Change I)) :
    (after history).names.Pairwise (· < ·) := by
  induction history using List.reverseRecOn with
  | nil => exact List.Pairwise.nil
  | append_singleton history last ih =>
    rw [after_concat]
    exact pairwise_names_change ih last

theorem lookup_eq_none_of_notMem {registry : Registry I} {name : String}
    (h : name ∉ registry.names) : registry.lookup name = none := by
  cases hlookup : registry.lookup name with
  | none => rfl
  | some handler => exact absurd (Keyed.mem_keys_iff.2 ⟨handler, hlookup⟩) h

theorem length_names (registry : Registry I) : registry.names.length = registry.size :=
  List.length_map _

end Registry

end Deskhand
