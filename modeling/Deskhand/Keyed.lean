/-
  Deskhand.Keyed

  Keyed lists.

  Pairs in ascending order of their keys, each key once: the members of a JSON object, the handlers
  of a registry. Keys are ordered by code point, which is also the order of their bytes. `insert`
  keeps the order, and the last value given for a key wins.
-/

namespace Deskhand

/-- Values by key, in ascending order of the keys. -/
abbrev Keyed (α : Type) := List (String × α)

namespace Keyed

variable {α : Type}

/-- Puts a value in its place; a value with the same key is replaced. -/
def insert (key : String) (value : α) : Keyed α → Keyed α
  | [] => [(key, value)]
  | (k, v) :: rest =>
    if key < k then (key, value) :: (k, v) :: rest
    else if key = k then (key, value) :: rest
    else (k, v) :: insert key value rest

def get? (key : String) (pairs : Keyed α) : Option α :=
  (pairs.find? fun pair => pair.1 == key).map (·.2)

def erase (key : String) (pairs : Keyed α) : Keyed α := pairs.filter fun pair => pair.1 != key

def keys (pairs : Keyed α) : List String := pairs.map (·.1)

/-- The pairs of a list in any order. -/
def ofList (pairs : List (String × α)) : Keyed α :=
  pairs.foldl (fun sorted pair => insert pair.1 pair.2 sorted) []

/-- An inserted key has its new value, and the others keep theirs. -/
theorem get?_insert (key other : String) (value : α) (pairs : Keyed α) :
    get? other (insert key value pairs) = if key = other then some value else get? other pairs := by
  induction pairs with
  | nil => by_cases h : key = other <;> simp [insert, get?, h]
  | cons pair rest ih =>
    obtain ⟨k, v⟩ := pair
    unfold get? at ih ⊢
    unfold insert
    split
    · by_cases h : key = other <;> simp [h]
    · split
      · next heq =>
        subst heq
        by_cases h : key = other <;> simp [h]
      · next hne =>
        by_cases hk : k = other
        · subst hk
          simp [hne]
        · simp [hk, ih]

/-- An erased key has no value, and the others keep theirs. -/
theorem get?_erase (key other : String) (pairs : Keyed α) :
    get? other (erase key pairs) = if key = other then none else get? other pairs := by
  induction pairs with
  | nil => by_cases h : key = other <;> simp [erase, get?, h]
  | cons pair rest ih =>
    obtain ⟨k, v⟩ := pair
    unfold get? erase at ih ⊢
    by_cases hk : k = key
    · subst hk
      by_cases h : k = other <;> simp_all
    · by_cases ho : k = other
      · subst ho
        simp [hk, Ne.symm hk]
      · by_cases h : key = other <;> simp_all

theorem insert_ne_nil (key : String) (value : α) (pairs : Keyed α) :
    insert key value pairs ≠ [] := by
  cases pairs with
  | nil => exact List.cons_ne_nil _ _
  | cons pair rest =>
    rw [insert]
    split
    · exact List.cons_ne_nil _ _
    · split <;> exact List.cons_ne_nil _ _

theorem foldl_insert_ne_nil {sorted : Keyed α} (h : sorted ≠ []) (pairs : List (String × α)) :
    pairs.foldl (fun sorted pair => insert pair.1 pair.2 sorted) sorted ≠ [] := by
  induction pairs generalizing sorted with
  | nil => exact h
  | cons pair pairs ih => exact ih (insert_ne_nil pair.1 pair.2 sorted)

/-- Of pairs there is something left when they are put in order. -/
theorem ofList_ne_nil {pairs : List (String × α)} (h : pairs ≠ []) : ofList pairs ≠ [] := by
  obtain ⟨pair, others, rfl⟩ := List.exists_cons_of_ne_nil h
  exact foldl_insert_ne_nil (insert_ne_nil pair.1 pair.2 []) others

/-- A key above all others goes to the end. -/
theorem insert_of_forall_lt {key : String} {pairs : Keyed α} (h : ∀ pair ∈ pairs, pair.1 < key)
    (value : α) : insert key value pairs = pairs ++ [(key, value)] := by
  induction pairs with
  | nil => rfl
  | cons pair rest ih =>
    have hlt : pair.1 < key := h pair List.mem_cons_self
    have hne : key ≠ pair.1 := fun heq => String.lt_irrefl key (heq ▸ hlt)
    have hrest := ih fun other hother => h other (List.mem_cons_of_mem pair hother)
    rw [insert, if_neg (String.lt_asymm hlt), if_neg hne, hrest, List.cons_append]

/-- Pairs that follow in order are put behind those that are there. -/
theorem foldl_insert_of_pairwise {sorted rest : List (String × α)}
    (h : (sorted ++ rest).Pairwise fun first second => first.1 < second.1) :
    rest.foldl (fun sorted pair => insert pair.1 pair.2 sorted) sorted = sorted ++ rest := by
  induction rest generalizing sorted with
  | nil => simp
  | cons pair rest ih =>
    have hbelow : ∀ other ∈ sorted, other.1 < pair.1 := fun other hother =>
      (List.pairwise_append.1 h).2.2 other hother pair List.mem_cons_self
    have hnext := @ih (sorted ++ [pair])
    rw [List.append_assoc, List.singleton_append] at hnext
    rw [List.foldl_cons, insert_of_forall_lt hbelow]
    exact hnext h

/-- Pairs that are in order stay as they are. -/
theorem ofList_of_pairwise {pairs : List (String × α)}
    (h : pairs.Pairwise fun first second => first.1 < second.1) : ofList pairs = pairs :=
  @foldl_insert_of_pairwise α [] pairs h

end Keyed

end Deskhand
