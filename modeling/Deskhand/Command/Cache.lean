/-
  Deskhand.Command.Cache

  The parse cache.

  Argument lists by command text. The first list stored for a text stays. A cache with a capacity
  refuses new texts once it is full; reading is pure, so a refused text only costs a second reading.
-/

import Deskhand.Command.Argument

namespace Deskhand.Command

/-- The stored argument lists, and how many of them there may be. -/
structure Cache where
  entries : List (String × List Argument)
  capacity : Option Nat

namespace Cache

def empty (capacity : Option Nat) : Cache := ⟨[], capacity⟩

/-- The list stored for a command text. -/
def get? (cache : Cache) (command : String) : Option (List Argument) :=
  cache.entries.lookup command

def size (cache : Cache) : Nat := cache.entries.length

/-- Whether there is no room for another text. -/
def isFull (cache : Cache) : Bool := cache.capacity.any (· ≤ cache.size)

/-- Stores a list unless the text has one or the cache is full. Returns the list that counts for the
text from now on: the stored one, or else the given one. -/
def insert (cache : Cache) (command : String) (args : List Argument) : List Argument × Cache :=
  match cache.get? command with
  | some stored => (stored, cache)
  | none =>
    if cache.isFull then (args, cache)
    else (args, { cache with entries := cache.entries ++ [(command, args)] })

def clear (cache : Cache) : Cache := { cache with entries := [] }

/-! ## Small facts -/

theorem get?_empty (capacity : Option Nat) (command : String) :
    (empty capacity).get? command = none := rfl

theorem get?_clear (cache : Cache) (command : String) : cache.clear.get? command = none := rfl

/-- A new text gets its list where there is room. -/
theorem get?_insert_self {cache : Cache} {command : String} (h : cache.get? command = none)
    (room : cache.isFull = false) (args : List Argument) :
    (cache.insert command args).2.get? command = some args := by
  unfold insert
  rw [h]
  simp only [room]
  simp only [get?] at h ⊢
  simp [List.lookup_append, h]

end Cache

end Deskhand.Command
