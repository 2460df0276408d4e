/-
  Deskhand.Proofs.Json.Members

  Objects with spaces between their tokens.

  An object is read back member by member, as an array is item by item. A member is a string, a
  colon and a value that can be read on its own, with spaces around each of them. The spaces in
  front of the key belong to the member and those behind the value to the value, so that an object
  is a brace, the first member, the other members with a comma before each, and a brace.
-/

import Deskhand.Proofs.Json.Items

namespace Deskhand.Json

/-- A member, its key as it stands between the quotes and as it is read, and the spaces around its
tokens. -/
structure SpelledMember where
  before : List Char
  raw : List Char
  key : List Char
  gap : List Char
  item : Spelled

namespace SpelledMember

/-- What stands behind the opening quote of the key. -/
def behindQuote (member : SpelledMember) : List Char :=
  member.raw ++ '"' :: (member.gap ++ ':' :: member.item.chars)

/-- The member as it stands between two commas. -/
def chars (member : SpelledMember) : List Char := member.before ++ '"' :: member.behindQuote

/-- The key and the value that are read. -/
def entry (member : SpelledMember) : String × Json := (String.ofList member.key, member.item.value)

/-- The tokens of the member are read, given so many steps and levels for its value. -/
structure Reads (member : SpelledMember) (fuel depth : Nat) : Prop where
  before : Blank member.before
  content : Content member.raw member.key
  gap : Blank member.gap
  item : member.item.Reads fuel depth

theorem Reads.mono {member : SpelledMember} {fuel more depth : Nat} (h : member.Reads fuel depth)
    (hmore : fuel ≤ more) : member.Reads more depth :=
  ⟨h.before, h.content, h.gap, h.item.mono hmore⟩

end SpelledMember

/-- The members after the first, with a comma before each, and the closing brace. -/
def closingMembers (members : List SpelledMember) (tail : List Char) : List Char :=
  members.flatMap (fun member => ',' :: member.chars) ++ '\x7d' :: tail

theorem closingMembers_cons (member : SpelledMember) (members : List SpelledMember)
    (tail : List Char) :
    closingMembers (member :: members) tail =
      ',' :: (member.chars ++ closingMembers members tail) := by
  simp [closingMembers]

theorem endsValue_closingMembers {spaces : List Char} (h : Blank spaces)
    (members : List SpelledMember) (tail : List Char) :
    EndsValue (spaces ++ closingMembers members tail) := by
  refine endsValue_append h ?_
  intro c hc
  cases members with
  | nil =>
    obtain rfl : '\x7d' = c := Option.some.inj hc
    exact .inr (.inr (.inr rfl))
  | cons member members =>
    obtain rfl : ',' = c := Option.some.inj hc
    exact .inr (.inl rfl)

/-! ## Reading the members -/

theorem readMembers_append {spaces : List Char} (h : Blank spaces) (n depth : Nat) (first : Bool)
    (rest : List Char) :
    readMembers (n + 1) depth first (spaces ++ rest) = readMembers (n + 1) depth first rest := by
  simp only [readMembers, skipSpace_append h]

section Reading

variable {member : SpelledMember} {members : List SpelledMember} {found : List (String × Json)}
  {fuel depth n : Nat} {tail rest : List Char}

/-- Behind the opening quote of its key a member is read, and then what follows it. -/
theorem readMembers_of_skipSpace (h : member.Reads fuel depth) (hn : fuel < n) {first : Bool}
    {s : List Char}
    (hstart : (first = true ∧
        skipSpace s = '"' :: (member.behindQuote ++ closingMembers members tail)) ∨
      (first = false ∧ ∃ more, skipSpace s = ',' :: more ∧
        skipSpace more = '"' :: (member.behindQuote ++ closingMembers members tail)))
    (hrest : readMembers n depth false (member.item.after ++ closingMembers members tail) =
      .ok (found, rest)) :
    readMembers (n + 1) depth first s = .ok (member.entry :: found, rest) := by
  -- The key, the colon and the value are read in this order.
  have hkey := h.content.readString
    (member.gap ++ ':' :: (member.item.chars ++ closingMembers members tail))
  have hcolon : skipSpace
      (member.gap ++ ':' :: (member.item.chars ++ closingMembers members tail)) =
        ':' :: (member.item.chars ++ closingMembers members tail) := by
    rw [skipSpace_append h.gap]
    exact skipSpace_cons rfl _
  have hvalue : readValue n depth (member.item.chars ++ closingMembers members tail) =
      .ok (member.item.value, member.item.after ++ closingMembers members tail) := by
    obtain ⟨m, rfl⟩ : ∃ m, n = m + 1 := ⟨n - 1, by omega⟩
    have hread := h.item.reads (m + 1) (member.item.after ++ closingMembers members tail)
      (by omega) (endsValue_closingMembers h.item.after members tail)
    rw [Spelled.chars, List.append_assoc, List.append_assoc, readValue_append h.item.before, hread]
  have hbehind : member.behindQuote ++ closingMembers members tail =
      member.raw ++ '"' ::
        (member.gap ++ ':' :: (member.item.chars ++ closingMembers members tail)) := by
    simp [SpelledMember.behindQuote]
  rw [hbehind] at hstart
  -- Behind a comma one more token is skipped.
  rcases hstart with ⟨rfl, hskip⟩ | ⟨rfl, more, hskip, hmore⟩
  · simp [readMembers, hskip, hkey, hcolon, hvalue, hrest, SpelledMember.entry]
  · simp [readMembers, hskip, hmore, hkey, hcolon, hvalue, hrest, SpelledMember.entry]

theorem SpelledMember.Reads.skipSpace_chars (h : member.Reads fuel depth) (rest : List Char) :
    skipSpace (member.chars ++ rest) = '"' :: (member.behindQuote ++ rest) := by
  rw [SpelledMember.chars, List.append_assoc, skipSpace_append h.before]
  exact skipSpace_cons rfl _

theorem readMembers_first (h : member.Reads fuel depth) (hn : fuel < n)
    (hrest : readMembers n depth false (member.item.after ++ closingMembers members tail) =
      .ok (found, rest)) :
    readMembers (n + 1) depth true (member.chars ++ closingMembers members tail) =
      .ok (member.entry :: found, rest) :=
  readMembers_of_skipSpace h hn (.inl ⟨rfl, h.skipSpace_chars _⟩) hrest

theorem readMembers_next (h : member.Reads fuel depth) (hn : fuel < n)
    (hrest : readMembers n depth false (member.item.after ++ closingMembers members tail) =
      .ok (found, rest)) :
    readMembers (n + 1) depth false (closingMembers (member :: members) tail) =
      .ok (member.entry :: found, rest) := by
  refine readMembers_of_skipSpace h hn (.inr ⟨rfl, _, ?_, h.skipSpace_chars _⟩) hrest
  rw [closingMembers_cons]
  exact skipSpace_cons rfl _

/-- The members after the first are read, each with one more step. -/
theorem readMembers_closing (h : ∀ member ∈ members, member.Reads fuel depth)
    (hn : fuel + members.length < n) (tail : List Char) :
    readMembers n depth false (closingMembers members tail) =
      .ok (members.map SpelledMember.entry, tail) := by
  induction members generalizing n with
  | nil =>
    obtain ⟨m, rfl⟩ : ∃ m, n = m + 1 := ⟨n - 1, by omega⟩
    simp [readMembers, closingMembers, skipSpace_cons, isSpace]
  | cons member members ih =>
    rw [List.length_cons] at hn
    obtain ⟨m, rfl⟩ : ∃ m, n = m + 2 := ⟨n - 2, by omega⟩
    have hothers := ih (fun other hother => h other (List.mem_cons_of_mem member hother))
      (show fuel + members.length < m + 1 by omega)
    have hmember := h member List.mem_cons_self
    have hrest : readMembers (m + 1) depth false
        (member.item.after ++ closingMembers members tail) =
          .ok (members.map SpelledMember.entry, tail) := by
      -- The spaces behind the value are left for the next step.
      rw [readMembers_append hmember.item.after]
      exact hothers
    exact readMembers_next hmember (by omega) hrest

end Reading

/-! ## Objects -/

/-- An object, from its opening brace on. -/
def objectText (first : SpelledMember) (members : List SpelledMember) (tail : List Char) :
    List Char :=
  '\x7b' :: (first.chars ++ closingMembers members tail)

/-- An object is longer than any of its values, the more so the more members it has. -/
theorem length_le_of_mem_objectText {member first : SpelledMember} {members : List SpelledMember}
    (h : member ∈ first :: members) :
    member.item.text.length + members.length + 2 ≤ (objectText first members []).length := by
  have hvalue : member.item.text.length ≤ member.chars.length := by
    simp only [SpelledMember.chars, SpelledMember.behindQuote, Spelled.chars, List.length_append,
      List.length_cons]
    omega
  simp only [objectText, closingMembers, List.length_cons, List.length_append, List.length_nil]
  rcases List.mem_cons.1 h with rfl | hmem
  · have hothers := length_le_length_commas SpelledMember.chars members
    omega
  · have hmember := length_le_of_mem_commas SpelledMember.chars hmem
    omega

/-- An object is read when its members are, with two steps for each character. -/
theorem readValue_objectText {first : SpelledMember} {members : List SpelledMember} {depth : Nat}
    (h : ∀ member ∈ first :: members, member.Reads (2 * member.item.text.length) depth)
    {n : Nat} (hn : 2 * (objectText first members []).length ≤ n) (tail : List Char) :
    readValue n (depth + 1) (objectText first members tail) =
      .ok (ofMembers ((first :: members).map SpelledMember.entry), tail) := by
  -- The steps that are left for each value once the brace and the commas have had theirs.
  let fuel := 2 * ((objectText first members []).length - members.length - 2)
  have hreads : ∀ member ∈ first :: members, member.Reads fuel depth := by
    intro member hmember
    have hlength := length_le_of_mem_objectText hmember
    exact (h member hmember).mono (by omega)
  have hlength := length_le_of_mem_objectText (List.mem_cons_self (a := first) (l := members))
  obtain ⟨m, rfl⟩ : ∃ m, n = m + 3 := ⟨n - 3, by omega⟩
  have hfirst := hreads first List.mem_cons_self
  have hothers : readMembers (m + 1) depth false
      (first.item.after ++ closingMembers members tail) =
        .ok (members.map SpelledMember.entry, tail) := by
    rw [readMembers_append hfirst.item.after]
    exact readMembers_closing
      (fun member hmember => hreads member (List.mem_cons_of_mem first hmember)) (by omega) tail
  have hread := readMembers_first hfirst (by omega) hothers
  simp [objectText, readValue, skipSpace_cons, isSpace, hread]

theorem readValue_emptyObject {spaces : List Char} (h : Blank spaces) (fuel depth : Nat)
    (tail : List Char) :
    readValue (fuel + 2) (depth + 1) ('\x7b' :: (spaces ++ '\x7d' :: tail)) =
      .ok (.object [], tail) := by
  simp [readValue, readMembers, skipSpace_cons, isSpace, skipSpace_append h, ofMembers,
    Keyed.ofList]

end Deskhand.Json
