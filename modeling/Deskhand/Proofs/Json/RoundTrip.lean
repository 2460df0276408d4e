/-
  Deskhand.Proofs.Json.RoundTrip

  Compact texts are read back.

  The compact text of a value is read back to the value, whatever may follow a value behind it, as
  long as the reader has two steps for each character of the text and as many levels as the value is
  deep. Left out are numbers that are no integers of 64 bits, which are rounded when they are
  written or read.

  That is so because the compact text of a value is a text of the grammar that denotes the value:
  one without any space between its tokens. The members of an object stand in the order of their
  keys, so that putting them in order changes nothing.
-/

import Deskhand.Proofs.Json.Grammar

namespace Deskhand.Json

open Deskhand.Number

/-- A value made of words, strings and integers of 64 bits, with arrays and objects nested at most
so many levels deep. The members of an object stand in the order of their keys, each key once. -/
inductive Plain : (levels : Nat) → Json → Prop where
  | null {levels : Nat} : Plain levels .null
  | bool {levels : Nat} (value : Bool) : Plain levels (.bool value)
  | integer {levels : Nat} {n : Int} (fits : Fits n) : Plain levels (.number (.integer n))
  | string {levels : Nat} (text : String) : Plain levels (.string text)
  | array {levels : Nat} {items : List Json} (plain : ∀ item ∈ items, Plain levels item) :
      Plain (levels + 1) (.array items)
  | object {levels : Nat} {members : List (String × Json)}
      (sorted : members.Pairwise fun first second => first.1 < second.1)
      (plain : ∀ member ∈ members, Plain levels member.2) : Plain (levels + 1) (.object members)

/-! ## Arrays -/

/-- A value without spaces around its compact text. -/
def bare (value : Json) : Spelled := ⟨[], compactChars value, [], value⟩

theorem framed_bare (value : Json) : (bare value).Framed := ⟨blank_nil, blank_nil⟩

theorem compactItems_append (item : Json) (items : List Json) (tail : List Char) :
    compactItems (item :: items) ++ ']' :: tail =
      (bare item).chars ++ closing (items.map bare) tail := by
  induction items generalizing item with
  | nil => simp [compactItems, bare, Spelled.chars, closing]
  | cons other items ih =>
    have hother := ih other
    rw [List.map_cons, closing_cons, compactItems, List.append_assoc, List.cons_append, hother]
    · simp [bare, Spelled.chars]
    · simp

theorem compactChars_array_append (item : Json) (items : List Json) (tail : List Char) :
    compactChars (.array (item :: items)) ++ tail =
      arrayText (bare item) (items.map bare) tail := by
  rw [arrayText, ← compactItems_append]
  simp [compactChars]

/-- The compact text of an array denotes it when those of its items do. -/
theorem denotes_compactChars_array {levels : Nat} {items : List Json}
    (h : ∀ item ∈ items, Denotes levels (compactChars item) item) :
    Denotes (levels + 1) (compactChars (.array items)) (.array items) := by
  cases items with
  | nil => exact .emptyArray blank_nil
  | cons item items =>
    have htext := compactChars_array_append item items []
    rw [List.append_nil] at htext
    -- Nothing stands around the items, so their frames are empty.
    have hframed : ∀ spelled ∈ bare item :: items.map bare, spelled.Framed := by
      rw [← List.map_cons]
      intro spelled hspelled
      obtain ⟨other, -, rfl⟩ := List.mem_map.1 hspelled
      exact framed_bare other
    have hdenotes : ∀ spelled ∈ bare item :: items.map bare,
        Denotes levels spelled.text spelled.value := by
      rw [← List.map_cons]
      intro spelled hspelled
      obtain ⟨other, hother, rfl⟩ := List.mem_map.1 hspelled
      exact h other hother
    have hvalues : (bare item :: items.map bare).map Spelled.value = item :: items := by
      simp [bare, Function.comp_def]
    rw [htext, ← hvalues]
    exact .array hframed hdenotes

/-! ## Objects -/

/-- A member without spaces, its key written as a literal. -/
def bareMember (member : String × Json) : SpelledMember :=
  ⟨[], member.1.toList.flatMap escapeChar, member.1.toList, [], bare member.2⟩

theorem framed_bareMember (member : String × Json) : (bareMember member).Framed :=
  ⟨blank_nil, content_literal member.1.toList, blank_nil, framed_bare member.2⟩

theorem bareMember_entry (member : String × Json) : (bareMember member).entry = member := by
  simp [bareMember, SpelledMember.entry, bare]

theorem bareMember_chars (member : String × Json) :
    (bareMember member).chars = literal member.1.toList ++ ':' :: compactChars member.2 := by
  simp [bareMember, SpelledMember.chars, SpelledMember.behindQuote, Spelled.chars, bare, literal]

theorem compactMembers_append (member : String × Json) (members : List (String × Json))
    (tail : List Char) :
    compactMembers (member :: members) ++ '\x7d' :: tail =
      (bareMember member).chars ++ closingMembers (members.map bareMember) tail := by
  induction members generalizing member with
  | nil => simp [compactMembers, bareMember_chars, closingMembers]
  | cons other members ih =>
    have hother := ih other
    rw [List.map_cons, closingMembers_cons, ← hother, compactMembers, bareMember_chars]
    · simp
    · simp

theorem compactChars_object_append (member : String × Json) (members : List (String × Json))
    (tail : List Char) :
    compactChars (.object (member :: members)) ++ tail =
      objectText (bareMember member) (members.map bareMember) tail := by
  rw [objectText, ← compactMembers_append]
  simp [compactChars]

/-- The compact text of an object denotes it when those of its values do and its keys stand in
order. -/
theorem denotes_compactChars_object {levels : Nat} {members : List (String × Json)}
    (sorted : members.Pairwise fun first second => first.1 < second.1)
    (h : ∀ member ∈ members, Denotes levels (compactChars member.2) member.2) :
    Denotes (levels + 1) (compactChars (.object members)) (.object members) := by
  cases members with
  | nil => exact .emptyObject blank_nil
  | cons member members =>
    have htext := compactChars_object_append member members []
    rw [List.append_nil] at htext
    have hframed : ∀ spelled ∈ bareMember member :: members.map bareMember, spelled.Framed := by
      rw [← List.map_cons]
      intro spelled hspelled
      obtain ⟨other, -, rfl⟩ := List.mem_map.1 hspelled
      exact framed_bareMember other
    have hdenotes : ∀ spelled ∈ bareMember member :: members.map bareMember,
        Denotes levels spelled.item.text spelled.item.value := by
      rw [← List.map_cons]
      intro spelled hspelled
      obtain ⟨other, hother, rfl⟩ := List.mem_map.1 hspelled
      exact h other hother
    have hentries : (bareMember member :: members.map bareMember).map SpelledMember.entry =
        member :: members := by
      simp [bareMember_entry, Function.comp_def]
    -- The members are in order, so that reading them leaves them as they are.
    have hordered : ofMembers (member :: members) = .object (member :: members) := by
      rw [ofMembers, Keyed.ofList_of_pairwise sorted]
    rw [htext, ← hordered, ← hentries]
    exact .object hframed hdenotes

/-! ## Values -/

/-- The digits of an integer of 64 bits are the text of a number. -/
theorem numeral_integer {n : Int} (h : Fits n) :
    Numeral (Number.text (.integer n)).toList (.integer n) := by
  have hdigits (m : Nat) : ∀ c ∈ Nat.toDigits 10 m, isNumberChar c = true := by
    intro c hc
    have hdigit : c.isDigit = true := Nat.isDigit_of_mem_toDigits (by decide) (by decide) hc
    simp [isNumberChar, hdigit]
  -- The text is digits, with a minus sign in front of a negative integer.
  refine ⟨?_, ?_, fun fuel depth rest hrest => readValue_integer fuel depth h hrest⟩
  · cases n with
    | ofNat m =>
      rw [text_ofNat]
      exact hdigits m
    | negSucc m =>
      rw [text_negSucc]
      intro c hc
      rcases List.mem_cons.1 hc with rfl | hmem
      · rfl
      · exact hdigits (m + 1) c hmem
  · cases n with
    | ofNat m =>
      rw [text_ofNat]
      exact Nat.toDigits_ne_nil
    | negSucc m =>
      rw [text_negSucc]
      exact List.cons_ne_nil _ _

/-- The compact text of a value is a text of the grammar. -/
theorem Plain.denotes {levels : Nat} {value : Json} (h : Plain levels value) :
    Denotes levels (compactChars value) value := by
  induction h with
  | null => exact .nullWord
  | bool value =>
    cases value with
    | false => exact .falseWord
    | true => exact .trueWord
  | integer fits => exact .number (numeral_integer fits)
  | string text =>
    have hcontent := content_literal text.toList
    rw [← String.ofList_toList (s := text)]
    exact .string (by rwa [String.toList_ofList])
  | array plain ih => exact denotes_compactChars_array ih
  | object sorted plain ih => exact denotes_compactChars_object sorted ih

/-- **Compact texts are read back.** With two steps for each character and enough levels, the
compact text of a value is read as the value, whatever may follow a value behind it. -/
theorem Plain.readValue_compactChars {levels depth : Nat} {value : Json} (h : Plain levels value)
    (hdepth : levels ≤ depth) {n : Nat} (hn : 2 * (compactChars value).length ≤ n)
    {rest : List Char} (hrest : EndsValue rest) :
    readValue n depth (compactChars value ++ rest) = .ok (value, rest) :=
  h.denotes.readValue hdepth hn hrest

/-- The compact text of a value is read between spaces. -/
theorem Plain.reads {levels depth : Nat} {value : Json} (h : Plain levels value)
    (hdepth : levels ≤ depth) {before after : List Char} (hbefore : Blank before)
    (hafter : Blank after) :
    Spelled.Reads ⟨before, compactChars value, after, value⟩ (2 * (compactChars value).length)
      depth := by
  let item : Spelled := ⟨before, compactChars value, after, value⟩
  have hitem : Denotes levels item.text item.value := h.denotes
  exact hitem.reads ⟨hbefore, hafter⟩ hdepth

/-- The compact text of a value is read to its end. -/
theorem Plain.readLeading_compactChars {value : Json} (h : Plain maxDepth value) :
    readLeading (compactChars value) = .ok (value, []) := by
  have henough : 2 * (compactChars value).length ≤ enoughFuel (compactChars value) :=
    Nat.le_add_right _ 2
  have hvalue :=
    h.readValue_compactChars (Nat.le_refl maxDepth) henough (endsValue_of_blank blank_nil)
  rwa [List.append_nil] at hvalue

theorem Plain.parseChars_compactChars {value : Json} (h : Plain maxDepth value) :
    parseChars (compactChars value) = .ok value :=
  parseChars_of_readLeading h.readLeading_compactChars blank_nil

end Deskhand.Json
