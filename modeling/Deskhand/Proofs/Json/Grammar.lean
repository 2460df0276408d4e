/-
  Deskhand.Proofs.Json.Grammar

  The grammar of documents.

  What the reader accepts, said without the reader: words, numbers, strings, and arrays and objects
  with spaces between their tokens. The two main statements are that every text of the grammar is
  read as the value that it denotes, whatever may follow a value behind it, and that whatever has
  been read was such a text. Together they say that the grammar is neither too wide nor too narrow.

  Numbers alone are not taken apart any further: the text of a number is one that the reader takes
  for that number. What matters of it elsewhere are its characters.
-/

import Deskhand.Proofs.Json.Members
import Deskhand.Proofs.Json.Numerals

namespace Deskhand.Json

/-! ## The grammar -/

/-- Nothing but spaces stands around the text of the item. -/
structure Spelled.Framed (item : Spelled) : Prop where
  before : Blank item.before
  after : Blank item.after

/-- Nothing but spaces stands between the tokens of the member, and its key is a string. -/
structure SpelledMember.Framed (member : SpelledMember) : Prop where
  before : Blank member.before
  content : Content member.raw member.key
  gap : Blank member.gap
  item : member.item.Framed

/-- A text denotes a value that is nested at most so many levels deep. No spaces stand around it. -/
inductive Denotes : (levels : Nat) → List Char → Json → Prop where
  | nullWord {levels : Nat} : Denotes levels ['n', 'u', 'l', 'l'] .null
  | trueWord {levels : Nat} : Denotes levels ['t', 'r', 'u', 'e'] (.bool true)
  | falseWord {levels : Nat} : Denotes levels ['f', 'a', 'l', 's', 'e'] (.bool false)
  | number {levels : Nat} {text : List Char} {n : Json.Number} (numeral : Numeral text n) :
      Denotes levels text (.number n)
  | string {levels : Nat} {raw text : List Char} (content : Content raw text) :
      Denotes levels ('"' :: (raw ++ ['"'])) (.string (String.ofList text))
  | emptyArray {levels : Nat} {spaces : List Char} (blank : Blank spaces) :
      Denotes (levels + 1) ('[' :: (spaces ++ [']'])) (.array [])
  | array {levels : Nat} {first : Spelled} {others : List Spelled}
      (framed : ∀ item ∈ first :: others, item.Framed)
      (denotes : ∀ item ∈ first :: others, Denotes levels item.text item.value) :
      Denotes (levels + 1) (arrayText first others [])
        (.array ((first :: others).map Spelled.value))
  | emptyObject {levels : Nat} {spaces : List Char} (blank : Blank spaces) :
      Denotes (levels + 1) ('\x7b' :: (spaces ++ ['\x7d'])) (.object [])
  | object {levels : Nat} {first : SpelledMember} {others : List SpelledMember}
      (framed : ∀ member ∈ first :: others, member.Framed)
      (denotes : ∀ member ∈ first :: others, Denotes levels member.item.text member.item.value) :
      Denotes (levels + 1) (objectText first others [])
        (ofMembers ((first :: others).map SpelledMember.entry))

/-! ## Texts of the grammar are read -/

theorem Numeral.opens {text : List Char} {n : Json.Number} (h : Numeral text n) :
    ∃ c rest, text = c :: rest ∧ isSpace c = false ∧ c ≠ ']' := by
  obtain ⟨c, rest, rfl⟩ := List.exists_cons_of_ne_nil h.ne_nil
  have hc : isNumberChar c = true := h.chars c List.mem_cons_self
  refine ⟨c, rest, rfl, ?_, ?_⟩
  -- Neither a space nor a bracket is a character of a number.
  · cases hspace : isSpace c with
    | false => rfl
    | true =>
      simp only [isSpace, Bool.or_eq_true, beq_iff_eq] at hspace
      rcases hspace with ((rfl | rfl) | rfl) | rfl <;> cases hc
  · rintro rfl
    cases hc

theorem Denotes.opens {levels : Nat} {text : List Char} {value : Json}
    (h : Denotes levels text value) :
    ∃ c rest, text = c :: rest ∧ isSpace c = false ∧ c ≠ ']' := by
  cases h with
  | number numeral => exact numeral.opens
  | _ => exact ⟨_, _, rfl, by decide, by decide⟩

theorem arrayText_append (first : Spelled) (others : List Spelled) (rest : List Char) :
    arrayText first others [] ++ rest = arrayText first others rest := by
  simp [arrayText, closing]

theorem objectText_append (first : SpelledMember) (others : List SpelledMember)
    (rest : List Char) : objectText first others [] ++ rest = objectText first others rest := by
  simp [objectText, closingMembers]

/-- **Texts of the grammar are read.** With two steps for each character and enough levels, a text
that denotes a value is read as the value, whatever may follow a value behind it. -/
theorem Denotes.readValue {levels depth : Nat} {text : List Char} {value : Json}
    (h : Denotes levels text value) (hdepth : levels ≤ depth) {n : Nat} (hn : 2 * text.length ≤ n)
    {rest : List Char} (hrest : EndsValue rest) :
    readValue n depth (text ++ rest) = .ok (value, rest) := by
  -- Every text takes a step.
  obtain ⟨m, rfl⟩ : ∃ m, n = m + 1 := by
    obtain ⟨c, more, rfl, -, -⟩ := h.opens
    rw [List.length_cons] at hn
    exact ⟨n - 1, by omega⟩
  induction h generalizing depth m rest with
  | nullWord => simp [Json.readValue, skipSpace_cons, isSpace, readWord]
  | trueWord => simp [Json.readValue, skipSpace_cons, isSpace, readWord]
  | falseWord => simp [Json.readValue, skipSpace_cons, isSpace, readWord]
  | number numeral => exact numeral.reads m depth rest hrest
  | string content =>
    rw [List.cons_append, List.append_assoc, List.singleton_append]
    exact content.readValue m depth rest
  | emptyArray blank =>
    obtain ⟨depth, rfl⟩ : ∃ d, depth = d + 1 := ⟨depth - 1, by omega⟩
    obtain ⟨m, rfl⟩ : ∃ k, m = k + 1 := ⟨m - 1, by simp at hn; omega⟩
    rw [List.cons_append, List.append_assoc, List.singleton_append]
    exact readValue_emptyArray blank m depth rest
  | array framed denotes ih =>
    obtain ⟨depth, rfl⟩ : ∃ d, depth = d + 1 := ⟨depth - 1, by omega⟩
    rw [arrayText_append]
    -- Each item is read with two steps for each of its characters, which the array can spare.
    refine readValue_arrayText (fun item hitem => ?_) hn rest
    refine ⟨(framed item hitem).before, (framed item hitem).after, (denotes item hitem).opens, ?_⟩
    intro k rest hk hrest
    obtain ⟨c, more, htext, -, -⟩ := (denotes item hitem).opens
    obtain ⟨j, rfl⟩ : ∃ j, k = j + 1 := ⟨k - 1, by simp [htext] at hk; omega⟩
    exact ih item hitem (Nat.le_of_succ_le_succ hdepth) hrest j hk
  | emptyObject blank =>
    obtain ⟨depth, rfl⟩ : ∃ d, depth = d + 1 := ⟨depth - 1, by omega⟩
    obtain ⟨m, rfl⟩ : ∃ k, m = k + 1 := ⟨m - 1, by simp at hn; omega⟩
    rw [List.cons_append, List.append_assoc, List.singleton_append]
    exact readValue_emptyObject blank m depth rest
  | object framed denotes ih =>
    obtain ⟨depth, rfl⟩ : ∃ d, depth = d + 1 := ⟨depth - 1, by omega⟩
    rw [objectText_append]
    refine readValue_objectText (fun member hmember => ?_) hn rest
    obtain ⟨hbefore, hcontent, hgap, hitem⟩ := framed member hmember
    refine ⟨hbefore, hcontent, hgap, hitem.before, hitem.after, (denotes member hmember).opens, ?_⟩
    intro k rest hk hrest
    obtain ⟨c, more, htext, -, -⟩ := (denotes member hmember).opens
    obtain ⟨j, rfl⟩ : ∃ j, k = j + 1 := ⟨k - 1, by simp [htext] at hk; omega⟩
    exact ih member hmember (Nat.le_of_succ_le_succ hdepth) hrest j hk

theorem Denotes.reads {levels depth : Nat} {item : Spelled}
    (h : Denotes levels item.text item.value) (hframed : item.Framed) (hdepth : levels ≤ depth) :
    item.Reads (2 * item.text.length) depth where
  before := hframed.before
  after := hframed.after
  opens := h.opens
  reads := fun _ _ hn hrest => h.readValue hdepth hn hrest

/-! ## What has been read was a text of the grammar -/

theorem eq_of_readWord {value found : Json} {word s rest : List Char}
    (h : readWord value word s = .ok (found, rest)) : found = value ∧ s = word ++ rest := by
  induction word generalizing s with
  | nil =>
    obtain ⟨rfl, rfl⟩ := Prod.mk.inj (Except.ok.inj h)
    exact ⟨rfl, rfl⟩
  | cons w word ih =>
    cases s with
    | nil => cases h
    | cons c s =>
      rw [readWord] at h
      split at h
      · next hc =>
        obtain ⟨hfound, rfl⟩ := ih h
        exact ⟨hfound, by rw [hc, List.cons_append]⟩
      · cases h

theorem exists_numeral_of_numberValue {negative : Bool} {s rest : List Char} {value : Json}
    (h : numberValue (readNumber negative s) = .ok (value, rest)) :
    ∃ n text, value = .number n ∧ s = text ++ rest ∧
      Numeral (if negative then '-' :: text else text) n := by
  cases hread : readNumber negative s with
  | error fault =>
    rw [hread] at h
    cases h
  | ok found =>
    obtain ⟨n, behind⟩ := found
    rw [hread] at h
    obtain ⟨rfl, rfl⟩ := Prod.mk.inj (Except.ok.inj h)
    obtain ⟨text, hs, hnumeral⟩ := exists_numeral_of_readNumber hread
    exact ⟨n, text, rfl, hs, hnumeral⟩

/-- The items are framed and their texts denote their values. -/
structure ItemsDenote (levels : Nat) (items : List Spelled) : Prop where
  framed : ∀ item ∈ items, item.Framed
  denotes : ∀ item ∈ items, Denotes levels item.text item.value

/-- The members are framed and the texts of their values denote these. -/
structure MembersDenote (levels : Nat) (members : List SpelledMember) : Prop where
  framed : ∀ member ∈ members, member.Framed
  denotes : ∀ member ∈ members, Denotes levels member.item.text member.item.value

theorem itemsDenote_nil (levels : Nat) : ItemsDenote levels [] :=
  ⟨fun _ h => absurd h List.not_mem_nil, fun _ h => absurd h List.not_mem_nil⟩

theorem membersDenote_nil (levels : Nat) : MembersDenote levels [] :=
  ⟨fun _ h => absurd h List.not_mem_nil, fun _ h => absurd h List.not_mem_nil⟩

/-- What has been read with so many steps was a text of the grammar: a value, what follows the
first item of an array, and what follows the first member of an object. -/
structure ReadsGrammar (fuel : Nat) : Prop where
  value : ∀ {depth : Nat} {s rest : List Char} {value : Json},
    readValue fuel depth s = .ok (value, rest) →
      ∃ spaces text, Blank spaces ∧ s = spaces ++ (text ++ rest) ∧ Denotes depth text value
  items : ∀ {depth : Nat} {s rest : List Char} {values : List Json},
    readItems fuel depth false s = .ok (values, rest) →
      ∃ spaces items, Blank spaces ∧ s = spaces ++ closing items rest ∧
        values = items.map Spelled.value ∧ ItemsDenote depth items
  firstItems : ∀ {depth : Nat} {s rest : List Char} {values : List Json},
    readItems fuel depth true s = .ok (values, rest) →
      (∃ spaces, Blank spaces ∧ s = spaces ++ ']' :: rest ∧ values = []) ∨
        ∃ first others, s = first.chars ++ closing others rest ∧
          values = (first :: others).map Spelled.value ∧ ItemsDenote depth (first :: others)
  members : ∀ {depth : Nat} {s rest : List Char} {found : List (String × Json)},
    readMembers fuel depth false s = .ok (found, rest) →
      ∃ spaces members, Blank spaces ∧ s = spaces ++ closingMembers members rest ∧
        found = members.map SpelledMember.entry ∧ MembersDenote depth members
  firstMembers : ∀ {depth : Nat} {s rest : List Char} {found : List (String × Json)},
    readMembers fuel depth true s = .ok (found, rest) →
      (∃ spaces, Blank spaces ∧ s = spaces ++ '\x7d' :: rest ∧ found = []) ∨
        ∃ first others, s = first.chars ++ closingMembers others rest ∧
          found = (first :: others).map SpelledMember.entry ∧ MembersDenote depth (first :: others)

namespace ReadsGrammar

variable {fuel depth : Nat} {s rest : List Char}

/-- An item and those behind it have been read, with spaces in front of them. -/
theorem item (ih : ReadsGrammar fuel) {spaces behind : List Char} {value : Json}
    {values : List Json} (hspaces : Blank spaces)
    (hvalue : readValue fuel depth s = .ok (value, behind))
    (hvalues : readItems fuel depth false behind = .ok (values, rest)) :
    ∃ first others, spaces ++ s = first.chars ++ closing others rest ∧
      value :: values = (first :: others).map Spelled.value ∧
      ItemsDenote depth (first :: others) := by
  obtain ⟨before, text, hbefore, rfl, hdenotes⟩ := ih.value hvalue
  obtain ⟨after, others, hafter, rfl, rfl, hothers⟩ := ih.items hvalues
  refine ⟨⟨spaces ++ before, text, after, value⟩, others, by simp [Spelled.chars], rfl, ?_, ?_⟩
  · intro item hitem
    rcases List.mem_cons.1 hitem with rfl | hmem
    · exact ⟨hspaces.append hbefore, hafter⟩
    · exact hothers.framed item hmem
  · intro item hitem
    rcases List.mem_cons.1 hitem with rfl | hmem
    · exact hdenotes
    · exact hothers.denotes item hmem

/-- A member and those behind it have been read, with spaces in front of them. -/
theorem member (ih : ReadsGrammar fuel) {spaces colon behindColon behind : List Char}
    {key : String} {value : Json} {found : List (String × Json)} (hspaces : Blank spaces)
    (hkey : readString s = .ok (key, colon)) (hcolon : skipSpace colon = ':' :: behindColon)
    (hvalue : readValue fuel depth behindColon = .ok (value, behind))
    (hfound : readMembers fuel depth false behind = .ok (found, rest)) :
    ∃ first others, spaces ++ '"' :: s = first.chars ++ closingMembers others rest ∧
      (key, value) :: found = (first :: others).map SpelledMember.entry ∧
      MembersDenote depth (first :: others) := by
  -- The key, the spaces up to the colon, the value, and what follows it.
  obtain ⟨raw, text, rfl, rfl, hcontent⟩ := exists_content_of_readString hkey
  obtain ⟨gap, hgap, hsplit⟩ := exists_spaces_append colon
  obtain ⟨before, valueText, hbefore, rfl, hdenotes⟩ := ih.value hvalue
  obtain ⟨after, others, hafter, rfl, rfl, hothers⟩ := ih.members hfound
  rw [hcolon] at hsplit
  subst hsplit
  refine ⟨⟨spaces, raw, text, gap, ⟨before, valueText, after, value⟩⟩, others, ?_, rfl, ?_, ?_⟩
  · simp [SpelledMember.chars, SpelledMember.behindQuote, Spelled.chars]
  · intro member hmember
    rcases List.mem_cons.1 hmember with rfl | hmem
    · exact ⟨hspaces, hcontent, hgap, hbefore, hafter⟩
    · exact hothers.framed member hmem
  · intro member hmember
    rcases List.mem_cons.1 hmember with rfl | hmem
    · exact hdenotes
    · exact hothers.denotes member hmem

theorem succ_firstItems (ih : ReadsGrammar fuel) {values : List Json}
    (h : readItems (fuel + 1) depth true s = .ok (values, rest)) :
    (∃ spaces, Blank spaces ∧ s = spaces ++ ']' :: rest ∧ values = []) ∨
      ∃ first others, s = first.chars ++ closing others rest ∧
        values = (first :: others).map Spelled.value ∧ ItemsDenote depth (first :: others) := by
  obtain ⟨spaces, hspaces, hs⟩ := exists_spaces_append s
  rw [readItems] at h
  generalize skipSpace s = token at hs h
  subst hs
  split at h
  · cases h
  -- The array ends at once.
  · obtain ⟨rfl, rfl⟩ := Prod.mk.inj (Except.ok.inj h)
    exact .inl ⟨spaces, hspaces, rfl, rfl⟩
  -- Otherwise it has a first item.
  · simp only [if_true] at h
    split at h
    · cases h
    next value behind hvalue =>
    split at h
    · cases h
    next values' rest' hvalues =>
    obtain ⟨rfl, rfl⟩ := Prod.mk.inj (Except.ok.inj h)
    exact .inr (ih.item hspaces hvalue hvalues)

theorem succ_items (ih : ReadsGrammar fuel) {values : List Json}
    (h : readItems (fuel + 1) depth false s = .ok (values, rest)) :
    ∃ spaces items, Blank spaces ∧ s = spaces ++ closing items rest ∧
      values = items.map Spelled.value ∧ ItemsDenote depth items := by
  obtain ⟨spaces, hspaces, hs⟩ := exists_spaces_append s
  rw [readItems] at h
  generalize skipSpace s = token at hs h
  subst hs
  split at h
  · cases h
  · obtain ⟨rfl, rfl⟩ := Prod.mk.inj (Except.ok.inj h)
    exact ⟨spaces, [], hspaces, rfl, rfl, itemsDenote_nil depth⟩
  next c behindComma _ =>
  simp only [Bool.false_eq_true, if_false] at h
  by_cases hc : c = ','
  · subst hc
    simp only [if_true] at h
    obtain ⟨before, hbefore, hsplit⟩ := exists_spaces_append behindComma
    generalize skipSpace behindComma = next at hsplit h
    subst hsplit
    -- Behind the comma there is a value, and not the end of the text or of the array.
    split at h
    · cases h
    next start hstart =>
    have hsame : start = next := by
      split at hstart
      · cases hstart
      · cases hstart
      · exact (Except.ok.inj hstart).symm
    subst hsame
    split at h
    · cases h
    next value behind hvalue =>
    split at h
    · cases h
    next values' rest' hvalues =>
    obtain ⟨rfl, rfl⟩ := Prod.mk.inj (Except.ok.inj h)
    obtain ⟨first, others, hchars, hmap, hdenotes⟩ := ih.item hbefore hvalue hvalues
    refine ⟨spaces, first :: others, hspaces, ?_, hmap, hdenotes⟩
    rw [hchars, closing_cons]
    simp [Spelled.chars]
  · simp only [if_neg hc] at h
    cases h

theorem succ_firstMembers (ih : ReadsGrammar fuel) {found : List (String × Json)}
    (h : readMembers (fuel + 1) depth true s = .ok (found, rest)) :
    (∃ spaces, Blank spaces ∧ s = spaces ++ '\x7d' :: rest ∧ found = []) ∨
      ∃ first others, s = first.chars ++ closingMembers others rest ∧
        found = (first :: others).map SpelledMember.entry ∧
          MembersDenote depth (first :: others) := by
  obtain ⟨spaces, hspaces, hs⟩ := exists_spaces_append s
  rw [readMembers] at h
  generalize skipSpace s = token at hs h
  subst hs
  split at h
  · cases h
  · obtain ⟨rfl, rfl⟩ := Prod.mk.inj (Except.ok.inj h)
    exact .inl ⟨spaces, hspaces, rfl, rfl⟩
  next c behindQuote _ =>
  simp only [if_true] at h
  by_cases hc : c = '"'
  · subst hc
    simp only [if_true] at h
    split at h
    · cases h
    next key colon hkey =>
    split at h
    · cases h
    · next behindColon hcolon =>
      split at h
      · cases h
      next value behind hvalue =>
      split at h
      · cases h
      next found' rest' hfound =>
      obtain ⟨rfl, rfl⟩ := Prod.mk.inj (Except.ok.inj h)
      exact .inr (ih.member hspaces hkey hcolon hvalue hfound)
    · cases h
  · simp only [if_neg hc] at h
    cases h

theorem succ_members (ih : ReadsGrammar fuel) {found : List (String × Json)}
    (h : readMembers (fuel + 1) depth false s = .ok (found, rest)) :
    ∃ spaces members, Blank spaces ∧ s = spaces ++ closingMembers members rest ∧
      found = members.map SpelledMember.entry ∧ MembersDenote depth members := by
  obtain ⟨spaces, hspaces, hs⟩ := exists_spaces_append s
  rw [readMembers] at h
  generalize skipSpace s = token at hs h
  subst hs
  split at h
  · cases h
  · obtain ⟨rfl, rfl⟩ := Prod.mk.inj (Except.ok.inj h)
    exact ⟨spaces, [], hspaces, rfl, rfl, membersDenote_nil depth⟩
  next c behindComma _ =>
  simp only [Bool.false_eq_true, if_false] at h
  by_cases hc : c = ','
  · subst hc
    simp only [if_true] at h
    obtain ⟨before, hbefore, hsplit⟩ := exists_spaces_append behindComma
    generalize skipSpace behindComma = next at hsplit h
    subst hsplit
    -- Behind the comma there is a quote and nothing else.
    split at h
    · cases h
    next behindQuote hquote =>
    have hnext : next = '"' :: behindQuote := by
      split at hquote
      · cases hquote
      · rw [Except.ok.inj hquote]
      · cases hquote
      · cases hquote
    subst hnext
    split at h
    · cases h
    next key colon hkey =>
    split at h
    · cases h
    · next behindColon hcolon =>
      split at h
      · cases h
      next value behind hvalue =>
      split at h
      · cases h
      next found' rest' hfound =>
      obtain ⟨rfl, rfl⟩ := Prod.mk.inj (Except.ok.inj h)
      obtain ⟨first, others, hchars, hmap, hdenotes⟩ :=
        ih.member hbefore hkey hcolon hvalue hfound
      exact ⟨spaces, first :: others, hspaces, by rw [hchars, closingMembers_cons], hmap, hdenotes⟩
    · cases h
  · simp only [if_neg hc] at h
    cases h

theorem succ_value (ih : ReadsGrammar fuel) {value : Json}
    (h : readValue (fuel + 1) depth s = .ok (value, rest)) :
    ∃ spaces text, Blank spaces ∧ s = spaces ++ (text ++ rest) ∧ Denotes depth text value := by
  obtain ⟨spaces, hspaces, hs⟩ := exists_spaces_append s
  rw [readValue] at h
  generalize skipSpace s = token at hs h
  subst hs
  split at h
  · cases h
  -- The three words.
  · obtain ⟨rfl, rfl⟩ := eq_of_readWord h
    exact ⟨spaces, _, hspaces, rfl, .nullWord⟩
  · obtain ⟨rfl, rfl⟩ := eq_of_readWord h
    exact ⟨spaces, _, hspaces, rfl, .trueWord⟩
  · obtain ⟨rfl, rfl⟩ := eq_of_readWord h
    exact ⟨spaces, _, hspaces, rfl, .falseWord⟩
  -- A string.
  · split at h
    · cases h
    next content behind hcontent =>
    obtain ⟨rfl, rfl⟩ := Prod.mk.inj (Except.ok.inj h)
    obtain ⟨raw, text, rfl, rfl, hraw⟩ := exists_content_of_readString hcontent
    exact ⟨spaces, '"' :: (raw ++ ['"']), hspaces, by simp, .string hraw⟩
  -- An array, which takes one level. It is empty or has a first item.
  · split at h
    · cases h
    next depth =>
    split at h
    · cases h
    next items behind hitems =>
    obtain ⟨rfl, rfl⟩ := Prod.mk.inj (Except.ok.inj h)
    obtain ⟨inner, hinner, rfl, rfl⟩ | ⟨first, others, rfl, rfl, hdenotes⟩ := ih.firstItems hitems
    · exact ⟨spaces, _, hspaces, by simp, .emptyArray hinner⟩
    · refine ⟨spaces, _, hspaces, ?_, .array hdenotes.framed hdenotes.denotes⟩
      rw [arrayText_append, arrayText]
  -- An object, in the same way.
  · split at h
    · cases h
    next depth =>
    split at h
    · cases h
    next members behind hmembers =>
    obtain ⟨rfl, rfl⟩ := Prod.mk.inj (Except.ok.inj h)
    obtain ⟨inner, hinner, rfl, rfl⟩ | ⟨first, others, rfl, rfl, hdenotes⟩ :=
      ih.firstMembers hmembers
    · exact ⟨spaces, _, hspaces, by simp, .emptyObject hinner⟩
    · refine ⟨spaces, _, hspaces, ?_, .object hdenotes.framed hdenotes.denotes⟩
      rw [objectText_append, objectText]
  -- A number, with its sign or without.
  · obtain ⟨n, text, rfl, rfl, hnumeral⟩ := exists_numeral_of_numberValue h
    exact ⟨spaces, '-' :: text, hspaces, rfl, .number hnumeral⟩
  · split at h
    · obtain ⟨n, text, rfl, htext, hnumeral⟩ := exists_numeral_of_numberValue h
      exact ⟨spaces, text, hspaces, by rw [htext], .number hnumeral⟩
    · cases h

theorem zero : ReadsGrammar 0 where
  value h := by cases h
  items h := by cases h
  firstItems h := by cases h
  members h := by cases h
  firstMembers h := by cases h

theorem succ (ih : ReadsGrammar fuel) : ReadsGrammar (fuel + 1) :=
  ⟨ih.succ_value, ih.succ_items, ih.succ_firstItems, ih.succ_members, ih.succ_firstMembers⟩

end ReadsGrammar

theorem readsGrammar (fuel : Nat) : ReadsGrammar fuel := by
  -- What takes a step more is read by phrases that take fewer.
  induction fuel with
  | zero => exact .zero
  | succ fuel ih => exact ih.succ

/-! ## Documents -/

/-- **Documents are texts of the grammar.** What has been read as a document is a text that denotes
the value, with nothing but spaces around it. -/
theorem exists_denotes_of_parseChars {s : List Char} {value : Json}
    (h : parseChars s = .ok value) :
    ∃ before text after, Blank before ∧ Blank after ∧ s = before ++ (text ++ after) ∧
      Denotes maxDepth text value := by
  obtain ⟨rest, hread, hrest⟩ := exists_readLeading_of_parseChars h
  obtain ⟨before, text, hbefore, rfl, hdenotes⟩ := (readsGrammar _).value hread
  exact ⟨before, text, rest, hbefore, hrest, rfl, hdenotes⟩

/-- A text that denotes a value is a document, also with spaces around it. -/
theorem Denotes.parseChars {before text after : List Char} {value : Json}
    (h : Denotes maxDepth text value) (hbefore : Blank before) (hafter : Blank after) :
    parseChars (before ++ (text ++ after)) = .ok value := by
  have hread : readLeading (before ++ (text ++ after)) = .ok (value, after) := by
    -- The reader has two steps for each character of the whole document.
    have hfuel : 2 * text.length ≤ enoughFuel (before ++ (text ++ after)) := by
      simp only [enoughFuel, List.length_append]
      omega
    rw [readLeading, enoughFuel, readValue_append hbefore]
    exact h.readValue (Nat.le_refl maxDepth) hfuel (endsValue_of_blank hafter)
  exact parseChars_of_readLeading hread hafter

end Deskhand.Json
