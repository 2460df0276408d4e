/-
  Deskhand.Proofs.Json.TrailingCommas

  Trailing commas in documents.

  The repair of trailing commas looks at bare text, so it also drops commas from the strings of a
  document. What it leaves is a document all the same: the commas and blanks that go stand for
  themselves in their strings, so that each string stays a string and only becomes shorter. Outside
  the strings of a document no comma stands before a closer.

  How much shorter a document becomes can be seen from its value, too, as long as no key is
  involved: the compact text of the value loses as many characters as the document does.
-/

import Deskhand.Proofs.Json.RoundTrip
import Deskhand.Proofs.Text.TrailingCommas

namespace Deskhand.Json

open Deskhand.Text

/-! ## Values without keys -/

mutual

/-- Whether no object in the value has a member. -/
def keyless : Json → Bool
  | .array items => keylessItems items
  | .object members => members.isEmpty
  | _ => true

/-- Whether no object in one of the values has a member. -/
def keylessItems : List Json → Bool
  | [] => true
  | item :: items => keyless item && keylessItems items

end

theorem keylessItems_iff (items : List Json) :
    keylessItems items = true ↔ ∀ item ∈ items, keyless item = true := by
  induction items with
  | nil => simp [keylessItems]
  | cons item items ih => simp [keylessItems, ih]

theorem keylessItems_eq_false_iff (items : List Json) :
    keylessItems items = false ↔ ∃ item ∈ items, keyless item = false := by
  rw [← Bool.not_eq_true, keylessItems_iff]
  simp

theorem keyless_ofMembers (member : String × Json) (members : List (String × Json)) :
    keyless (ofMembers (member :: members)) = false := by
  -- Entering members one by one leaves at least one of them.
  have hne := Keyed.ofList_ne_nil (List.cons_ne_nil member members)
  obtain ⟨first, others, hcons⟩ := List.exists_cons_of_ne_nil hne
  rw [ofMembers, hcons]
  rfl

/-! ## Spaces -/

theorem Blank.notMem_comma {s : List Char} (h : Blank s) : ',' ∉ s := h.notMem (by decide)

/-- A comma before the closing bracket goes with the spaces behind it, those in front of it stay. -/
theorem dropTrailingCommas_comma_bracket {before after : List Char} (hbefore : Blank before)
    (hafter : Blank after) :
    dropTrailingCommas (before ++ ',' :: (after ++ [']'])) = before ++ [']'] := by
  have htrim : trimLeft (after ++ [']']) = [']'] := trimLeft_append_of_blank hafter.isBlank [']']
  have hcloses : closesNext (after ++ [']']) = true := by
    rw [closesNext, htrim]
    rfl
  have hbracket : dropTrailingCommas (after ++ [']']) = after ++ [']'] :=
    dropTrailingCommas_append_of_notMem hafter.notMem_comma [']']
  rw [dropTrailingCommas_append_of_notMem hbefore.notMem_comma, dropTrailingCommas_comma hcloses,
    hbracket, htrim]

/-! ## Strings -/

/-- Without the blanks at its front the content of a string is the content of a string, shorter by
as much as the literal of its text is. -/
theorem Content.exists_trimLeft {raw text : List Char} (h : Content raw text) :
    ∃ text', Content (trimLeft raw) text' ∧
      (text'.flatMap escapeChar).length + raw.length =
        (text.flatMap escapeChar).length + (trimLeft raw).length := by
  induction raw generalizing text with
  | nil => exact ⟨text, h, rfl⟩
  | cons c raw ih =>
    cases hc : isBlank c with
    | false =>
      have hkeep : trimLeft (c :: raw) = c :: raw :=
        List.dropWhile_cons_of_neg (by simp [hc])
      rw [hkeep]
      exact ⟨text, h, rfl⟩
    | true =>
      -- A blank is no backslash, so it is written as itself.
      have hbackslash : c ≠ '\\' := by
        rintro rfl
        exact absurd hc (by decide)
      obtain ⟨rest, rfl, hvisible, hquote, hcontent⟩ := h.of_cons hbackslash
      obtain ⟨text', hcontent', hlength⟩ := ih hcontent
      have hdrop : trimLeft (c :: raw) = trimLeft raw := List.dropWhile_cons_of_pos hc
      -- Its own literal is one character long, so both sides lose one.
      rw [hdrop, List.flatMap_cons, escapeChar_of_visible hquote hbackslash hvisible]
      refine ⟨text', hcontent', ?_⟩
      simp only [List.length_append, List.length_cons, List.length_nil]
      omega

/-- What the repair leaves of the content of a string is the content of a string, shorter by as much
as the literal of its text is. -/
theorem Content.exists_dropTrailingCommas {raw text : List Char} (h : Content raw text) :
    ∃ raw' text', Content raw' text' ∧
      (∀ rest, dropTrailingCommas (raw ++ '"' :: rest) = raw' ++ '"' :: dropTrailingCommas rest) ∧
      (text'.flatMap escapeChar).length + raw.length =
        (text.flatMap escapeChar).length + raw'.length := by
  induction h with
  | nil => exact ⟨[], [], .nil, fun rest => dropTrailingCommas_cons (by decide) rest, rfl⟩
  | @cons c written raw text coded content ih =>
    obtain ⟨raw', text', hcontent, hdrop, hlength⟩ := ih
    cases coded with
    | plain notQuote notBackslash visible =>
      have hplain := escapeChar_of_visible notQuote notBackslash visible
      -- The closing quote is no blank: whether a bracket follows is settled inside the string.
      have hquote : isBlank '"' = false := by decide
      by_cases hcloses : c = ',' ∧ closesNext (raw ++ ['"']) = true
      · -- The comma goes, together with the blanks behind it.
        obtain ⟨rfl, hnext⟩ := hcloses
        obtain ⟨text'', hcontent'', hlength''⟩ := hcontent.exists_trimLeft
        refine ⟨trimLeft raw', text'', hcontent'', fun rest => ?_, ?_⟩
        · have hclose : closesNext (raw ++ '"' :: rest) = true := by
            rw [closesNext_append_cons hquote, hnext]
          rw [List.singleton_append, List.cons_append, dropTrailingCommas_comma hclose, hdrop]
          exact dropWhile_append_cons hquote raw' _
        · simp only [List.flatMap_cons, hplain, List.length_append, List.length_cons,
            List.length_nil]
          omega
      -- Every other character stays.
      · refine ⟨c :: raw', c :: text', .cons (.plain notQuote notBackslash visible) hcontent,
          fun rest => ?_, ?_⟩
        · have hkeep : ¬ (c = ',' ∧ closesNext (raw ++ '"' :: rest) = true) := by
            rwa [closesNext_append_cons hquote]
          rw [List.singleton_append, List.cons_append, dropTrailingCommas_cons_of_not hkeep, hdrop,
            List.cons_append]
        · simp only [List.flatMap_cons, hplain, List.length_append, List.length_cons,
            List.length_nil]
          omega
    | @escape tail shape reads =>
      -- No escape holds a comma.
      have hcomma : ',' ∉ '\\' :: tail := by
        simp [shape.notMem (show isEscapeChar ',' = false by decide) (by decide)]
      refine ⟨'\\' :: tail ++ raw', c :: text', .cons (.escape shape reads) hcontent,
        fun rest => ?_, ?_⟩
      · rw [List.append_assoc, dropTrailingCommas_append_of_notMem hcomma, hdrop,
          List.append_assoc]
      · simp only [List.flatMap_cons, List.length_append, List.length_cons]
        omega

/-- What the repair leaves of a literal is a string, and the same one only if the repair leaves the
literal alone. -/
theorem exists_content_repaired (s : List Char) :
    ∃ raw text, Content raw text ∧
      (∀ rest, dropTrailingCommas (literal s ++ rest) =
        '"' :: (raw ++ '"' :: dropTrailingCommas rest)) ∧
      (text = s ↔ ¬ HoldsTrailingComma (literal s)) := by
  have hliteral := content_literal s
  obtain ⟨raw, text, hcontent, hdrop, hlength⟩ := hliteral.exists_dropTrailingCommas
  have hchars : ∀ rest, literal s ++ rest = '"' :: (s.flatMap escapeChar ++ '"' :: rest) := by
    intro rest
    simp [literal]
  have hrepair : ∀ rest, dropTrailingCommas (literal s ++ rest) =
      '"' :: (raw ++ '"' :: dropTrailingCommas rest) := by
    intro rest
    rw [hchars, dropTrailingCommas_cons (by decide), hdrop]
  have halone : dropTrailingCommas (literal s) = '"' :: (raw ++ ['"']) := by
    have hnothing := hrepair []
    rwa [List.append_nil] at hnothing
  refine ⟨raw, text, hcontent, hrepair, ?_⟩
  -- The literal stays as it is if and only if it holds no such comma.
  rw [← dropTrailingCommas_eq_self_iff, halone]
  constructor
  · -- A literal that became shorter would be that of a shorter text.
    rintro rfl
    have hkept : ¬ HoldsTrailingComma (literal text) := by
      intro hholds
      have hlt := length_dropTrailingCommas_lt hholds
      rw [halone] at hlt
      simp only [literal, List.length_cons, List.length_append, List.length_nil] at hlt
      omega
    rw [← halone, dropTrailingCommas_of_not hkept]
  · intro hsame
    have hraw : '"' :: (raw ++ ['"']) = literal s := hsame
    have hread := hcontent.readStringFrom []
    have hread' := hliteral.readStringFrom []
    have hequal : raw ++ ['"'] = s.flatMap escapeChar ++ ['"'] := by
      have htail := hchars []
      rw [List.append_nil, ← hraw] at htail
      exact (List.cons.inj htail).2
    rw [hequal, hread'] at hread
    exact (Prod.mk.inj (Except.ok.inj hread)).1.symm

/-! ## Where texts begin and end -/

/-- The characters of numbers are none that the repair looks at. -/
theorem isBlank_of_isNumberChar {c : Char} (h : isNumberChar c = true) :
    isBlank c = false ∧ isCloser c = false ∧ c ≠ ',' := by
  simp only [isNumberChar, Bool.or_eq_true, beq_iff_eq] at h
  rcases h with ((((hdigit | rfl) | rfl) | rfl) | rfl) | rfl
  -- A digit lies in a range in which nothing else does.
  · have hrange : 48 ≤ c.toNat ∧ c.toNat ≤ 57 := by
      simp only [Char.isDigit, Bool.and_eq_true, decide_eq_true_eq, ge_iff_le,
        UInt32.le_iff_toNat_le] at hdigit
      exact hdigit
    have hother : ∀ d : Char, d.toNat < 48 ∨ 57 < d.toNat → c ≠ d := by
      rintro d hd rfl
      omega
    refine ⟨?_, ?_, hother ',' (by decide)⟩
    · simp only [isBlank, Bool.or_eq_false_iff, Bool.and_eq_false_iff, beq_eq_false_iff_ne,
        decide_eq_false_iff_not]
      omega
    · simp [isCloser, hother ']' (by decide), hother '\x7d' (by decide)]
  all_goals decide

theorem Numeral.notMem_comma {text : List Char} {n : Json.Number} (h : Numeral text n) :
    ',' ∉ text := fun hmem => (isBlank_of_isNumberChar (h.chars ',' hmem)).2.2 rfl

theorem Denotes.begins {levels : Nat} {text : List Char} {value : Json}
    (h : Denotes levels text value) :
    ∃ c rest, text = c :: rest ∧ isBlank c = false ∧ isCloser c = false := by
  cases h with
  | number numeral =>
    obtain ⟨c, rest, rfl⟩ := List.exists_cons_of_ne_nil numeral.ne_nil
    have hc := isBlank_of_isNumberChar (numeral.chars c List.mem_cons_self)
    exact ⟨c, rest, rfl, hc.1, hc.2.1⟩
  | _ => exact ⟨_, _, rfl, by decide, by decide⟩

theorem Denotes.ends {levels : Nat} {text : List Char} {value : Json}
    (h : Denotes levels text value) :
    ∃ front c, text = front ++ [c] ∧ isBlank c = false ∧ c ≠ ',' := by
  cases h with
  | number numeral =>
    have hsplit := List.dropLast_concat_getLast numeral.ne_nil
    have hc := isBlank_of_isNumberChar (numeral.chars _ (List.getLast_mem numeral.ne_nil))
    exact ⟨_, _, hsplit.symm, hc.1, hc.2.2⟩
  | nullWord => exact ⟨['n', 'u', 'l'], 'l', rfl, by decide, by decide⟩
  | trueWord => exact ⟨['t', 'r', 'u'], 'e', rfl, by decide, by decide⟩
  | falseWord => exact ⟨['f', 'a', 'l', 's'], 'e', rfl, by decide, by decide⟩
  | @string _ raw _ content => exact ⟨'"' :: raw, '"', rfl, by decide, by decide⟩
  | @emptyArray _ spaces blank => exact ⟨'[' :: spaces, ']', rfl, by decide, by decide⟩
  | @array _ first others framed denotes =>
    exact ⟨openArray first others [], ']', by simp [arrayText, closing, openArray], by decide,
      by decide⟩
  | @emptyObject _ spaces blank => exact ⟨'\x7b' :: spaces, '\x7d', rfl, by decide, by decide⟩
  | @object _ first others framed denotes =>
    exact ⟨'\x7b' :: (first.chars ++ others.flatMap fun member => ',' :: member.chars), '\x7d',
      by simp [objectText, closingMembers], by decide, by decide⟩

theorem Denotes.dropTrailingCommas_append {levels : Nat} {text : List Char} {value : Json}
    (h : Denotes levels text value) (rest : List Char) :
    dropTrailingCommas (text ++ rest) = dropTrailingCommas text ++ dropTrailingCommas rest := by
  -- The last character is neither a blank nor a comma, so the parts do not meet.
  obtain ⟨front, c, rfl, hblank, hcomma⟩ := h.ends
  exact Text.dropTrailingCommas_append hblank hcomma front rest

/-! ## Items and members -/

/-- What the repair makes of a text of the grammar and of its value. -/
structure Repaired (levels : Nat) (text : List Char) (value value' : Json) : Prop where
  denotes : Denotes levels (dropTrailingCommas text) value'
  keyless : Json.keyless value' = Json.keyless value
  length : Json.keyless value = true →
    (compactChars value').length + text.length =
      (compactChars value).length + (dropTrailingCommas text).length

/-- What the repair makes of an item of an array. -/
structure Spelled.Repaired (levels : Nat) (item item' : Spelled) : Prop where
  framed : item'.Framed
  denotes : Denotes levels item'.text item'.value
  closes : ∀ rest, closesNext (item.chars ++ rest) = false
  chars : ∀ rest, dropTrailingCommas (item.chars ++ rest) = item'.chars ++ dropTrailingCommas rest
  keyless : Json.keyless item'.value = Json.keyless item.value
  length : Json.keyless item.value = true →
    (compactChars item'.value).length + item.chars.length =
      (compactChars item.value).length + item'.chars.length

theorem Spelled.Framed.repaired {levels : Nat} {item : Spelled} {value' : Json}
    (hframed : item.Framed) (hdenotes : Denotes levels item.text item.value)
    (h : Json.Repaired levels item.text item.value value') :
    item.Repaired levels ⟨item.before, dropTrailingCommas item.text, item.after, value'⟩ where
  framed := ⟨hframed.before, hframed.after⟩
  denotes := h.denotes
  closes := by
    intro rest
    obtain ⟨c, more, htext, hblank, hcloser⟩ := hdenotes.begins
    have hchars : item.chars ++ rest = item.before ++ c :: (more ++ (item.after ++ rest)) := by
      simp [Spelled.chars, htext]
    have hkeep : ∀ s, trimLeft (c :: s) = c :: s := fun s =>
      List.dropWhile_cons_of_neg (by simp [hblank])
    rw [closesNext, hchars,
      trimLeft_append_of_blank hframed.before.isBlank, hkeep]
    exact hcloser
  chars := by
    intro rest
    -- There is no comma in the spaces, and the text is repaired on its own.
    simp only [Spelled.chars, List.append_assoc]
    rw [dropTrailingCommas_append_of_notMem hframed.before.notMem_comma,
      hdenotes.dropTrailingCommas_append,
      dropTrailingCommas_append_of_notMem hframed.after.notMem_comma]
  keyless := h.keyless
  length := by
    intro hkeyless
    have hlength := h.length hkeyless
    simp only [Spelled.chars, List.length_append]
    omega

/-- What the repair makes of a member of an object. -/
structure SpelledMember.Repaired (levels : Nat) (member member' : SpelledMember) : Prop where
  framed : member'.Framed
  denotes : Denotes levels member'.item.text member'.item.value
  closes : ∀ rest, closesNext (member.chars ++ rest) = false
  chars : ∀ rest,
    dropTrailingCommas (member.chars ++ rest) = member'.chars ++ dropTrailingCommas rest

theorem SpelledMember.Framed.exists_repaired {levels : Nat} {member : SpelledMember}
    (hframed : member.Framed) {item' : Spelled} (h : member.item.Repaired levels item') :
    ∃ member', member.Repaired levels member' := by
  obtain ⟨raw, key, hcontent, hdrop, -⟩ := hframed.content.exists_dropTrailingCommas
  refine ⟨⟨member.before, raw, key, member.gap, item'⟩, ?_, h.denotes, ?_, ?_⟩
  · exact ⟨hframed.before, hcontent, hframed.gap, h.framed⟩
  · intro rest
    rw [closesNext, SpelledMember.chars, List.append_assoc,
      trimLeft_append_of_blank hframed.before.isBlank]
    rfl
  · intro rest
    have hchars : member.chars ++ rest = member.before ++ '"' ::
        (member.raw ++ '"' :: (member.gap ++ ':' :: (member.item.chars ++ rest))) := by
      simp [SpelledMember.chars, SpelledMember.behindQuote]
    rw [hchars, dropTrailingCommas_append_of_notMem hframed.before.notMem_comma,
      dropTrailingCommas_cons (by decide), hdrop,
      dropTrailingCommas_append_of_notMem hframed.gap.notMem_comma,
      dropTrailingCommas_cons (by decide), h.chars]
    simp [SpelledMember.chars, SpelledMember.behindQuote]

/-- Texts with commas in front of them are repaired one by one when none of them begins with a
closer. -/
theorem dropTrailingCommas_commas {α : Type} {text text' : α → List Char} {xs : List α}
    (hcloses : ∀ x ∈ xs, ∀ rest, closesNext (text x ++ rest) = false)
    (hchars : ∀ x ∈ xs, ∀ rest,
      dropTrailingCommas (text x ++ rest) = text' x ++ dropTrailingCommas rest)
    (rest : List Char) :
    dropTrailingCommas ((xs.flatMap fun x => ',' :: text x) ++ rest) =
      (xs.flatMap fun x => ',' :: text' x) ++ dropTrailingCommas rest := by
  induction xs with
  | nil => rfl
  | cons x xs ih =>
    have hx := hcloses x List.mem_cons_self
      ((xs.flatMap fun x => ',' :: text x) ++ rest)
    have hrest := ih (fun y hy => hcloses y (List.mem_cons_of_mem x hy))
      (fun y hy => hchars y (List.mem_cons_of_mem x hy))
    rw [List.flatMap_cons, List.append_assoc, List.cons_append,
      dropTrailingCommas_cons_of_not (by simp [hx]), hchars x List.mem_cons_self, hrest]
    simp

theorem dropTrailingCommas_openArray {levels : Nat} {first : Spelled} {items : List Spelled}
    {f : Spelled → Spelled} (h : ∀ item ∈ first :: items, item.Repaired levels (f item))
    (rest : List Char) :
    dropTrailingCommas (openArray first items rest) =
      openArray (f first) (items.map f) (dropTrailingCommas rest) := by
  have hitems := dropTrailingCommas_commas
    (fun item hitem => (h item (List.mem_cons_of_mem first hitem)).closes)
    (fun item hitem => (h item (List.mem_cons_of_mem first hitem)).chars) rest
  rw [openArray, dropTrailingCommas_cons (by decide), (h first List.mem_cons_self).chars, hitems,
    openArray, List.flatMap_map]

theorem exists_repaired_items {levels : Nat} {items : List Spelled}
    (hframed : ∀ item ∈ items, item.Framed)
    (hdenotes : ∀ item ∈ items, Denotes levels item.text item.value)
    (h : ∀ item ∈ items, ∃ value', Repaired levels item.text item.value value') :
    ∃ f : Spelled → Spelled, ∀ item ∈ items, item.Repaired levels (f item) := by
  -- The choice needs an item for every text, so those outside the list stay as they are.
  have hitems : ∀ item : Spelled, ∃ item', item ∈ items → item.Repaired levels item' := by
    intro item
    by_cases hitem : item ∈ items
    · obtain ⟨value', hvalue⟩ := h item hitem
      exact ⟨_, fun _ => (hframed item hitem).repaired (hdenotes item hitem) hvalue⟩
    · exact ⟨item, fun hmem => absurd hmem hitem⟩
  exact Classical.axiomOfChoice hitems

/-- What the repair leaves of an array denotes the array of what it leaves of the items. -/
theorem denotes_repaired_array {levels : Nat} {first : Spelled} {items : List Spelled}
    {f : Spelled → Spelled} (h : ∀ item ∈ first :: items, item.Repaired levels (f item)) :
    Denotes (levels + 1) (arrayText (f first) (items.map f) [])
      (.array ((f first :: items.map f).map Spelled.value)) := by
  refine .array (fun item hitem => ?_) (fun item hitem => ?_)
  all_goals
    rw [← List.map_cons] at hitem
    obtain ⟨other, hother, rfl⟩ := List.mem_map.1 hitem
  · exact (h other hother).framed
  · exact (h other hother).denotes

theorem keylessItems_map {levels : Nat} {items : List Spelled} {f : Spelled → Spelled}
    (h : ∀ item ∈ items, item.Repaired levels (f item)) :
    keylessItems ((items.map f).map Spelled.value) = keylessItems (items.map Spelled.value) := by
  induction items with
  | nil => rfl
  | cons item items ih =>
    have hitems := ih fun other hother => h other (List.mem_cons_of_mem item hother)
    simp only [List.map_cons, keylessItems, (h item List.mem_cons_self).keyless, hitems]

/-! ## Lengths -/

theorem length_compactItems (item : Json) (items : List Json) :
    (compactItems (item :: items)).length + 1 =
      ((item :: items).flatMap fun value => ',' :: compactChars value).length := by
  induction items generalizing item with
  | nil => simp [compactItems]
  | cons other items ih =>
    have hother := ih other
    rw [compactItems, List.flatMap_cons, List.length_append, List.length_append, ← hother,
      List.length_cons, List.length_cons]
    · omega
    · simp

theorem length_arrayText (first : Spelled) (items : List Spelled) :
    (arrayText first items []).length =
      ((first :: items).flatMap fun item => ',' :: item.chars).length + 1 := by
  simp only [arrayText, closing, List.flatMap_cons, List.length_append, List.length_cons,
    List.length_nil]
  omega

theorem length_openArray_map {first : Spelled} {items : List Spelled} {f : Spelled → Spelled}
    (h : ∀ item ∈ first :: items, (f item).chars.length = item.chars.length) (rest : List Char) :
    (openArray (f first) (items.map f) rest).length = (openArray first items rest).length := by
  have hitems : ((items.map f).flatMap fun item => ',' :: item.chars).length =
      (items.flatMap fun item => ',' :: item.chars).length := by
    rw [List.flatMap_map, List.length_flatMap, List.length_flatMap]
    refine congrArg List.sum (List.map_congr_left fun item hitem => ?_)
    rw [List.length_cons, List.length_cons, h item (List.mem_cons_of_mem first hitem)]
  simp only [openArray, List.length_cons, List.length_append, hitems, h first List.mem_cons_self]

/-- What two texts of an item gain and lose, the joined texts gain and lose. -/
theorem length_commas_exchange {α : Type} {a a' b b' : α → List Char} {xs : List α}
    (h : ∀ x ∈ xs, (a' x).length + (b x).length = (a x).length + (b' x).length) :
    (xs.flatMap fun x => ',' :: a' x).length + (xs.flatMap fun x => ',' :: b x).length =
      (xs.flatMap fun x => ',' :: a x).length + (xs.flatMap fun x => ',' :: b' x).length := by
  induction xs with
  | nil => rfl
  | cons x xs ih =>
    have hx := h x List.mem_cons_self
    have hxs := ih fun y hy => h y (List.mem_cons_of_mem x hy)
    simp only [List.flatMap_cons, List.length_append, List.length_cons]
    omega

/-- An array loses as many characters as the compact text of its value. -/
theorem length_repaired_array {levels : Nat} {first : Spelled} {items : List Spelled}
    {f : Spelled → Spelled} (h : ∀ item ∈ first :: items, item.Repaired levels (f item))
    (hkeyless : ∀ item ∈ first :: items, keyless item.value = true) :
    (compactChars (.array ((f first :: items.map f).map Spelled.value))).length +
        (arrayText first items []).length =
      (compactChars (.array ((first :: items).map Spelled.value))).length +
        (arrayText (f first) (items.map f) []).length := by
  -- Each item has one comma or one bracket in front of it.
  have hcompact : ∀ first items,
      (compactChars (.array ((first :: items).map Spelled.value))).length =
        ((first :: items).flatMap fun item => ',' :: compactChars item.value).length + 1 := by
    intro first items
    have hlength := length_compactItems first.value (items.map Spelled.value)
    rw [← List.map_cons, List.flatMap_map] at hlength
    simp only [compactChars, List.map_cons, List.length_append, List.length_cons,
      List.length_nil] at hlength ⊢
    omega
  have hjoined := length_commas_exchange fun item hitem =>
    (h item hitem).length (hkeyless item hitem)
  rw [hcompact, hcompact, length_arrayText, length_arrayText, ← List.map_cons, List.flatMap_map,
    List.flatMap_map]
  omega

/-! ## The repair of a text of the grammar -/

/-- A text without commas stays as it is. -/
theorem repaired_of_notMem {levels : Nat} {text : List Char} {value : Json} (hcomma : ',' ∉ text)
    (h : Denotes levels text value) : Repaired levels text value value := by
  have hsame := dropTrailingCommas_append_of_notMem hcomma []
  rw [List.append_nil, show dropTrailingCommas [] = [] from rfl, List.append_nil] at hsame
  exact ⟨by rwa [hsame], rfl, fun _ => by rw [hsame]⟩

/-- What the repair leaves of a string is a string. -/
theorem Content.exists_repaired {raw text : List Char} (h : Content raw text) (levels : Nat) :
    ∃ value', Repaired levels ('"' :: (raw ++ ['"'])) (.string (String.ofList text)) value' := by
  obtain ⟨raw', text', hcontent, hdrop, hlength⟩ := h.exists_dropTrailingCommas
  have hstring : dropTrailingCommas ('"' :: (raw ++ ['"'])) = '"' :: (raw' ++ ['"']) := by
    rw [dropTrailingCommas_cons (by decide), hdrop]
    rfl
  refine ⟨.string (String.ofList text'), ?_, rfl, fun _ => ?_⟩
  · rw [hstring]
    exact .string hcontent
  · rw [hstring]
    simp only [compactChars, literal, String.toList_ofList, List.length_cons, List.length_append,
      List.length_nil]
    omega

/-- What the repair leaves of an array is the array of what it leaves of the items. -/
theorem repaired_array {levels : Nat} {first : Spelled} {items : List Spelled}
    {f : Spelled → Spelled} (h : ∀ item ∈ first :: items, item.Repaired levels (f item)) :
    Repaired (levels + 1) (arrayText first items []) (.array ((first :: items).map Spelled.value))
      (.array ((f first :: items.map f).map Spelled.value)) := by
  have hdrop : dropTrailingCommas (arrayText first items []) =
      arrayText (f first) (items.map f) [] := by
    rw [arrayText_eq_openArray, dropTrailingCommas_openArray h]
    rfl
  refine ⟨?_, ?_, ?_⟩
  · rw [hdrop]
    exact denotes_repaired_array h
  · exact @keylessItems_map levels (first :: items) f h
  -- Without keys in the array there are none in the items.
  · intro hkeyless
    have hall := (keylessItems_iff _).1 hkeyless
    rw [hdrop]
    exact length_repaired_array h fun item hitem => hall item.value (List.mem_map_of_mem hitem)

theorem exists_repaired_members {levels : Nat} {members : List SpelledMember}
    (hframed : ∀ member ∈ members, member.Framed)
    (hdenotes : ∀ member ∈ members, Denotes levels member.item.text member.item.value)
    (h : ∀ member ∈ members,
      ∃ value', Repaired levels member.item.text member.item.value value') :
    ∃ f : SpelledMember → SpelledMember, ∀ member ∈ members, member.Repaired levels (f member) := by
  have hmembers : ∀ member : SpelledMember,
      ∃ member', member ∈ members → member.Repaired levels member' := by
    intro member
    by_cases hmember : member ∈ members
    · obtain ⟨value', hvalue⟩ := h member hmember
      have hitem := (hframed member hmember).item.repaired (hdenotes member hmember) hvalue
      obtain ⟨member', hrepaired⟩ := (hframed member hmember).exists_repaired hitem
      exact ⟨member', fun _ => hrepaired⟩
    · exact ⟨member, fun hmem => absurd hmem hmember⟩
  exact Classical.axiomOfChoice hmembers

/-- What the repair leaves of an object is the object of what it leaves of the members. Both have a
key. -/
theorem repaired_object {levels : Nat} {first : SpelledMember} {members : List SpelledMember}
    {f : SpelledMember → SpelledMember}
    (h : ∀ member ∈ first :: members, member.Repaired levels (f member)) :
    Repaired (levels + 1) (objectText first members [])
      (ofMembers ((first :: members).map SpelledMember.entry))
      (ofMembers ((f first :: members.map f).map SpelledMember.entry)) := by
  have hmembers := dropTrailingCommas_commas
    (fun member hmember => (h member (List.mem_cons_of_mem first hmember)).closes)
    (fun member hmember => (h member (List.mem_cons_of_mem first hmember)).chars) ['\x7d']
  have hdrop : dropTrailingCommas (objectText first members []) =
      objectText (f first) (members.map f) [] := by
    rw [objectText, dropTrailingCommas_cons (by decide), (h first List.mem_cons_self).chars,
      closingMembers, hmembers, objectText, closingMembers, List.flatMap_map]
    rfl
  refine ⟨?_, ?_, ?_⟩
  · rw [hdrop]
    refine .object (fun member hmember => ?_) (fun member hmember => ?_)
    all_goals
      rw [← List.map_cons] at hmember
      obtain ⟨other, hother, rfl⟩ := List.mem_map.1 hmember
    · exact (h other hother).framed
    · exact (h other hother).denotes
  · rw [List.map_cons, List.map_cons, keyless_ofMembers, keyless_ofMembers]
  -- An object with a member is not without keys.
  · intro hkeyless
    rw [List.map_cons, keyless_ofMembers] at hkeyless
    cases hkeyless

/-- **The repair keeps the grammar.** What the repair leaves of a text that denotes a value is a
text that denotes a value, nested no deeper, with a key in it if and only if there was one. -/
theorem Denotes.exists_repaired {levels : Nat} {text : List Char} {value : Json}
    (h : Denotes levels text value) : ∃ value', Repaired levels text value value' := by
  induction h with
  | nullWord => exact ⟨_, repaired_of_notMem (by decide) .nullWord⟩
  | trueWord => exact ⟨_, repaired_of_notMem (by decide) .trueWord⟩
  | falseWord => exact ⟨_, repaired_of_notMem (by decide) .falseWord⟩
  | number numeral => exact ⟨_, repaired_of_notMem numeral.notMem_comma (.number numeral)⟩
  | emptyArray blank =>
    exact ⟨_, repaired_of_notMem (by simp [blank.notMem_comma]) (.emptyArray blank)⟩
  | emptyObject blank =>
    exact ⟨_, repaired_of_notMem (by simp [blank.notMem_comma]) (.emptyObject blank)⟩
  | @string levels raw text content => exact content.exists_repaired levels
  | array framed denotes ih =>
    obtain ⟨f, hf⟩ := exists_repaired_items framed denotes ih
    exact ⟨_, repaired_array hf⟩
  | object framed denotes ih =>
    obtain ⟨f, hf⟩ := exists_repaired_members framed denotes ih
    exact ⟨_, repaired_object hf⟩

end Deskhand.Json
