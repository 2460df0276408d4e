/-
  Deskhand.Proofs.Json.Items

  Arrays with spaces between their tokens.

  An array is read back item by item when each of its items can be read on its own and stops in
  front of whatever may follow it. The spaces around an item belong to the item, so that an array is
  a bracket, the first item, the other items with a comma before each, and a bracket.
-/

import Deskhand.Proofs.Json.Content
import Deskhand.Text.Blank

namespace Deskhand.Json

/-! ## Spaces -/

/-- Whether nothing but spaces is written. -/
def Blank (s : List Char) : Prop := ∀ c ∈ s, isSpace c = true

instance (s : List Char) : Decidable (Blank s) := List.decidableBAll _ s

theorem blank_nil : Blank [] := by
  intro c hc
  cases hc

theorem Blank.notMem {s : List Char} (h : Blank s) {c : Char} (hc : isSpace c = false) : c ∉ s := by
  intro hmem
  rw [h c hmem] at hc
  cases hc

theorem isBlank_of_isSpace {c : Char} (h : isSpace c = true) : Text.isBlank c = true := by
  simp only [isSpace, Bool.or_eq_true, beq_iff_eq] at h
  rcases h with ((rfl | rfl) | rfl) | rfl <;> rfl

theorem Blank.isBlank {s : List Char} (h : Blank s) : ∀ c ∈ s, Text.isBlank c = true := fun c hc =>
  isBlank_of_isSpace (h c hc)

theorem skipSpace_append {spaces : List Char} (h : Blank spaces) (rest : List Char) :
    skipSpace (spaces ++ rest) = skipSpace rest := by
  induction spaces with
  | nil => rfl
  | cons c spaces ih =>
    have hc : isSpace c = true := h c List.mem_cons_self
    have htail : Blank spaces := fun d hd => h d (List.mem_cons_of_mem c hd)
    show (c :: (spaces ++ rest)).dropWhile isSpace = _
    rw [List.dropWhile_cons_of_pos hc]
    exact ih htail

theorem skipSpace_cons {c : Char} (h : isSpace c = false) (rest : List Char) :
    skipSpace (c :: rest) = c :: rest :=
  List.dropWhile_cons_of_neg (by simp [h])

theorem skipSpace_of_blank {spaces : List Char} (h : Blank spaces) : skipSpace spaces = [] := by
  have happend := skipSpace_append h []
  rwa [List.append_nil] at happend

theorem exists_spaces_append (s : List Char) : ∃ spaces, Blank spaces ∧ s = spaces ++ skipSpace s :=
  ⟨s.takeWhile isSpace, List.all_eq_true.1 List.all_takeWhile,
    List.takeWhile_append_dropWhile.symm⟩

theorem Blank.append {s t : List Char} (hs : Blank s) (ht : Blank t) : Blank (s ++ t) := by
  intro c hc
  rcases List.mem_append.1 hc with hmem | hmem
  · exact hs c hmem
  · exact ht c hmem

theorem blank_of_skipSpace {s : List Char} (h : skipSpace s = []) : Blank s := by
  obtain ⟨spaces, hspaces, hs⟩ := exists_spaces_append s
  rw [h, List.append_nil] at hs
  exact hs ▸ hspaces

/-! ## Items -/

/-- A value, the text that it is written with, and the spaces around that text. -/
structure Spelled where
  before : List Char
  text : List Char
  after : List Char
  value : Json

/-- The item as it stands between two commas. -/
def Spelled.chars (item : Spelled) : List Char := item.before ++ item.text ++ item.after

/-- A text at which a value ends: a space, a comma or a closing bracket comes first. -/
def EndsValue (s : List Char) : Prop :=
  ∀ c ∈ s.head?, isSpace c = true ∨ c = ',' ∨ c = ']' ∨ c = '\x7d'

/-- The text of the item is read as its value, given so many steps and levels. -/
structure Spelled.Reads (item : Spelled) (fuel depth : Nat) : Prop where
  before : Blank item.before
  after : Blank item.after
  opens : ∃ c rest, item.text = c :: rest ∧ isSpace c = false ∧ c ≠ ']'
  reads : ∀ n rest, fuel ≤ n → EndsValue rest →
    readValue n depth (item.text ++ rest) = .ok (item.value, rest)

/-- A string literal between spaces is read in one step. -/
theorem reads_literal {before after : List Char} (hbefore : Blank before) (hafter : Blank after)
    (s : List Char) (depth : Nat) :
    Spelled.Reads ⟨before, literal s, after, .string (String.ofList s)⟩ 1 depth where
  before := hbefore
  after := hafter
  opens := ⟨'"', _, rfl, by decide, by decide⟩
  reads := by
    intro n rest hn _
    obtain ⟨m, rfl⟩ : ∃ m, n = m + 1 := ⟨n - 1, by omega⟩
    exact readValue_literal m depth s rest

theorem Spelled.Reads.mono {item : Spelled} {fuel more depth : Nat} (h : item.Reads fuel depth)
    (hmore : fuel ≤ more) : item.Reads more depth :=
  ⟨h.before, h.after, h.opens, fun n rest hn hrest => h.reads n rest (Nat.le_trans hmore hn) hrest⟩

/-- The items after the first, with a comma before each, and the closing bracket. -/
def closing (items : List Spelled) (tail : List Char) : List Char :=
  items.flatMap (fun item => ',' :: item.chars) ++ ']' :: tail

theorem closing_cons_chars (item : Spelled) (items : List Spelled) (tail : List Char) :
    closing (item :: items) tail = ',' :: (item.chars ++ closing items tail) := by
  simp [closing]

theorem closing_cons (item : Spelled) (items : List Spelled) (tail : List Char) :
    closing (item :: items) tail =
      ',' :: (item.before ++ (item.text ++ (item.after ++ closing items tail))) := by
  simp [closing, Spelled.chars]

theorem endsValue_of_blank {s : List Char} (h : Blank s) : EndsValue s := by
  intro c hc
  exact .inl (h c (List.mem_of_mem_head? hc))

theorem endsValue_append {spaces s : List Char} (h : Blank spaces) (hs : EndsValue s) :
    EndsValue (spaces ++ s) := by
  intro c hc
  cases spaces with
  | nil => exact hs c hc
  | cons d spaces =>
    obtain rfl : d = c := Option.some.inj hc
    exact .inl (h d List.mem_cons_self)

theorem endsValue_comma (rest : List Char) : EndsValue (',' :: rest) := by
  intro c hc
  exact .inr (.inl (Option.some.inj hc).symm)

theorem endsValue_bracket (rest : List Char) : EndsValue (']' :: rest) := by
  intro c hc
  exact .inr (.inr (.inl (Option.some.inj hc).symm))

theorem endsValue_commas (items : List Spelled) {s : List Char} (hs : EndsValue s) :
    EndsValue (items.flatMap (fun item => ',' :: item.chars) ++ s) := by
  cases items with
  | nil => exact hs
  | cons item items => exact endsValue_comma _

/-! ## Reading the items -/

theorem readValue_append {spaces : List Char} (h : Blank spaces) (n depth : Nat)
    (rest : List Char) :
    readValue (n + 1) depth (spaces ++ rest) = readValue (n + 1) depth rest := by
  simp only [readValue, skipSpace_append h]

theorem readItems_append {spaces : List Char} (h : Blank spaces) (n depth : Nat) (first : Bool)
    (rest : List Char) :
    readItems (n + 1) depth first (spaces ++ rest) = readItems (n + 1) depth first rest := by
  simp only [readItems, skipSpace_append h]

/-- Behind the spaces of an item stands its value, which does not look like the end of the array. -/
theorem Spelled.Reads.starts {item : Spelled} {fuel depth : Nat} (h : item.Reads fuel depth)
    {n : Nat} (hn : fuel ≤ n) {s : List Char} (hs : EndsValue (item.after ++ s)) :
    ∃ c rest, skipSpace (item.chars ++ s) = c :: rest ∧ c ≠ ']' ∧
      readValue n depth (c :: rest) = .ok (item.value, item.after ++ s) := by
  obtain ⟨c, more, htext, hspace, hbracket⟩ := h.opens
  refine ⟨c, more ++ (item.after ++ s), ?_, hbracket, ?_⟩
  · have hchars : item.chars ++ s = item.before ++ (item.text ++ (item.after ++ s)) := by
      simp [Spelled.chars]
    rw [hchars, skipSpace_append h.before, htext]
    exact skipSpace_cons hspace _
  · have hread := h.reads n (item.after ++ s) hn hs
    rwa [htext] at hread

theorem readItems_true {s more : List Char} {c : Char} (hskip : skipSpace s = c :: more)
    (hbracket : c ≠ ']') (n depth : Nat) :
    readItems (n + 1) depth true s = readItems (n + 1) depth false (',' :: s) := by
  simp [readItems, skipSpace_cons, isSpace, hskip, hbracket]

theorem readItems_comma {s more behind : List Char} {c : Char} {value : Json} {n depth : Nat}
    (hskip : skipSpace s = c :: more) (hbracket : c ≠ ']')
    (hread : readValue n depth (c :: more) = .ok (value, behind)) :
    readItems (n + 1) depth false (',' :: s) =
      (readItems n depth false behind).map fun found => (value :: found.1, found.2) := by
  -- The comma is one token, and behind it the reader wants a value at once.
  cases hrest : readItems n depth false behind <;>
    simp [readItems, skipSpace_cons, isSpace, hskip, hread, hrest, hbracket, Except.map]

/-- What is no value behind a comma is no item either. -/
theorem readItems_comma_error {s more : List Char} {c : Char} {fault : Fault} {n depth : Nat}
    (hskip : skipSpace s = c :: more) (hbracket : c ≠ ']')
    (hread : readValue n depth (c :: more) = .error fault) :
    readItems (n + 1) depth false (',' :: s) = .error fault := by
  simp [readItems, skipSpace_cons, isSpace, hskip, hbracket, hread]

theorem readItems_next {item : Spelled} {fuel depth : Nat} (h : item.Reads fuel depth) {n : Nat}
    (hn : fuel ≤ n) {s : List Char} (hs : EndsValue (item.after ++ s)) :
    readItems (n + 1) depth false (',' :: (item.chars ++ s)) =
      (readItems n depth false (item.after ++ s)).map
        fun found => (item.value :: found.1, found.2) := by
  obtain ⟨c, more, hskip, hbracket, hread⟩ := h.starts hn hs
  exact readItems_comma hskip hbracket hread

theorem readItems_first {item : Spelled} {fuel depth : Nat} (h : item.Reads fuel depth) {n : Nat}
    (hn : fuel ≤ n) {s : List Char} (hs : EndsValue (item.after ++ s)) :
    readItems (n + 1) depth true (item.chars ++ s) =
      (readItems n depth false (item.after ++ s)).map
        fun found => (item.value :: found.1, found.2) := by
  obtain ⟨c, more, hskip, hbracket, -⟩ := h.starts hn hs
  rw [readItems_true hskip hbracket, readItems_next h hn hs]

/-- The items after the first are read, each with one more step, and then what follows them. -/
theorem readItems_commas {items : List Spelled} {fuel depth : Nat}
    (h : ∀ item ∈ items, item.Reads fuel depth) {n : Nat} (hn : fuel ≤ n) {s : List Char}
    (hs : EndsValue s) :
    readItems (n + items.length + 1) depth false
        (items.flatMap (fun item => ',' :: item.chars) ++ s) =
      (readItems (n + 1) depth false s).map
        fun found => (items.map Spelled.value ++ found.1, found.2) := by
  induction items with
  | nil => cases hread : readItems (n + 1) depth false s <;> simp [hread, Except.map]
  | cons item items ih =>
    have hitem : item.Reads fuel depth := h item List.mem_cons_self
    have hitems := ih fun other hother => h other (List.mem_cons_of_mem item hother)
    have hends := endsValue_append hitem.after (endsValue_commas items hs)
    -- The spaces behind the item are left for the next step, which skips them.
    rw [List.flatMap_cons, List.append_assoc, List.cons_append,
      show n + (item :: items).length + 1 = (n + items.length + 1) + 1 from rfl,
      readItems_next hitem (by omega) hends, readItems_append hitem.after, hitems]
    cases readItems (n + 1) depth false s <;> rfl

/-- Items of an array, from its opening bracket on, and what stands behind them. -/
def openArray (first : Spelled) (items : List Spelled) (rest : List Char) : List Char :=
  '[' :: (first.chars ++ (items.flatMap (fun item => ',' :: item.chars) ++ rest))

/-- An array of items, from its opening bracket on. -/
def arrayText (first : Spelled) (items : List Spelled) (tail : List Char) : List Char :=
  '[' :: (first.chars ++ closing items tail)

/-- An array is its items and a bracket behind them. -/
theorem arrayText_eq_openArray (first : Spelled) (items : List Spelled) (tail : List Char) :
    arrayText first items tail = openArray first items (']' :: tail) := rfl

/-- The items of an array are read, and then what stands behind them. -/
theorem readValue_openArray {first : Spelled} {items : List Spelled} {fuel depth : Nat}
    (h : ∀ item ∈ first :: items, item.Reads fuel depth) {n : Nat} (hn : fuel ≤ n)
    {rest : List Char} (hrest : EndsValue rest) :
    readValue (n + items.length + 3) (depth + 1) (openArray first items rest) =
      (readItems (n + 1) depth false rest).map
        fun found => (.array ((first :: items).map Spelled.value ++ found.1), found.2) := by
  have hfirst : first.Reads fuel depth := h first List.mem_cons_self
  have hitems := readItems_commas (fun item hitem => h item (List.mem_cons_of_mem first hitem)) hn
    hrest
  have hread := readItems_first hfirst (show fuel ≤ n + items.length + 1 by omega)
    (endsValue_append hfirst.after (endsValue_commas items hrest))
  -- What follows the first item is read item by item.
  rw [readItems_append hfirst.after, hitems] at hread
  cases hresult : readItems (n + 1) depth false rest <;>
    simp [openArray, readValue, skipSpace_cons, isSpace, hread, hresult, Except.map]

/-- Brackets with nothing but spaces between them are read as the empty array. -/
theorem readValue_emptyArray {spaces : List Char} (h : Blank spaces) (fuel depth : Nat)
    (tail : List Char) :
    readValue (fuel + 2) (depth + 1) ('[' :: (spaces ++ ']' :: tail)) = .ok (.array [], tail) := by
  simp [readValue, readItems, skipSpace_cons, isSpace, skipSpace_append h]

/-! ## Room for the steps -/

theorem length_le_length_commas {α : Type} (text : α → List Char) (xs : List α) :
    xs.length ≤ (xs.flatMap fun x => ',' :: text x).length := by
  induction xs with
  | nil => exact Nat.le_refl 0
  | cons x xs ih =>
    simp only [List.flatMap_cons, List.length_cons, List.length_append]
    omega

theorem length_le_of_mem_commas {α : Type} (text : α → List Char) {x : α} {xs : List α}
    (h : x ∈ xs) : (text x).length + xs.length ≤ (xs.flatMap fun x => ',' :: text x).length := by
  induction xs with
  | nil => cases h
  | cons y xs ih =>
    simp only [List.flatMap_cons, List.length_cons, List.length_append]
    rcases List.mem_cons.1 h with rfl | hmem
    · have hothers := length_le_length_commas text xs
      omega
    · have hx := ih hmem
      omega

/-- An array is longer than any of its items, the more so the more items it has. -/
theorem length_le_of_mem_arrayText {item first : Spelled} {items : List Spelled}
    (h : item ∈ first :: items) :
    item.text.length + items.length + 2 ≤ (arrayText first items []).length := by
  have hchars : item.text.length ≤ item.chars.length := by
    simp only [Spelled.chars, List.length_append]
    omega
  simp only [arrayText, closing, List.length_cons, List.length_append, List.length_nil]
  rcases List.mem_cons.1 h with rfl | hmem
  · have hothers := length_le_length_commas Spelled.chars items
    omega
  · have hitem := length_le_of_mem_commas Spelled.chars hmem
    omega

/-- Enough steps for an array are enough for each of its items once the brackets and the commas have
had theirs. -/
theorem exists_steps_arrayText {first : Spelled} {items : List Spelled} {depth : Nat}
    (h : ∀ item ∈ first :: items, item.Reads (2 * item.text.length) depth) {n : Nat}
    (hn : 2 * (arrayText first items []).length ≤ n) :
    ∃ m, n = m + items.length + 3 ∧ ∀ item ∈ first :: items, item.Reads m depth := by
  have hlength := length_le_of_mem_arrayText (List.mem_cons_self (a := first) (l := items))
  -- Two of the steps are for the brackets, one is for each comma.
  refine ⟨n - items.length - 3, by omega, fun item hitem => ?_⟩
  have hitemLength := length_le_of_mem_arrayText hitem
  exact (h item hitem).mono (by omega)

/-- An array is read when its items are, with two steps for each character. Spaces may stand in
front of its closing bracket. -/
theorem readValue_closed {first : Spelled} {items : List Spelled} {depth : Nat}
    (h : ∀ item ∈ first :: items, item.Reads (2 * item.text.length) depth) {n : Nat}
    (hn : 2 * (arrayText first items []).length ≤ n) {spaces : List Char} (hspaces : Blank spaces)
    (tail : List Char) :
    readValue n (depth + 1) (openArray first items (spaces ++ ']' :: tail)) =
      .ok (.array (first.value :: items.map Spelled.value), tail) := by
  obtain ⟨m, rfl, hreads⟩ := exists_steps_arrayText h hn
  have hends := endsValue_append hspaces (endsValue_bracket tail)
  rw [readValue_openArray hreads (Nat.le_refl m) hends, readItems_append hspaces]
  simp [readItems, skipSpace_cons, isSpace, Except.map]

theorem readValue_arrayText {first : Spelled} {items : List Spelled} {depth : Nat}
    (h : ∀ item ∈ first :: items, item.Reads (2 * item.text.length) depth) {n : Nat}
    (hn : 2 * (arrayText first items []).length ≤ n) (tail : List Char) :
    readValue n (depth + 1) (arrayText first items tail) =
      .ok (.array (first.value :: items.map Spelled.value), tail) :=
  readValue_closed h hn blank_nil tail

/-- Behind a comma the reader wants another item, and not the end of the array. -/
theorem readValue_trailingComma {first : Spelled} {items : List Spelled} {depth : Nat}
    (h : ∀ item ∈ first :: items, item.Reads (2 * item.text.length) depth) {n : Nat}
    (hn : 2 * (arrayText first items []).length ≤ n) {before after : List Char}
    (hbefore : Blank before) (hafter : Blank after) (tail : List Char) :
    readValue n (depth + 1) (openArray first items (before ++ ',' :: (after ++ ']' :: tail))) =
      faultAt .trailingComma (']' :: tail) := by
  obtain ⟨m, rfl, hreads⟩ := exists_steps_arrayText h hn
  have hends := endsValue_append hbefore (endsValue_comma (after ++ ']' :: tail))
  -- Behind the comma the reader meets the bracket where it wants a value.
  rw [readValue_openArray hreads (Nat.le_refl m) hends, readItems_append hbefore]
  simp [readItems, skipSpace_cons, isSpace, skipSpace_append hafter, faultAt, Except.map]

/-! ## Documents -/

theorem parseChars_of_readLeading {s rest : List Char} {value : Json}
    (h : readLeading s = .ok (value, rest)) (hrest : Blank rest) : parseChars s = .ok value := by
  have hdocument : readDocument s = .ok value := by
    simp [readDocument, h, skipSpace_of_blank hrest]
  simp [parseChars, hdocument]

/-- Behind the value of a document there is nothing but spaces. -/
theorem exists_readLeading_of_parseChars {s : List Char} {value : Json}
    (h : parseChars s = .ok value) : ∃ rest, readLeading s = .ok (value, rest) ∧ Blank rest := by
  have hdocument : readDocument s = .ok value := by
    rw [parseChars] at h
    split at h
    · next found hfound => rw [hfound, Except.ok.inj h]
    · cases h
  rw [readDocument] at hdocument
  split at hdocument
  · cases hdocument
  next found rest hread =>
  split at hdocument
  · next hskip =>
    rw [Except.ok.inj hdocument] at hread
    exact ⟨rest, hread, blank_of_skipSpace hskip⟩
  · cases hdocument

theorem le_enoughFuel_openArray (first : Spelled) (items : List Spelled) (rest : List Char) :
    2 * (arrayText first items []).length ≤ enoughFuel (openArray first items rest) := by
  rw [arrayText_eq_openArray]
  simp only [enoughFuel, openArray, List.length_cons, List.length_append, List.length_nil]
  omega

/-- A document that is an array of items. Spaces may stand in front of its closing bracket. -/
theorem parseChars_closed {first : Spelled} {items : List Spelled}
    (h : ∀ item ∈ first :: items, item.Reads (2 * item.text.length) (maxDepth - 1))
    {spaces : List Char} (hspaces : Blank spaces) :
    parseChars (openArray first items (spaces ++ [']'])) =
      .ok (.array (first.value :: items.map Spelled.value)) :=
  parseChars_of_readLeading
    (readValue_closed h (le_enoughFuel_openArray first items _) hspaces []) blank_nil

theorem parseChars_array {first : Spelled} {items : List Spelled}
    (h : ∀ item ∈ first :: items, item.Reads (2 * item.text.length) (maxDepth - 1)) :
    parseChars (arrayText first items []) =
      .ok (.array (first.value :: items.map Spelled.value)) :=
  parseChars_closed h blank_nil

theorem parseChars_of_readLeading_error {s : List Char} {fault : Fault}
    (h : readLeading s = .error fault) : parseChars s = .error (fault.place s) := by
  have hdocument : readDocument s = .error fault := by
    simp [readDocument, h]
  simp [parseChars, hdocument]

/-- An array with a comma behind its last item is no document. -/
theorem parseChars_trailingComma {first : Spelled} {items : List Spelled}
    (h : ∀ item ∈ first :: items, item.Reads (2 * item.text.length) (maxDepth - 1))
    {before after : List Char} (hbefore : Blank before) (hafter : Blank after) :
    ∃ e, parseChars (openArray first items (before ++ ',' :: (after ++ [']']))) = .error e := by
  let text := openArray first items (before ++ ',' :: (after ++ [']']))
  have hread : readLeading text = faultAt .trailingComma [']'] :=
    readValue_trailingComma h (le_enoughFuel_openArray first items _) hbefore hafter []
  exact ⟨_, parseChars_of_readLeading_error hread⟩

end Deskhand.Json
