/-
  Deskhand.Proofs.Command.TrailingComma

  A comma behind the last argument.

  Arguments that the strict strategy accepts are items of an array. With a comma behind the last one
  the strict strategy refuses them, and the sanitized one reads what its two passes leave. Without a
  key in them the items survive the escaping of quotes; what the repair of trailing commas leaves of
  them are the same arguments exactly when there was nothing else for it to repair. With a key in
  one of them they do not survive, and the manual strategy has the last word.
-/

import Deskhand.Proofs.Command.InnerQuotes

namespace Deskhand.Command

open Deskhand.Text Deskhand.Json

/-! ## Accepted arguments -/

/-- What has been read between brackets denotes its value from bracket to bracket. -/
theorem denotes_bracketed {text : List Char} {value : Json}
    (h : parseChars (bracketed text) = .ok value) : Denotes maxDepth (bracketed text) value := by
  obtain ⟨before, inner, after, hbefore, hafter, hsplit, hdenotes⟩ := exists_denotes_of_parseChars h
  -- The first character is a bracket and so is the last one, which leaves no room for spaces.
  have hfront : before = [] := by
    cases before with
    | nil => rfl
    | cons c before =>
      obtain ⟨rfl, -⟩ := List.cons.inj hsplit
      exact absurd List.mem_cons_self (hbefore.notMem (by decide))
  have hback : after = [] := by
    rcases List.eq_nil_or_concat after with hnil | ⟨front, c, rfl⟩
    · exact hnil
    · have hlast := congrArg List.getLast? hsplit
      simp only [bracketed, List.concat_eq_append, ← List.append_assoc, List.getLast?_append,
        List.getLast?_singleton, Option.some_or, Option.some.injEq] at hlast
      subst hlast
      exact absurd (by simp) (hafter.notMem (show isSpace ']' = false by decide))
  rw [hsplit, hfront, hback, List.nil_append, List.append_nil]
  exact hdenotes

/-- Between the brackets there is nothing, or there are items. -/
theorem exists_items_of_bracketed {text : List Char} {items : List Json}
    (h : parseChars (bracketed text) = .ok (.array items)) :
    (Blank text ∧ items = []) ∨
      ∃ first others, bracketed text = arrayText first others [] ∧
        items = (first :: others).map Spelled.value ∧
          ItemsDenote (maxDepth - 1) (first :: others) := by
  have hdenotes := denotes_bracketed h
  generalize htext : bracketed text = whole at hdenotes
  generalize hvalue : Json.array items = value at hdenotes
  cases hdenotes with
  | @emptyArray _ spaces blank =>
    have hspaces : text = spaces := by
      have hinner := (List.cons.inj htext).2
      exact List.append_cancel_right hinner
    exact .inl ⟨hspaces ▸ blank, (Json.array.inj hvalue)⟩
  | @array _ first others framed denotes =>
    exact .inr ⟨first, others, rfl, Json.array.inj hvalue, framed, denotes⟩
  | object framed denotes => cases hvalue
  | nullWord | trueWord | falseWord | number | string | emptyObject => cases hvalue

/-! ## The strict strategy refuses the comma -/

/-- A comma that stands alone between brackets is no value. -/
theorem exists_error_bracketed_comma {spaces : List Char} (h : Blank spaces) :
    ∃ e, parseChars (bracketed (spaces ++ [','])) = .error e := by
  -- The comma is reached in three steps.
  obtain ⟨n, hn⟩ : ∃ n, enoughFuel (bracketed (spaces ++ [','])) = n + 3 := by
    refine ⟨2 * spaces.length + 5, ?_⟩
    simp [enoughFuel, bracketed]
    omega
  have hread : readLeading (bracketed (spaces ++ [','])) = faultAt .expectedValue [',', ']'] := by
    rw [readLeading, hn]
    simp [maxDepth, bracketed, readValue, readItems, skipSpace_cons, isSpace, skipSpace_append h,
      faultAt]
  exact ⟨_, parseChars_of_readLeading_error hread⟩

theorem bracketed_comma {text : List Char} {first : Spelled} {others : List Spelled}
    (htext : bracketed text = arrayText first others []) :
    bracketed (text ++ [',']) = openArray first others [',', ']'] := by
  have hinner : text ++ [']'] =
      first.chars ++ (others.flatMap (fun item => ',' :: item.chars) ++ [']']) :=
    (List.cons.inj htext).2
  rw [← List.append_assoc] at hinner
  rw [openArray, bracketed, List.append_cancel_right hinner]
  simp

theorem exists_error_items_comma {text : List Char} {first : Spelled} {others : List Spelled}
    (htext : bracketed text = arrayText first others [])
    (hdenotes : ItemsDenote (maxDepth - 1) (first :: others)) :
    ∃ e, parseChars (bracketed (text ++ [','])) = .error e := by
  have hreads : ∀ item ∈ first :: others, item.Reads (2 * item.text.length) (maxDepth - 1) :=
    fun item hitem =>
      (hdenotes.denotes item hitem).reads (hdenotes.framed item hitem) (Nat.le_refl _)
  rw [bracketed_comma htext]
  exact parseChars_trailingComma hreads blank_nil blank_nil

/-! ## What the sanitized strategy makes of a document -/

theorem parseChars_escaped_keyless {text : List Char} {value : Json}
    (h : Denotes maxDepth text value) (hkeyless : keyless value = true) :
    parseChars (escapeInnerQuotes text) = .ok value := by
  have hends : endsString [] = true := rfl
  have hkept := escapeInnerFrom_keyless h hkeyless hends
  have hparse := h.parseChars blank_nil blank_nil
  rw [List.append_nil] at hkept
  rw [List.nil_append, List.append_nil] at hparse
  rw [escapeInnerQuotes, hkept, escapeInnerFrom, List.append_nil, hparse]

/-- A document with a key is refused. -/
theorem exists_error_escaped_keyed {text : List Char} {value : Json}
    (h : Denotes maxDepth text value) (hkeyed : keyless value = false) :
    ∃ e, parseChars (escapeInnerQuotes text) = .error e := by
  -- The escaped text is no shorter than the text, so the fuel for it is enough for both.
  have hlength := length_le_length_escapeInnerFrom false text
  have hfuel : 2 * text.length ≤ enoughFuel (escapeInnerFrom false text) := by
    simp only [enoughFuel]
    omega
  have hends : endsString [] = true := rfl
  obtain ⟨fault, hfault⟩ := exists_error_keyed h hkeyed (Nat.le_refl _) hfuel hends
  rw [List.append_nil] at hfault
  exact ⟨_, parseChars_of_readLeading_error hfault⟩

/-! ## Repaired items -/

section Repaired

variable {first : Spelled} {others : List Spelled} {f : Spelled → Spelled}

/-- What the repair leaves of an item stands for the same argument only if it is as long. -/
theorem length_chars_of_argumentOf {levels : Nat} {item item' : Spelled} (hframed : item.Framed)
    (hdenotes : Denotes levels item.text item.value) (h : item.Repaired levels item')
    (hkeyless : keyless item.value = true)
    (hargument : argumentOf item'.value = argumentOf item.value) :
    item'.chars.length = item.chars.length := by
  have hlength := h.length hkeyless
  generalize hvalue : item.value = value at hdenotes hlength hargument
  generalize item'.value = value' at hlength hargument
  have hcompact : compact value' = compact value → item'.chars.length = item.chars.length := by
    intro hsame
    have hchars := congrArg String.toList hsame
    rw [compact, compact, String.toList_ofList, String.toList_ofList] at hchars
    rw [hchars] at hlength
    omega
  cases value with
  | number n =>
    -- A number has no comma, so nothing of its item goes.
    generalize htext : item.text = text at hdenotes
    cases hdenotes with
    | number numeral =>
      have hcomma : ',' ∉ item.chars := by
        simp [Spelled.chars, htext, hframed.before.notMem_comma, hframed.after.notMem_comma,
          numeral.notMem_comma]
      have hchars := h.chars []
      rw [dropTrailingCommas_append_of_notMem hcomma] at hchars
      have hequal : item.chars = item'.chars := List.append_cancel_right hchars
      rw [hequal]
  | string text =>
    cases value' with
    | string text' => exact hcompact (by rw [Argument.text.inj hargument])
    | null | bool | number | array | object => cases hargument
  | null | bool | array | object =>
    cases value' with
    | string | number => cases hargument
    | null | bool | array | object => exact hcompact (Argument.token.inj hargument)

/-- Repaired items stand for the same arguments exactly when there was no trailing comma. -/
theorem map_argumentOf_eq_iff {text : List Char}
    (htext : bracketed text = arrayText first others [])
    (hdenotes : ItemsDenote (maxDepth - 1) (first :: others))
    (hf : ∀ item ∈ first :: others, item.Repaired (maxDepth - 1) (f item))
    (hkeyless : ∀ item ∈ first :: others, keyless item.value = true) :
    ((f first :: others.map f).map Spelled.value).map argumentOf =
        ((first :: others).map Spelled.value).map argumentOf ↔
      ¬ HoldsTrailingComma text := by
  -- Up to its last bracket the text is what the repair goes over.
  have hbracket : '[' :: text = openArray first others [] := by
    have hsplit : '[' :: text ++ [']'] = openArray first others [] ++ [']'] := by
      rw [show '[' :: text ++ [']'] = bracketed text from rfl, htext]
      simp [arrayText, closing, openArray]
    exact List.append_cancel_right hsplit
  have hdrop : '[' :: dropTrailingCommas text = openArray (f first) (others.map f) [] := by
    rw [← dropTrailingCommas_cons (by decide), hbracket, dropTrailingCommas_openArray hf]
    rfl
  rw [← dropTrailingCommas_eq_self_iff]
  constructor
  · intro h
    -- Items that kept their arguments kept their lengths, and so did the text.
    have hchars : ∀ item ∈ first :: others, (f item).chars.length = item.chars.length := by
      intro item hitem
      have hsame : argumentOf (f item).value = argumentOf item.value := by
        rw [← List.map_cons, List.map_map, List.map_map, List.map_map] at h
        exact List.map_inj_left.1 h item hitem
      exact length_chars_of_argumentOf (hdenotes.framed item hitem) (hdenotes.denotes item hitem)
        (hf item hitem) (hkeyless item hitem) hsame
    have hlength := length_openArray_map hchars []
    rw [← hdrop, ← hbracket, List.length_cons, List.length_cons] at hlength
    refine dropTrailingCommas_of_not fun hholds => ?_
    have hlt := length_dropTrailingCommas_lt hholds
    omega
  · intro h
    -- Nothing was repaired, so the same array has been read.
    have hsame : arrayText (f first) (others.map f) [] = arrayText first others [] := by
      have hopen : openArray (f first) (others.map f) [] = openArray first others [] := by
        rw [← hdrop, h, hbracket]
      have hclose := congrArg (· ++ [']']) hopen
      simpa [arrayText, closing, openArray] using hclose
    have hrepaired := (denotes_repaired_array hf).parseChars blank_nil blank_nil
    have horiginal :=
      (Denotes.array hdenotes.framed hdenotes.denotes).parseChars blank_nil blank_nil
    rw [hsame, horiginal] at hrepaired
    rw [← Json.array.inj (Except.ok.inj hrepaired)]

end Repaired

/-! ## The chain -/

/-- With a comma behind them, arguments that the strict strategy accepts are read by the sanitized
one if there is no key in them, and by the manual one otherwise. The sanitized strategy gives the
same arguments exactly when the text held no trailing comma before. -/
theorem readArguments_comma_iff {text : List Char} {items : List Json}
    (h : parseChars (bracketed text) = .ok (.array items)) :
    (keylessItems items = true →
        (readArguments (text ++ [',']) = items.map argumentOf ↔ ¬ HoldsTrailingComma text)) ∧
      (keylessItems items = false →
        readArguments (text ++ [',']) = readManual (text ++ [','])) := by
  rcases exists_items_of_bracketed h with ⟨hblank, rfl⟩ | ⟨first, others, htext, rfl, hdenotes⟩
  -- There are only spaces, so the comma is the only one, and it goes.
  · obtain ⟨e, hstrict⟩ := exists_error_bracketed_comma hblank
    have hdrop : dropTrailingCommas (bracketed (text ++ [','])) = '[' :: (text ++ [']']) := by
      have hrepair := dropTrailingCommas_comma_bracket hblank blank_nil
      rw [bracketed, List.cons_append, dropTrailingCommas_cons (by decide), List.append_assoc]
      exact congrArg ('[' :: ·) hrepair
    have hsanitized : parseChars (escapeInnerQuotes ('[' :: (text ++ [']']))) = .ok (.array []) :=
      parseChars_escaped_keyless (.emptyArray hblank) rfl
    refine ⟨fun _ => ⟨fun _ hholds => ?_, fun _ => ?_⟩, fun hkeyed => by cases hkeyed⟩
    · obtain ⟨before, rest, rfl, -⟩ := hholds
      exact hblank.notMem_comma (by simp)
    · simp [readArguments, readStrict, readSanitized, readArray, hstrict, hdrop, hsanitized]
  -- There are items: the comma behind them goes, and so do trailing ones inside them.
  · obtain ⟨e, hstrict⟩ := exists_error_items_comma htext hdenotes
    obtain ⟨f, hf⟩ := exists_repaired_items hdenotes.framed hdenotes.denotes
      fun item hitem => (hdenotes.denotes item hitem).exists_repaired
    have hdrop : dropTrailingCommas (bracketed (text ++ [','])) =
        arrayText (f first) (others.map f) [] := by
      rw [bracketed_comma htext, dropTrailingCommas_openArray hf]
      rfl
    have hrepaired := denotes_repaired_array hf
    have hkeys : keylessItems ((f first :: others.map f).map Spelled.value) =
        keylessItems ((first :: others).map Spelled.value) := keylessItems_map hf
    constructor
    · intro hkeyless
      have hsanitized := parseChars_escaped_keyless hrepaired (hkeys.trans hkeyless)
      have hread : readArguments (text ++ [',']) =
          ((f first :: others.map f).map Spelled.value).map argumentOf := by
        simp [readArguments, readStrict, readSanitized, readArray, hstrict, hdrop, hsanitized]
      have hall : ∀ item ∈ first :: others, keyless item.value = true := fun item hitem =>
        (keylessItems_iff _).1 hkeyless item.value (List.mem_map_of_mem hitem)
      rw [hread]
      exact map_argumentOf_eq_iff htext hdenotes hf hall
    · intro hkeyed
      obtain ⟨e', hsanitized⟩ := exists_error_escaped_keyed hrepaired (hkeys.trans hkeyed)
      simp [readArguments, readStrict, readSanitized, readArray, hstrict, hdrop, hsanitized]

/-- **A comma behind the last argument.** Let the strict strategy accept a text. If no object among
its arguments has a member and no comma of the text stands before a closer, the same arguments are
read with a comma behind them. If an object has a member, the manual strategy reads that text. -/
theorem readArguments_comma {text : List Char} {args : List Argument}
    (h : readStrict text = .ok args) :
    ∃ items, parseChars (bracketed text) = .ok (.array items) ∧ args = items.map argumentOf ∧
      (keylessItems items = true → ¬ HoldsTrailingComma text →
        readArguments (text ++ [',']) = args) ∧
      (keylessItems items = false →
        readArguments (text ++ [',']) = readManual (text ++ [','])) := by
  obtain ⟨items, hitems, rfl⟩ : ∃ items,
      parseChars (bracketed text) = .ok (.array items) ∧ args = items.map argumentOf := by
    rw [readStrict, readArray] at h
    split at h
    · next items hitems => exact ⟨items, hitems, (Except.ok.inj h).symm⟩
    · cases h
    · cases h
  obtain ⟨hkeyless, hkeyed⟩ := readArguments_comma_iff hitems
  exact ⟨items, hitems, rfl, fun hnone hholds => (hkeyless hnone).2 hholds, hkeyed⟩

theorem eq_ok_of_toOption {ε α : Type} {result : Except ε α} {value : α}
    (h : result.toOption = some value) : result = .ok value := by
  cases result with
  | error e => cases h
  | ok found => rw [Option.some.inj h]

/-- Strings with commas and brackets, nested arrays and objects without members are kept. -/
theorem readArguments_comma_lookalikes :
    let text := "2, [\"a,b] ,\", \x7b \x7d], null".toList
    let args := [.number (.ofInt Number.binary64 2), .token "[\"a,b] ,\",\x7b\x7d]", .token "null"]
    readStrict text = .ok args ∧ ¬ HoldsTrailingComma text ∧
      readArguments (text ++ [',']) = args := by
  intro text args
  have hstrict : readStrict text = .ok args := eq_ok_of_toOption (by decide +kernel)
  have hholds : ¬ HoldsTrailingComma text := by decide +kernel
  obtain ⟨items, hitems, -, hsame, -⟩ := readArguments_comma hstrict
  have hkeyless : keylessItems items = true := by
    have hcheck : (parseChars (bracketed text)).toOption.any keyless = true := by decide +kernel
    rw [hitems] at hcheck
    exact hcheck
  exact ⟨hstrict, hholds, hsame hkeyless hholds⟩

/-- An object with two members is one argument, and two with a comma behind it. -/
theorem not_forall_readArguments_comma :
    let text := "\x7b\"a\":1,\"b\":2\x7d".toList
    readStrict text = .ok [.token "\x7b\"a\":1,\"b\":2\x7d"] ∧
      readArguments (text ++ [',']) = [.token "\x7b\"a\":1", .text "b", .token ":2\x7d"] ∧
      ¬ ∀ (text : List Char) (args : List Argument), readStrict text = .ok args →
        readArguments (text ++ [',']) = args := by
  intro text
  have hstrict : readStrict text = .ok [.token "\x7b\"a\":1,\"b\":2\x7d"] :=
    eq_ok_of_toOption (by decide +kernel)
  have hcomma : readArguments (text ++ [',']) =
      [.token "\x7b\"a\":1", .text "b", .token ":2\x7d"] := by
    decide +kernel
  refine ⟨hstrict, hcomma, fun hall => ?_⟩
  have hsame := hall text _ hstrict
  rw [hcomma] at hsame
  exact absurd hsame (by decide)

end Deskhand.Command
