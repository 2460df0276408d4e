/-
  Deskhand.Proofs.Desk.ChordGrammar

  The grammar of chords.

  A part of a chord can be read in three ways: as a customary name in any letter case, as a single
  letter or digit, and as the name of a key, of which the first letter may be small. The readings
  overlap, since `tab` is a customary name and `Tab` the name of a key, but they never contradict
  each other: what a part denotes does not depend on which reading is tried first. So a chord is
  read exactly if each of its parts denotes something, and the names of keys with plus signs between
  them are read as these keys.
-/

import Deskhand.Desk.Chord
import Deskhand.Proofs.Text.Pieces
import Mathlib

namespace Deskhand.Desk

open Deskhand.Text

theorem Key.name_of_ofName? {name : String} {key : Key} (h : ofName? name = some key) :
    key.name = name :=
  eq_of_beq (List.find?_some (p := fun key : Key => key.name == name) h)

namespace Chord

/-- The key that a part adds to a chord. -/
def Part.key? : Part → Option Key
  | .key k => some k
  | .char _ => none

/-- The character that a part adds to a chord. -/
def Part.char? : Part → Option Char
  | .key _ => none
  | .char c => some c

/-- What a part, without the blanks around it, may stand for. -/
inductive Denotes (part : String) : Part → Prop
  | customary {name : String} {key : Key} (hname : (name, key) ∈ customaryNames)
      (hcase : asciiLowercase part = name) : Denotes part (.key key)
  | letter {c : Char} (hc : c.isAlphanum = true) (hpart : part.toList = [c]) :
      Denotes part (.char c)
  | named {key : Key} (hname : capitalize part = key.name) : Denotes part (.key key)

/-! ## The customary names and the names of keys -/

/-- No customary name stands for two keys. -/
theorem lookup_customaryNames {name : String} {key : Key} (h : (name, key) ∈ customaryNames) :
    customaryNames.lookup name = some key := by
  -- The table is closed, so each of its entries is looked up by evaluation.
  have hall : ∀ entry ∈ customaryNames, customaryNames.lookup entry.1 = some entry.2 := by
    decide +kernel
  exact hall (name, key) h

theorem mem_customaryNames_of_lookup {name : String} {key : Key}
    (h : customaryNames.lookup name = some key) : (name, key) ∈ customaryNames := by
  obtain ⟨before, after, hsplit, -⟩ := List.lookup_eq_some_iff.1 h
  rw [hsplit]
  exact List.mem_append_right before List.mem_cons_self

/-- A customary name that is the name of a key but for letter case stands for that key. -/
theorem eq_of_lookup_name {key other : Key}
    (h : customaryNames.lookup (asciiLowercase key.name) = some other) : other = key := by
  have hall : ∀ key ∈ Key.all,
      (customaryNames.lookup (asciiLowercase key.name)).getD key = key := by
    decide +kernel
  simpa [h] using hall key key.mem_all

theorem toNat_lt_of_mem_customaryNames {name : String} {key : Key}
    (h : (name, key) ∈ customaryNames) {c : Char} (hc : c ∈ name.toList) : c.toNat < 0x80 := by
  have hall : ∀ entry ∈ customaryNames, (entry.1.toList.all fun c => c.toNat < 0x80) = true := by
    decide +kernel
  exact of_decide_eq_true (List.all_eq_true.1 (hall (name, key) h) c hc)

/-- The customary names of one character are no letters or digits. -/
theorem eq_slash_of_mem_customaryNames {name : String} {key : Key}
    (h : (name, key) ∈ customaryNames) (hname : name.toList.length = 1) :
    name = "/" ∨ name = "\\" := by
  have hall : ∀ entry ∈ customaryNames,
      entry.1.toList.length = 1 → entry.1 = "/" ∨ entry.1 = "\\" := by
    decide +kernel
  exact hall (name, key) h hname

theorem length_name_ne_one (key : Key) : key.name.toList.length ≠ 1 := by
  have hall : ∀ key ∈ Key.all, key.name.toList.length ≠ 1 := by decide +kernel
  exact hall key key.mem_all

/-- The name of a key has neither blanks nor plus signs. -/
theorem plain_of_mem_name {key : Key} {c : Char} (h : c ∈ key.name.toList) :
    c ≠ '+' ∧ isBlank c = false := by
  have hall : ∀ key ∈ Key.all,
      (key.name.toList.all fun c => c != '+' && !isBlank c) = true := by
    decide +kernel
  have hc := List.all_eq_true.1 (hall key key.mem_all) c h
  simpa using hc

/-! ## Letter case -/

theorem toNat_lt_of_isAlphanum {c : Char} (h : c.isAlphanum = true) : c.toNat < 0x80 := by
  simp only [Char.isAlphanum, Char.isAlpha, Char.isUpper, Char.isLower, Char.isDigit,
    UInt32.le_iff_toNat_le, Bool.or_eq_true, Bool.and_eq_true, decide_eq_true_eq] at h
  have hnat : c.toNat = c.val.toNat := rfl
  simp at h
  omega

theorem toNat_lt_of_toLower {c : Char} (h : c.toLower.toNat < 0x80) : c.toNat < 0x80 := by
  by_cases hupper : c.isUpper = true
  · exact toNat_lt_of_isAlphanum (by simp [Char.isAlphanum, Char.isAlpha, hupper])
  · rwa [Char.toLower_eq_of_not_isUpper hupper] at h

theorem isAlphanum_toLower {c : Char} (h : c.isAlphanum = true) : c.toLower.isAlphanum = true := by
  rw [Char.isAlphanum, Bool.or_eq_true] at h ⊢
  rcases h with halpha | hdigit
  · exact .inl (by rwa [Char.isAlpha_toLower_eq_isAlpha])
  · by_cases hupper : c.isUpper = true
    · exact .inl (by simp [Char.isAlpha, hupper])
    · exact .inr (by rwa [Char.toLower_eq_of_not_isUpper hupper])

/-- Letter case does not matter to the first letter either. -/
theorem asciiLowercase_capitalize {part : String} {c : Char} {rest : List Char}
    (hpart : part.toList = c :: rest) (hc : c.toNat < 0x80) :
    capitalize part = String.ofList (c.toUpper :: rest) ∧
      asciiLowercase (capitalize part) = asciiLowercase part := by
  have hcapital : capitalize part = String.ofList (c.toUpper :: rest) := by
    simp [capitalize, hpart, upperChar, hc]
  refine ⟨hcapital, ?_⟩
  rw [hcapital, asciiLowercase, asciiLowercase, String.toList_ofList, hpart]
  simp [asciiLower, Char.toLower_toUpper_eq_toLower]

/-! ## One part -/

/-- The second and the third reading never contradict the first one. -/
theorem eq_of_capitalize_of_lookup {part : String} {key other : Key}
    (hname : capitalize part = key.name)
    (hlookup : customaryNames.lookup (asciiLowercase part) = some other) : other = key := by
  have hmem := mem_customaryNames_of_lookup hlookup
  cases hpart : part.toList with
  | nil =>
    obtain rfl : part = "" := String.toList_eq_nil_iff.1 hpart
    have hnone : customaryNames.lookup (asciiLowercase "") = none := by decide +kernel
    rw [hnone] at hlookup
    cases hlookup
  | cons c rest =>
    -- Customary names are ASCII, and there capitals do not matter once all letters are small.
    have hc : c.toLower.toNat < 0x80 :=
      toNat_lt_of_mem_customaryNames hmem (by simp [asciiLowercase, asciiLower, hpart])
    rw [← (asciiLowercase_capitalize hpart (toNat_lt_of_toLower hc)).2, hname] at hlookup
    exact eq_of_lookup_name hlookup

theorem lookup_eq_none_of_isAlphanum {part : String} {c : Char} (hpart : part.toList = [c])
    (hc : c.isAlphanum = true) : customaryNames.lookup (asciiLowercase part) = none := by
  rw [Option.eq_none_iff_forall_ne_some]
  intro key hlookup
  have hlower : asciiLowercase part = String.ofList [c.toLower] := by
    simp [asciiLowercase, hpart, asciiLower]
  have hmem := mem_customaryNames_of_lookup hlookup
  rw [hlower] at hmem
  have hletter := isAlphanum_toLower hc
  -- The customary names of one character are the two slashes, which are no letters.
  rcases eq_slash_of_mem_customaryNames hmem (by simp) with hslash | hslash
  · have hc : c.toLower = '/' := by simpa using congrArg String.toList hslash
    rw [hc] at hletter
    exact absurd hletter (by decide)
  · have hc : c.toLower = '\\' := by simpa using congrArg String.toList hslash
    rw [hc] at hletter
    exact absurd hletter (by decide)

theorem singleChar?_eq_some_iff {part : String} {c : Char} :
    singleChar? part = some c ↔ part.toList = [c] ∧ c.isAlphanum = true := by
  unfold singleChar?
  split
  · next d hpart => by_cases hd : d.isAlphanum = true <;> simp [hd, hpart] <;> grind
  · next hpart => simp; grind

theorem denotes_of_readPart {part : String} {found : Part} (h : readPart part = some found) :
    Denotes part found := by
  unfold readPart at h
  split at h
  · next key hlookup =>
    obtain rfl := Option.some.inj h
    exact .customary (mem_customaryNames_of_lookup hlookup) rfl
  · split at h
    · next c hsingle =>
      obtain rfl := Option.some.inj h
      obtain ⟨hpart, hc⟩ := singleChar?_eq_some_iff.1 hsingle
      exact .letter hc hpart
    · obtain ⟨key, hkey, rfl⟩ := Option.map_eq_some_iff.1 h
      exact .named (Key.name_of_ofName? hkey).symm

theorem readPart_of_denotes {part : String} {found : Part} (h : Denotes part found) :
    readPart part = some found := by
  cases h with
  | customary hname hcase =>
    subst hcase
    rw [readPart, lookup_customaryNames hname]
  | letter hc hpart =>
    rw [readPart, lookup_eq_none_of_isAlphanum hpart hc, singleChar?_eq_some_iff.2 ⟨hpart, hc⟩]
  | @named key hname =>
    unfold readPart
    split
    -- The first reading applied, and it gave the same key.
    · next other hlookup => rw [eq_of_capitalize_of_lookup hname hlookup]
    · split
      · next c hsingle =>
        -- No key has a name of one character.
        obtain ⟨hpart, hc⟩ := singleChar?_eq_some_iff.1 hsingle
        have hcapital := (asciiLowercase_capitalize hpart (toNat_lt_of_isAlphanum hc)).1
        have hlength := length_name_ne_one key
        rw [← hname, hcapital, String.toList_ofList] at hlength
        exact absurd rfl hlength
      · rw [hname, Key.ofName?_name, Option.map_some]

/-- What is read is what a part denotes, so it denotes one thing at most. -/
theorem readPart_eq_some_iff {part : String} {found : Part} :
    readPart part = some found ↔ Denotes part found :=
  ⟨denotes_of_readPart, readPart_of_denotes⟩

theorem not_denotes_of_readPart {part : String} (h : readPart part = none) :
    ¬ ∃ found, Denotes part found := by
  rintro ⟨found, hfound⟩
  rw [readPart_eq_some_iff.2 hfound] at h
  cases h

/-! ## All parts -/

/-- The chord of some parts has what they denote, in their order. -/
theorem ofParts_eq_ok_iff {parts : List String} {chord : Chord} :
    ofParts parts = .ok chord ↔ ∃ found, List.Forall₂ Denotes parts found ∧
      chord = ⟨found.filterMap Part.key?, found.filterMap Part.char?⟩ := by
  induction parts generalizing chord with
  | nil => simp [ofParts, eq_comm]
  | cons part rest ih =>
    constructor
    · intro h
      unfold ofParts at h
      split at h
      · cases h
      · next first hread =>
        cases hrest : ofParts rest with
        | error error =>
          rw [hrest] at h
          cases h
        | ok later =>
          rw [hrest] at h
          obtain rfl : later.prepend first = chord := Except.ok.inj h
          obtain ⟨found, hfound, rfl⟩ := ih.1 hrest
          refine ⟨first :: found, .cons (denotes_of_readPart hread) hfound, ?_⟩
          cases first <;> rfl
    · rintro ⟨found, hfound, rfl⟩
      cases hfound with
      | @cons _ first _ found hfirst hlater =>
        rw [ofParts, readPart_of_denotes hfirst]
        simp only [ih.2 ⟨found, hlater, rfl⟩]
        cases first <;> rfl

/-- The first part that denotes nothing is the one that is reported. -/
theorem ofParts_eq_error_iff {parts : List String} {error : ActionError} :
    ofParts parts = .error error ↔ ∃ earlier part later, parts = earlier ++ part :: later ∧
      (∀ other ∈ earlier, ∃ found, Denotes other found) ∧ (¬ ∃ found, Denotes part found) ∧
      error = .unknownKey part := by
  induction parts with
  | nil => simp [ofParts]
  | cons part rest ih =>
    cases hread : readPart part with
    | none =>
      -- This part is the first one that denotes nothing.
      have hnot := not_denotes_of_readPart hread
      rw [ofParts, hread]
      constructor
      · intro h
        exact ⟨[], part, rest, rfl, by simp, hnot, (Except.error.inj h).symm⟩
      · rintro ⟨earlier, other, later, hsplit, hearlier, -, rfl⟩
        cases earlier with
        | nil => rw [(List.cons.inj hsplit).1]
        | cons first earlier =>
          obtain ⟨rfl, -⟩ := List.cons.inj hsplit
          exact absurd (hearlier part List.mem_cons_self) hnot
    | some first =>
      -- This part denotes something, so an error comes from the rest.
      have hfirst : ∃ found, Denotes part found := ⟨first, denotes_of_readPart hread⟩
      have hrest : ofParts (part :: rest) = .error error ↔ ofParts rest = .error error := by
        rw [ofParts, hread]
        cases ofParts rest <;> simp [Except.map]
      rw [hrest, ih]
      constructor
      · rintro ⟨earlier, other, later, rfl, hearlier, hother⟩
        exact ⟨part :: earlier, other, later, rfl,
          List.forall_mem_cons.2 ⟨hfirst, hearlier⟩, hother⟩
      · rintro ⟨earlier, other, later, hsplit, hearlier, hother⟩
        cases earlier with
        | nil =>
          obtain ⟨rfl, -⟩ := List.cons.inj hsplit
          exact absurd hfirst hother.1
        | cons _ earlier =>
          obtain ⟨rfl, rfl⟩ := List.cons.inj hsplit
          exact ⟨earlier, other, later, rfl, (List.forall_mem_cons.1 hearlier).2, hother⟩

theorem exists_ofParts_eq_ok_iff {parts : List String} :
    (∃ chord, ofParts parts = .ok chord) ↔ ∀ part ∈ parts, ∃ found, Denotes part found := by
  constructor
  · rintro ⟨chord, h⟩ part hpart
    obtain ⟨found, hfound, -⟩ := ofParts_eq_ok_iff.1 h
    obtain ⟨i, hi, rfl⟩ := List.getElem_of_mem hpart
    exact ⟨_, hfound.get hi (hfound.length_eq ▸ hi)⟩
  · intro h
    cases hparts : ofParts parts with
    | ok chord => exact ⟨chord, rfl⟩
    | error error =>
      obtain ⟨earlier, part, later, rfl, -, hnot, -⟩ := ofParts_eq_error_iff.1 hparts
      exact absurd (h part (by simp)) hnot

/-! ## Keys by their names -/

theorem denotes_name (key : Key) : Denotes key.name (.key key) := by
  have hall : ∀ key ∈ Key.all, capitalize key.name = key.name := by decide +kernel
  exact .named (hall key key.mem_all)

theorem parts_names {keys : List Key} (h : keys ≠ []) :
    parts ("+".intercalate (keys.map Key.name)) = keys.map Key.name := by
  -- No name has a plus sign in it, so the text is cut between the names.
  have hseparated : Separated '+' ("+".intercalate (keys.map Key.name)).toList
      (keys.map fun key => key.name.toList) := by
    refine ⟨by simpa using h, ?_, by simp [Function.comp_def]⟩
    intro piece hpiece
    obtain ⟨key, -, rfl⟩ := List.mem_map.1 hpiece
    exact fun hplus => (plain_of_mem_name hplus).1 rfl
  rw [parts, hseparated.splitOn_eq, List.map_map]
  refine List.map_congr_left fun key _ => ?_
  show String.ofList (trimBoth key.name.toList) = key.name
  rw [trimBoth_of_not_blank fun c hc => (plain_of_mem_name hc).2, String.ofList_toList]

theorem parse_names {keys : List Key} (h : keys ≠ []) :
    parse ("+".intercalate (keys.map Key.name)) = .ok ⟨keys, []⟩ := by
  rw [parse, parts_names h]
  refine ofParts_eq_ok_iff.2 ⟨keys.map Part.key, ?_, ?_⟩
  · rw [List.forall₂_map_left_iff, List.forall₂_map_right_iff, List.forall₂_same]
    exact fun key _ => denotes_name key
  · have hkeys : (keys.map Part.key).filterMap Part.key? = keys := by
      simp [List.filterMap_map, Function.comp_def, Part.key?]
    have hchars : (keys.map Part.key).filterMap Part.char? = [] := by
      simp [List.filterMap_map, Function.comp_def, Part.char?]
    rw [hkeys, hchars]

/-- **The grammar of chords.** A text is cut at its plus signs, and the blanks around the pieces do
not count. It is a chord exactly if each part denotes something: a customary name in any ASCII
letter case its key, a single ASCII letter or digit itself, and the name of a key, whose first
letter may be small, that key. The chord has the keys and the characters, as they are written, in
the order of the parts. Otherwise the first part that denotes nothing is reported as an unknown key.
So keys are read back from their names with plus signs between them. -/
theorem parse_grammar :
    (∀ s : String, ∃ pieces, Separated '+' s.toList pieces ∧
      let parts := pieces.map fun piece => String.ofList (trimBoth piece)
      ((∃ chord, parse s = .ok chord) ↔ ∀ part ∈ parts, ∃ found, Denotes part found) ∧
      (∀ chord, parse s = .ok chord ↔ ∃ found, List.Forall₂ Denotes parts found ∧
        chord = ⟨found.filterMap Part.key?, found.filterMap Part.char?⟩) ∧
      (∀ error, parse s = .error error ↔ ∃ earlier part later, parts = earlier ++ part :: later ∧
        (∀ other ∈ earlier, ∃ found, Denotes other found) ∧ (¬ ∃ found, Denotes part found) ∧
        error = .unknownKey part)) ∧
    ∀ first others,
      parse ("+".intercalate ((first :: others).map Key.name)) = .ok ⟨first :: others, []⟩ := by
  constructor
  · intro s
    exact ⟨splitOn '+' s.toList, separated_splitOn '+' s.toList, exists_ofParts_eq_ok_iff,
      fun _ => ofParts_eq_ok_iff, fun _ => ofParts_eq_error_iff⟩
  · exact fun first others => parse_names (List.cons_ne_nil first others)

/-- A first letter that is small in an unusual way: the long `s` is no letter of a customary name,
but its upper-case form is that of the name of a key. -/
example : parse "CONTROL+t+ſpace" = .ok ⟨[.controlLeft, .space], ['t']⟩ := by decide +kernel

end Chord

end Deskhand.Desk
