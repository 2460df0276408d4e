/-
  Deskhand.Proofs.Settings.Variables

  What variables denote.

  A variable gives a text if it is set to one that is not blank, and a setting that it governs has
  the value that this text denotes, or else the value that it had. All variables are read in the
  same way and differ in what their texts denote: the text itself, a number in decimal digits, one
  of the customary words for a truth value, the items between commas, or an address without slashes
  at its end.
-/

import Deskhand.Model.Settings
import Deskhand.Proofs.Json.Integers
import Deskhand.Proofs.Text.Pieces

namespace Deskhand

open Deskhand.Number Deskhand.Text

/-- Steps come to a result exactly if each of them does. -/
theorem bind_eq_ok_iff {ε α β : Type} {first : Except ε α} {later : α → Except ε β} {result : β} :
    first >>= later = .ok result ↔ ∃ found, first = .ok found ∧ later found = .ok result := by
  cases first <;> simp [bind, Except.bind]

/-- What is left without the copies of a character at the end: all before them. -/
theorem Text.eq_trimEndOf_iff {c : Char} {s kept : List Char} :
    kept = trimEndOf c s ↔
      (∃ count, s = kept ++ List.replicate count c) ∧ kept.getLast? ≠ some c := by
  unfold trimEndOf
  constructor
  · rintro rfl
    constructor
    · have hcopies : ∀ d ∈ (s.reverse.takeWhile (· == c)).reverse, d = c := by
        intro d hd
        exact eq_of_beq (List.all_eq_true.1 List.all_takeWhile d (List.mem_reverse.1 hd))
      refine ⟨(s.reverse.takeWhile (· == c)).reverse.length, ?_⟩
      rw [← List.eq_replicate_of_mem hcopies, ← List.reverse_append,
        List.takeWhile_append_dropWhile, List.reverse_reverse]
    · rw [List.getLast?_reverse]
      intro hhead
      have hfirst := List.head?_dropWhile_not (· == c) s.reverse
      rw [hhead] at hfirst
      simp at hfirst
  · rintro ⟨⟨count, rfl⟩, hlast⟩
    have hcopies : ∀ d ∈ List.replicate count c, (d == c) = true := by simp
    rw [List.reverse_append, List.reverse_replicate, List.dropWhile_append_of_pos hcopies]
    -- What is kept does not end in the character that is dropped.
    rw [← List.head?_reverse] at hlast
    cases hkept : kept.reverse with
    | nil => exact List.reverse_eq_nil_iff.1 hkept
    | cons d rest =>
      have hd : (d == c) = false := by simpa [hkept] using hlast
      rw [List.dropWhile_cons_of_neg (by simp [hd]), ← hkept, List.reverse_reverse]

namespace Environment

variable {α β : Type} {env : Environment} {key : String}

/-- The variable is set to a text that is not blank. -/
def Gives (env : Environment) (key value : String) : Prop :=
  ∃ bytes, env.lookup key = some bytes ∧ Utf8.decode? bytes = some value ∧ blank value = false

/-- The variable is not set, or set to valid UTF-8. -/
def Legible (env : Environment) (key : String) : Prop :=
  ∀ bytes, env.lookup key = some bytes → (Utf8.decode? bytes).isSome

/-- The new value of a setting is what its variable denotes, or the old value if the variable gives
nothing. -/
structure Governs (env : Environment) (key : String) (denotes : String → α → Prop)
    (old new : α) : Prop where
  given : ∀ value, env.Gives key value → denotes value new
  kept : (∀ value, ¬ env.Gives key value) → new = old

/-! ## Reading a variable -/

theorem Gives.unique {value other : String} (h : env.Gives key value)
    (hother : env.Gives key other) : value = other := by
  obtain ⟨bytes, hbytes, hvalue, -⟩ := h
  obtain ⟨otherBytes, hotherBytes, hothervalue, -⟩ := hother
  obtain rfl : bytes = otherBytes := Option.some.inj (hbytes.symm.trans hotherBytes)
  exact Option.some.inj (hvalue.symm.trans hothervalue)

theorem text_eq_ok_iff {found : Option String} :
    env.text key = .ok found ↔
      env.Legible key ∧ ∀ value, found = some value ↔ env.Gives key value := by
  -- The variable is not set, is not UTF-8, or holds a text.
  cases hlookup : env.lookup key with
  | none =>
    have hlegible : env.Legible key := fun bytes hbytes => by simp [hlookup] at hbytes
    have hnone : ∀ value, ¬ env.Gives key value := fun value ⟨bytes, hbytes, _⟩ => by
      simp [hlookup] at hbytes
    simp only [text, hlookup, hlegible, hnone, Except.ok.injEq, iff_false, true_and]
    rw [eq_comm, Option.eq_none_iff_forall_ne_some]
  | some bytes =>
    cases hdecode : Utf8.decode? bytes with
    | none => simp [text, Legible, hlookup, hdecode]
    | some value =>
      have hlegible : env.Legible key := fun other hother => by
        simp [← Option.some.inj (hlookup.symm.trans hother), hdecode]
      have hgives : ∀ other, env.Gives key other ↔ value = other ∧ blank other = false := by
        simp [Gives, hlookup, hdecode]
      simp only [text, hlookup, hdecode, hlegible, hgives, Except.ok.injEq, true_and]
      -- A blank text is as good as none.
      cases hblank : blank value with
      | true =>
        rw [if_pos rfl, eq_comm, Option.eq_none_iff_forall_ne_some]
        refine forall_congr' fun other => (iff_false_right ?_).symm
        rintro ⟨rfl, hother⟩
        simp [hblank] at hother
      | false =>
        rw [if_neg (by simp)]
        constructor
        · rintro rfl other
          exact ⟨fun h => Option.some.inj h ▸ ⟨rfl, hblank⟩, fun h => congrArg some h.1⟩
        · exact fun h => ((h value).2 ⟨rfl, hblank⟩).symm

theorem parsed_eq_ok_iff {read : String → Except String α} {found : Option α} :
    env.parsed key read = .ok found ↔ env.Legible key ∧
      (∀ value, env.Gives key value → ∃ x, read value = .ok x ∧ found = some x) ∧
      ((∀ value, ¬ env.Gives key value) → found = none) := by
  rw [parsed, bind_eq_ok_iff]
  constructor
  · rintro ⟨text, htext, hrest⟩
    obtain ⟨hlegible, hgives⟩ := text_eq_ok_iff.1 htext
    refine ⟨hlegible, ?_⟩
    cases text with
    | none =>
      obtain rfl : none = found := Except.ok.inj hrest
      exact ⟨fun value hvalue => absurd ((hgives value).2 hvalue) (by simp), fun _ => rfl⟩
    | some value =>
      have hvalue := (hgives value).1 rfl
      cases hread : read value with
      | error reason =>
        simp only [hread] at hrest
        cases hrest
      | ok x =>
        simp only [hread] at hrest
        obtain rfl : some x = found := Except.ok.inj hrest
        -- The variable gives one text only.
        refine ⟨fun other hother => ⟨x, ?_, rfl⟩, fun hnone => absurd hvalue (hnone value)⟩
        rw [hother.unique hvalue, hread]
  · rintro ⟨hlegible, hgiven, hnone⟩
    by_cases hgives : ∃ value, env.Gives key value
    · obtain ⟨value, hvalue⟩ := hgives
      obtain ⟨x, hread, rfl⟩ := hgiven value hvalue
      refine ⟨some value, text_eq_ok_iff.2 ⟨hlegible, fun other => ?_⟩, by simp only [hread]; rfl⟩
      constructor
      · exact fun hother => Option.some.inj hother ▸ hvalue
      · exact fun hother => congrArg some (hvalue.unique hother)
    · refine ⟨none, text_eq_ok_iff.2 ⟨hlegible, fun other => ?_⟩, ?_⟩
      · exact ⟨nofun, fun hother => absurd ⟨other, hother⟩ hgives⟩
      · rw [hnone (not_exists.1 hgives)]
        rfl

theorem text_eq_parsed (env : Environment) (key : String) : env.text key = env.parsed key .ok := by
  rw [parsed]
  cases env.text key with
  | error error => rfl
  | ok found => cases found <;> rfl

theorem list_eq_parsed (env : Environment) (key : String) :
    env.list key = env.parsed key fun value => .ok (items value) := by
  rw [parsed, list]
  cases env.text key with
  | error error => rfl
  | ok found => cases found <;> rfl

theorem governs_iff {read : String → Except String α} {change : α → β}
    {denotes : String → β → Prop}
    (hread : ∀ value new, denotes value new ↔ ∃ x, read value = .ok x ∧ new = change x)
    {old new : β} :
    (∃ found, env.parsed key read = .ok found ∧ new = (found.map change).getD old) ↔
      env.Legible key ∧ env.Governs key denotes old new := by
  -- Either the text of the variable is read, or the old value stays.
  constructor
  · rintro ⟨found, hfound, rfl⟩
    obtain ⟨hlegible, hgiven, hnone⟩ := parsed_eq_ok_iff.1 hfound
    refine ⟨hlegible, fun value hvalue => ?_, fun h => by rw [hnone h]; rfl⟩
    obtain ⟨x, hx, rfl⟩ := hgiven value hvalue
    exact (hread value _).2 ⟨x, hx, rfl⟩
  · rintro ⟨hlegible, hgiven, hkept⟩
    by_cases hgives : ∃ value, env.Gives key value
    · obtain ⟨value, hvalue⟩ := hgives
      obtain ⟨x, hx, hnew⟩ := (hread value new).1 (hgiven value hvalue)
      refine ⟨some x, parsed_eq_ok_iff.2 ⟨hlegible, fun other hother => ⟨x, ?_, rfl⟩, ?_⟩, hnew⟩
      · rwa [hother.unique hvalue]
      · exact fun hnone => absurd hvalue (hnone value)
    · have hnone := not_exists.1 hgives
      refine ⟨none, parsed_eq_ok_iff.2 ⟨hlegible, ?_, fun _ => rfl⟩, hkept hnone⟩
      exact fun value hvalue => absurd hvalue (hnone value)

theorem governs_iff_of_read {read : String → Except String α} {denotes : String → α → Prop}
    (hread : ∀ value new, denotes value new ↔ read value = .ok new) {old new : α} :
    (∃ found, env.parsed key read = .ok found ∧ new = found.getD old) ↔
      env.Legible key ∧ env.Governs key denotes old new := by
  have hverbatim : ∀ value new, denotes value new ↔ ∃ x, read value = .ok x ∧ new = id x := by
    intro value new
    simp [hread]
  rw [← governs_iff hverbatim]
  simp only [Option.map_id_fun, id]

/-- There is a value for a setting if the text of its variable denotes anything. -/
theorem exists_governs {denotes : String → α → Prop}
    (h : ∀ value, env.Gives key value → ∃ new, denotes value new) (old : α) :
    ∃ new, env.Governs key denotes old new := by
  by_cases hgiven : ∃ value, env.Gives key value
  · obtain ⟨value, hvalue⟩ := hgiven
    obtain ⟨new, hnew⟩ := h value hvalue
    refine ⟨new, fun other hother => ?_, fun hnone => absurd hvalue (hnone value)⟩
    rwa [← hvalue.unique hother]
  · exact ⟨old, fun value hvalue => absurd ⟨value, hvalue⟩ hgiven, fun _ => rfl⟩

theorem Governs.again {denotes : String → α → Prop} {old new : α}
    (h : env.Governs key denotes old new) : env.Governs key denotes new new :=
  ⟨h.given, fun _ => rfl⟩

/-! ## What texts denote -/

/-- A natural number up to `above` in decimal digits, with a plus sign or without one, and with
blanks around it. -/
def IsNumeral (above : Nat) (value : String) (n : Nat) : Prop :=
  ∃ digits : List Char, digits ≠ [] ∧ (∀ c ∈ digits, c.isDigit = true) ∧
    (trimBoth value.toList = digits ∨ trimBoth value.toList = '+' :: digits) ∧
    Nat.ofDigitChars 10 digits 0 = n ∧ n ≤ above

/-- The customary words for a truth value. -/
def words : Bool → List String
  | true => ["true", "1", "yes", "on"]
  | false => ["false", "0", "no", "off"]

/-- A customary word in any letter case, with blanks around it. -/
def IsWord (value : String) (b : Bool) : Prop := asciiLowercase (trim value) ∈ words b

/-- The items between commas, without the blanks around them and without those that are empty. -/
def AreItems (value : String) (found : List String) : Prop :=
  ∃ pieces, Separated ',' value.toList pieces ∧
    found = (pieces.map fun piece => String.ofList (trimBoth piece)).filter (· ≠ "")

/-- An address with any number of slashes behind it. -/
def IsUrl (value url : String) : Prop :=
  (∃ count, value.toList = url.toList ++ List.replicate count '/') ∧
    url.toList.getLast? ≠ some '/'

/-- Digits are read exactly if their number is within the bound, since it only grows. -/
theorem readMagnitude_eq_ok_iff {bound : Nat} {excess : IntegerError} {digits : List Char}
    {n result : Nat} (hn : n ≤ bound) :
    readMagnitude bound excess n digits = .ok result ↔
      (∀ c ∈ digits, c.isDigit = true) ∧ Nat.ofDigitChars 10 digits n = result ∧
        result ≤ bound := by
  induction digits generalizing n with
  | nil =>
    simp only [readMagnitude, Except.ok.injEq, List.not_mem_nil, false_imp_iff, implies_true,
      true_and]
    exact ⟨fun h => ⟨h, h ▸ hn⟩, fun h => h.1⟩
  | cons c digits ih =>
    rw [readMagnitude, Nat.ofDigitChars_cons, List.forall_mem_cons]
    cases hc : c.isDigit with
    | false => simp
    | true =>
      -- The number grows with every digit, so what exceeds the bound once does so at the end.
      by_cases hexcess : bound < 10 * n + digitValue c
      · have hlarge := Json.le_ofDigitChars digits (10 * n + digitValue c)
        simp only [Bool.not_true, Bool.false_eq_true, if_false, if_pos hexcess, reduceCtorEq,
          false_iff]
        rintro ⟨-, rfl, hresult⟩
        exact absurd (Nat.le_trans hlarge hresult) (by omega)
      · simp only [Bool.not_true, Bool.false_eq_true, if_false, if_neg hexcess, true_and]
        exact ih (by omega)

theorem natural_eq_ok_iff {above : Nat} {value : String} {n : Nat} :
    natural above value = .ok n ↔ IsNumeral above value n := by
  -- What the reader does behind the sign, in terms of the digits.
  have hread : ∀ digits : List Char,
      ((readMagnitude above .tooLarge 0 digits).map Int.ofNat |>.map Int.toNat).mapError
          IntegerError.message = .ok n ↔
        (∀ c ∈ digits, c.isDigit = true) ∧ Nat.ofDigitChars 10 digits 0 = n ∧ n ≤ above := by
    intro digits
    rw [← @readMagnitude_eq_ok_iff above .tooLarge digits 0 n (Nat.zero_le above)]
    cases readMagnitude above .tooLarge 0 digits with
    | error error => exact iff_of_false (fun h => by cases h) fun h => by cases h
    | ok magnitude =>
      show (.ok magnitude : Except String Nat) = .ok n ↔ _
      rw [Except.ok.injEq, Except.ok.injEq]
  unfold natural readNatural readInteger IsNumeral
  rw [trim, String.toList_ofList]
  generalize trimBoth value.toList = text
  -- A sign is no digit, so a text that begins with one can only be read behind it.
  have hsign : ∀ {sign : Char} {rest digits : List Char}, sign.isDigit = false →
      (∀ c ∈ digits, c.isDigit = true) → sign :: rest ≠ digits := by
    rintro sign rest digits hsign hdigits rfl
    simp [hsign] at hdigits
  have hrefused : ∀ reason : IntegerError, ((Except.error reason : Except IntegerError Int).map
      Int.toNat).mapError IntegerError.message ≠ .ok n := fun _ h => by cases h
  -- Nothing, a sign alone, a minus sign, a plus sign with digits, another sign, and digits.
  split
  · refine iff_of_false (hrefused _) ?_
    rintro ⟨digits, hne, -, h | h, -⟩
    · exact hne h.symm
    · cases h
  · refine iff_of_false (hrefused _) ?_
    rintro ⟨digits, hne, hdigits, h | h, -⟩
    · exact hsign rfl hdigits h
    · exact hne (List.cons.inj h).2.symm
  · refine iff_of_false (hrefused _) ?_
    rintro ⟨digits, -, hdigits, h | h, -⟩
    · exact hsign rfl hdigits h
    · exact absurd (List.cons.inj h).1 (by decide)
  · next rest hne =>
    rw [hread]
    constructor
    · rintro ⟨hdigits, hvalue⟩
      exact ⟨rest, hne, hdigits, .inr rfl, hvalue⟩
    · rintro ⟨digits, -, hdigits, h | h, hvalue⟩
      · exact absurd h (hsign rfl hdigits)
      · obtain rfl := (List.cons.inj h).2
        exact ⟨hdigits, hvalue⟩
  · rw [if_pos rfl]
    refine iff_of_false (hrefused _) ?_
    rintro ⟨digits, -, hdigits, h | h, -⟩
    · exact hsign rfl hdigits h
    · exact absurd (List.cons.inj h).1 (by decide)
  · next hne _ _ hplus _ =>
    rw [hread]
    constructor
    · rintro ⟨hdigits, hvalue⟩
      exact ⟨text, hne, hdigits, .inl rfl, hvalue⟩
    · rintro ⟨digits, -, hdigits, rfl | h, hvalue⟩
      · exact ⟨hdigits, hvalue⟩
      · exact (hplus digits h).elim

theorem switch_eq_ok_iff {value : String} {b : Bool} : switch value = .ok b ↔ IsWord value b := by
  unfold switch IsWord
  generalize asciiLowercase (trim value) = word
  split <;> cases b <;> simp_all [words]

theorem areItems_iff {value : String} {found : List String} :
    AreItems value found ↔ found = items value := by
  -- Trimming and then leaving out the empty pieces is the same as the other way round.
  have hitems : ∀ pieces : List (List Char),
      ((pieces.map trimBoth).filterMap fun item =>
        if item.isEmpty then none else some (String.ofList item)) =
      (pieces.map fun piece => String.ofList (trimBoth piece)).filter (· ≠ "") := by
    intro pieces
    induction pieces with
    | nil => rfl
    | cons piece pieces ih =>
      cases htrim : trimBoth piece <;> simp_all
  constructor
  · rintro ⟨pieces, hpieces, rfl⟩
    rw [items, hpieces.splitOn_eq, hitems]
  · rintro rfl
    exact ⟨_, separated_splitOn ',' value.toList, hitems _⟩

theorem isUrl_iff {value url : String} :
    IsUrl value url ↔ url = Model.Settings.withoutSlashes value := by
  rw [IsUrl, ← eq_trimEndOf_iff, Model.Settings.withoutSlashes, ← String.toList_inj,
    String.toList_ofList]

/-! ## Settings under their variables -/

theorem text_governs_iff {old new : String} :
    (∃ found, env.text key = .ok found ∧ new = found.getD old) ↔
      env.Legible key ∧ env.Governs key (fun value new => new = value) old new := by
  simp only [text_eq_parsed]
  exact governs_iff_of_read (by simp [eq_comm])

theorem url_governs_iff {old new : String} :
    (∃ found, env.text key = .ok found ∧
        new = (found.map Model.Settings.withoutSlashes).getD old) ↔
      env.Legible key ∧ env.Governs key IsUrl old new := by
  simp only [text_eq_parsed]
  exact governs_iff (by simp [isUrl_iff])

theorem list_governs_iff {old new : List String} :
    (∃ found, env.list key = .ok found ∧ new = found.getD old) ↔
      env.Legible key ∧ env.Governs key AreItems old new := by
  simp only [list_eq_parsed]
  exact governs_iff_of_read (by simp [areItems_iff, eq_comm])

theorem flag_governs_iff {old new : Bool} :
    (∃ found, env.flag key = .ok found ∧ new = found.getD old) ↔
      env.Legible key ∧ env.Governs key IsWord old new := by
  have hread : ∀ value b, IsWord value b ↔ switch value = .ok b := fun _ _ => switch_eq_ok_iff.symm
  exact governs_iff_of_read hread

theorem natural_governs_iff {above old new : Nat} :
    (∃ found, env.parsed key (natural above) = .ok found ∧ new = found.getD old) ↔
      env.Legible key ∧ env.Governs key (IsNumeral above) old new := by
  have hread : ∀ value n, IsNumeral above value n ↔ natural above value = .ok n :=
    fun _ _ => natural_eq_ok_iff.symm
  exact governs_iff_of_read hread

/-- A setting that is a number if it is set at all. -/
theorem limit_governs_iff {above : Nat} {old new : Option Nat} :
    (∃ found, env.parsed key (natural above) = .ok found ∧ new = found.or old) ↔
      env.Legible key ∧
        env.Governs key (fun value new => ∃ n, new = some n ∧ IsNumeral above value n) old new := by
  have hor : ∀ found : Option Nat, found.or old = (found.map some).getD old := by
    intro found
    cases found <;> rfl
  simp only [hor]
  exact governs_iff (by simp [natural_eq_ok_iff, and_comm])

end Environment

end Deskhand
