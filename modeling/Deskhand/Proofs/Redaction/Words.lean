/-
  Deskhand.Proofs.Redaction.Words

  The words of the redaction rules.

  A rule finds its words in any letter case at the front of a text, and what follows the word has no
  say in it. So a search is described by the set of texts that it takes for words: it finds a word
  exactly where one of these stands in front. For a choice of words this needs that no word is the
  beginning of another one.
-/

import Deskhand.Text.Redaction
import Mathlib.Data.List.Basic
import Mathlib.Data.List.Forall2

namespace Deskhand.Text.Redaction

theorem forall_mem_head?_append {p : Char → Bool} {s : List Char} (hne : s ≠ [])
    (h : ∀ c ∈ s, p c = false) (rest : List Char) : ∀ c ∈ (s ++ rest).head?, p c = false := by
  obtain ⟨d, others, rfl⟩ := List.exists_cons_of_ne_nil hne
  rintro c ⟨⟩
  exact h d List.mem_cons_self

/-! ## Letters -/

/-- The text spells the letters, in any letter case. -/
def Spells (letters found : List Char) : Prop :=
  List.Forall₂ (fun letter c => matchesLetter letter c = true) letters found

theorem eq_of_matchesLetter {a b c : Char} (ha : a.toNat < 0x80) (hb : b.toNat < 0x80)
    (hac : matchesLetter a c = true) (hbc : matchesLetter b c = true) : a = b := by
  simp only [matchesLetter, Bool.or_eq_true, Bool.and_eq_true, beq_iff_eq] at hac hbc
  -- The character is the letter in either case, the Kelvin sign, or the long s.
  rcases hac with (rfl | ⟨rfl, rfl⟩) | ⟨rfl, rfl⟩
  · rcases hbc with (hbc | ⟨rfl, rfl⟩) | ⟨rfl, rfl⟩
    · exact hbc
    · exact absurd ha (by decide)
    · exact absurd ha (by decide)
  · rcases hbc with (rfl | ⟨rfl, -⟩) | ⟨-, hbad⟩
    · exact absurd hb (by decide)
    · rfl
    · exact absurd hbad (by decide)
  · rcases hbc with (rfl | ⟨-, hbad⟩) | ⟨rfl, -⟩
    · exact absurd hb (by decide)
    · exact absurd hbad (by decide)
    · rfl

theorem Spells.notMem {letters found : List Char} (h : Spells letters found) {c : Char}
    (hc : ∀ letter ∈ letters, matchesLetter letter c = false) : c ∉ found := by
  intro hmem
  induction h with
  | nil => exact List.not_mem_nil hmem
  | @cons letter d letters found hmatch _ ih =>
    rcases List.mem_cons.1 hmem with rfl | hlater
    · rw [hc letter List.mem_cons_self] at hmatch
      exact Bool.noConfusion hmatch
    · exact ih (fun other hother => hc other (List.mem_cons_of_mem letter hother)) hlater

/-- None of the letters matches one of the characters. -/
def avoids (letters chars : List Char) : Bool :=
  letters.all fun letter => chars.all fun c => !matchesLetter letter c

theorem Spells.notMem_of_avoids {letters found chars : List Char} (h : Spells letters found)
    (hchars : avoids letters chars = true) : ∀ c ∈ chars, c ∉ found := by
  simp only [avoids, List.all_eq_true, Bool.not_eq_true'] at hchars
  exact fun c hc => h.notMem fun letter hletter => hchars letter hletter c hc

theorem Spells.ne_nil {letters found : List Char} (h : Spells letters found)
    (hletters : letters ≠ []) : found ≠ [] := by
  rintro rfl
  exact hletters (List.forall₂_nil_right_iff.1 h)

theorem Spells.isBlank_eq_false {letters found : List Char} (h : Spells letters found)
    (hletters : avoids letters (blankCodes.map Char.ofNat) = true) :
    ∀ c ∈ found, isBlank c = false := by
  intro c hc
  cases hblank : isBlank c with
  | false => rfl
  | true =>
    have hnone : ∀ n ∈ blankCodes, Char.ofNat n ∉ found := fun n hn =>
      h.notMem_of_avoids hletters _ (List.mem_map_of_mem hn)
    exact absurd hc (of_isBlank (P := fun c => c ∉ found) hnone hblank)

theorem Spells.drop {letters front back : List Char} (h : Spells letters (front ++ back)) :
    Spells (letters.drop (letters.length - back.length)) back := by
  have hlength := List.Forall₂.length_eq h
  have hdrop := List.forall₂_drop front.length h
  rw [List.drop_left] at hdrop
  rw [List.length_append] at hlength
  rw [show letters.length - back.length = front.length by omega]
  exact hdrop

/-- Where a text that spells one word is the beginning of a text that spells another one, the first
word is the beginning of the other one. -/
theorem Spells.begins {first second found other : List Char} (hfirst : ∀ c ∈ first, c.toNat < 0x80)
    (hsecond : ∀ c ∈ second, c.toNat < 0x80) (hfound : Spells first found)
    (hother : Spells second other) (h : found <+: other) : first <+: second := by
  induction hfound generalizing second other with
  | nil => exact List.nil_prefix
  | @cons a c first found hac _ ih =>
    cases hother with
    | nil => exact absurd (List.prefix_nil.1 h) (List.cons_ne_nil c found)
    | @cons b d second other hbd hrest =>
      obtain ⟨rfl, hprefix⟩ := List.cons_prefix_cons.1 h
      have hab : a = b :=
        eq_of_matchesLetter (hfirst a List.mem_cons_self) (hsecond b List.mem_cons_self) hac hbd
      have htail := ih (fun e he => hfirst e (List.mem_cons_of_mem a he))
        (fun e he => hsecond e (List.mem_cons_of_mem b he)) hrest hprefix
      rw [hab]
      exact List.cons_prefix_cons.2 ⟨rfl, htail⟩

/-! ## Searches -/

/-- A search finds the texts of a set, whatever follows them, and nothing else. -/
def Recognizes (find : List Char → Option (List Char × List Char)) (words : List Char → Prop) :
    Prop :=
  ∀ s found rest, find s = some (found, rest) ↔ s = found ++ rest ∧ words found

theorem recognizes_word (letters : List Char) : Recognizes (word letters) (Spells letters) := by
  induction letters with
  | nil =>
    intro s found rest
    simp only [word, Option.some.injEq, Prod.mk.injEq]
    constructor
    · rintro ⟨rfl, rfl⟩
      exact ⟨rfl, .nil⟩
    · rintro ⟨rfl, hspells⟩
      cases hspells
      exact ⟨rfl, rfl⟩
  | cons letter letters ih =>
    intro s found rest
    constructor
    · intro h
      cases s with
      | nil => simp [word] at h
      | cons c s =>
        rw [word] at h
        split at h
        · next hmatch =>
          obtain ⟨⟨tail, back⟩, htail, heq⟩ := Option.map_eq_some_iff.1 h
          simp only [Prod.mk.injEq] at heq
          obtain ⟨rfl, rfl⟩ := heq
          obtain ⟨rfl, hspells⟩ := (ih s tail back).1 htail
          exact ⟨rfl, .cons hmatch hspells⟩
        · simp at h
    · rintro ⟨rfl, hspells⟩
      cases hspells with
      | @cons _ c _ tail hmatch hspells =>
        have htail : word letters (tail ++ rest) = some (tail, rest) :=
          (ih _ _ _).2 ⟨rfl, hspells⟩
        rw [List.cons_append, word, if_pos hmatch, htail, Option.map_some]

/-- Words of which none begins another one, in ASCII. -/
structure Separate (words : List String) : Prop where
  ascii : ∀ w ∈ words, w.toList.Forall fun c => c.toNat < 0x80
  apart : ∀ v ∈ words, ∀ w ∈ words, v.toList <+: w.toList → v = w

/-- Only one of the words stands in front of a text. -/
theorem Separate.unique {words : List String} (h : Separate words) {v w : String} (hv : v ∈ words)
    (hw : w ∈ words) {first second behind rest : List Char} (hfirst : Spells v.toList first)
    (hsecond : Spells w.toList second) (hsplit : first ++ behind = second ++ rest) :
    first = second ∧ behind = rest := by
  have hvascii := List.forall_iff_forall_mem.1 (h.ascii v hv)
  have hwascii := List.forall_iff_forall_mem.1 (h.ascii w hw)
  -- One of the two is the beginning of the other.
  have hboth : first <+: second ∨ second <+: first :=
    List.prefix_or_prefix_of_prefix (List.prefix_append first behind)
      (hsplit ▸ List.prefix_append second rest)
  have heq : v = w := by
    rcases hboth with hbegins | hbegins
    · exact h.apart v hv w hw (hfirst.begins hvascii hwascii hsecond hbegins)
    · exact (h.apart w hw v hv (hsecond.begins hwascii hvascii hfirst hbegins)).symm
  -- One word has one length, so the two ways to cut the text are the same.
  subst heq
  have hlength : first.length = second.length :=
    (List.Forall₂.length_eq hfirst).symm.trans (List.Forall₂.length_eq hsecond)
  exact List.append_inj hsplit hlength

theorem recognizes_oneOf {words : List String} (h : Separate words) :
    Recognizes (oneOf words) fun found => ∃ w ∈ words, Spells w.toList found := by
  induction words with
  | nil => simp [Recognizes, oneOf]
  | cons w words ih =>
    have hlater : ∀ {v}, v ∈ words → v ∈ w :: words := fun hv => List.mem_cons_of_mem w hv
    have ih := ih ⟨fun v hv => h.ascii v (hlater hv),
      fun u hu v hv => h.apart u (hlater hu) v (hlater hv)⟩
    intro s found rest
    rw [oneOf]
    cases hword : word w.toList s with
    | some result =>
      obtain ⟨first, behind⟩ := result
      obtain ⟨rfl, hspells⟩ := (recognizes_word w.toList _ _ _).1 hword
      rw [Option.orElse_some, Option.some.injEq, Prod.mk.injEq]
      constructor
      · rintro ⟨rfl, rfl⟩
        exact ⟨rfl, w, List.mem_cons_self, hspells⟩
      -- No other word stands at the same place.
      · rintro ⟨hsplit, v, hv, hother⟩
        exact h.unique List.mem_cons_self hv hspells hother hsplit
    | none =>
      rw [Option.orElse_none, ih]
      constructor
      · rintro ⟨hsplit, v, hv, hspells⟩
        exact ⟨hsplit, v, hlater hv, hspells⟩
      · rintro ⟨rfl, v, hv, hspells⟩
        rcases List.mem_cons.1 hv with rfl | hv
        · -- A word that stands in front is found.
          rw [(recognizes_word v.toList _ _ _).2 ⟨rfl, hspells⟩] at hword
          simp at hword
        · exact ⟨rfl, v, hv, hspells⟩

/-! ## The words for an API key -/

/-- A character that may stand between the two words for an API key. -/
def joins (c : Char) : Bool := isBlank c || c == '_' || c == '-'

/-- What may stand between them: one such character, or nothing. -/
def Joint (between : List Char) : Prop := between = [] ∨ ∃ c, between = [c] ∧ joins c = true

/-- The words for an API key. -/
def ApiKeyWord (found : List Char) : Prop :=
  ∃ api between key, found = api ++ (between ++ key) ∧ Spells "api".toList api ∧ Joint between ∧
    Spells "key".toList key

/-- The second word for an API key has nothing in it that may stand before it. -/
theorem joins_eq_false_of_spells {key : List Char} (h : Spells "key".toList key) :
    ∀ c ∈ key, joins c = false := by
  intro c hc
  have hne : ∀ sign ∈ ['_', '-'], c ≠ sign := by
    rintro sign hsign rfl
    exact h.notMem_of_avoids (by decide) c hsign hc
  simp [joins, h.isBlank_eq_false (by decide) c hc, hne '_' (by decide), hne '-' (by decide)]

/-- The character that stands before the second word for an API key, if there is one, and the text
after it. -/
def cutJoint : List Char → List Char × List Char
  | [] => ([], [])
  | c :: rest => if joins c then ([c], rest) else ([], c :: rest)

theorem apiKey_eq (s : List Char) :
    apiKey s = (word "api".toList s).bind fun first =>
      (word "key".toList (cutJoint first.2).2).bind fun second =>
        some (first.1 ++ (cutJoint first.2).1 ++ second.1, second.2) := by
  unfold apiKey
  congr 1
  funext ⟨api, rest⟩
  cases rest <;> rfl

theorem joint_cutJoint (s : List Char) :
    s = (cutJoint s).1 ++ (cutJoint s).2 ∧ Joint (cutJoint s).1 := by
  cases s with
  | nil => exact ⟨rfl, .inl rfl⟩
  | cons c rest =>
    rw [cutJoint]
    split
    · next hjoins => exact ⟨rfl, .inr ⟨c, rfl, hjoins⟩⟩
    · exact ⟨rfl, .inl rfl⟩

theorem cutJoint_of_joint {between rest : List Char} (h : Joint between)
    (hrest : ∀ c ∈ rest.head?, joins c = false) : cutJoint (between ++ rest) = (between, rest) := by
  rcases h with rfl | ⟨c, rfl, hjoins⟩
  · cases rest with
    | nil => rfl
    | cons c rest =>
      rw [List.nil_append, cutJoint, hrest c rfl]
      rfl
  · rw [List.singleton_append, cutJoint, if_pos hjoins]

theorem recognizes_apiKey : Recognizes apiKey ApiKeyWord := by
  intro s found rest
  simp only [apiKey_eq, Option.bind_eq_some_iff, Option.some.injEq, Prod.mk.injEq]
  constructor
  · rintro ⟨⟨api, behind⟩, hfirst, ⟨key, back⟩, hsecond, rfl, rfl⟩
    obtain ⟨rfl, hapi⟩ := (recognizes_word _ _ _ _).1 hfirst
    obtain ⟨hkeyed, hkey⟩ := (recognizes_word _ _ _ _).1 hsecond
    obtain ⟨hbehind, hjoint⟩ := joint_cutJoint behind
    refine ⟨?_, api, (cutJoint behind).1, key, List.append_assoc _ _ _, hapi, hjoint, hkey⟩
    calc
      api ++ behind = api ++ ((cutJoint behind).1 ++ (cutJoint behind).2) := by rw [← hbehind]
      _ = api ++ (cutJoint behind).1 ++ key ++ back := by simp only [hkeyed, List.append_assoc]
  · rintro ⟨rfl, api, between, key, rfl, hapi, hjoint, hkey⟩
    have hfirst : word "api".toList (api ++ (between ++ key) ++ rest) =
        some (api, between ++ (key ++ rest)) :=
      (recognizes_word _ _ _ _).2 ⟨by simp, hapi⟩
    have hsecond : word "key".toList (key ++ rest) = some (key, rest) :=
      (recognizes_word _ _ _ _).2 ⟨rfl, hkey⟩
    -- The second word does not begin with what may stand before it.
    have hcut : cutJoint (between ++ (key ++ rest)) = (between, key ++ rest) := by
      refine cutJoint_of_joint hjoint (forall_mem_head?_append ?_ ?_ rest)
      · exact hkey.ne_nil (by decide)
      · exact joins_eq_false_of_spells hkey
    exact ⟨(api, between ++ (key ++ rest)), hfirst, (key, rest), by rw [hcut]; exact hsecond,
      by rw [hcut, List.append_assoc], rfl⟩

end Deskhand.Text.Redaction
