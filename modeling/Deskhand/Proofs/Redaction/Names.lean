/-
  Deskhand.Proofs.Redaction.Names

  The passes of redaction.

  The five rules of redaction as passes, and the names that can stand before a secret on the way to
  their pass. A pass can take a name with its sign for a secret, but no lead reaches from the text
  before over the name, as long as no word that the pass looks for goes on to the left of it.
-/

import Deskhand.Proofs.Redaction.Stages

namespace Deskhand.Text.Redaction

/-! ## The five passes -/

theorem copies_queryKey {part : List Char} (hquestion : '?' ∉ part) (hampersand : '&' ∉ part) :
    Copies queryKey part := by
  refine substitute_append fun c hc s => ?_
  cases hmatch : queryKey (c :: s) with
  | none => rfl
  | some written =>
    -- A match begins with one of the two signs.
    obtain ⟨lead, secret, rest, hfound, -, -⟩ :=
      (hides_queryKey _ written.1 written.2).1 hmatch
    obtain ⟨d, hd, rfl⟩ := hfound.leads.exists_eq
    obtain ⟨rfl, -⟩ := List.cons.inj hfound.split
    rcases hd with rfl | rfl
    · exact absurd hc hquestion
    · exact absurd hc hampersand

/-- The pass for keys in the query of a URL. -/
def queryPass : Pass where
  rule := queryKey
  leads := QueryLead
  ends := endsValue
  hides := hides_queryKey
  ends_of_isBlank := fun c hc => by simp [endsValue, hc]
  isBlank_of_ends := fun c hc => by simpa [endsValue] using hc
  copies_mark := copies_queryKey (by decide) (by decide)

theorem ApiKeyWord.isSign_eq_false {found : List Char} (h : ApiKeyWord found) :
    ∀ c ∈ found, isSign c = false := by
  obtain ⟨api, between, key, rfl, hapi, hjoint, hkey⟩ := h
  simp only [List.forall_mem_append]
  refine ⟨hapi.isSign_eq_false (by decide), ?_, hkey.isSign_eq_false (by decide)⟩
  rcases hjoint with rfl | ⟨c, rfl, hjoins⟩
  · simp
  · simp only [joins, Bool.or_eq_true, beq_iff_eq] at hjoins
    rw [List.forall_mem_singleton]
    rcases hjoins with (hblank | rfl) | rfl
    · exact isSign_eq_false_of_isBlank hblank
    · decide
    · decide

/-- The pass for API keys. -/
def apiKeyPass : Pass where
  rule := named apiKey
  leads := NamedLead ApiKeyWord
  ends := isBlank
  hides := hides_named recognizes_apiKey fun _ hfound => hfound.isSign_eq_false
  ends_of_isBlank := fun _ hc => hc
  isBlank_of_ends := fun _ hc => .inr hc
  copies_mark := fun _ => rfl

/-- Words for a secret, none of which has a sign in it. -/
structure SecretWords (words : List String) : Prop where
  separate : Separate words
  signless : ∀ w ∈ words, avoids w.toList [':', '=', ']'] = true
  copies_mark : Copies (named (oneOf words)) mark

/-- The pass for one of some words. -/
def wordsPass {words : List String} (h : SecretWords words) : Pass where
  rule := named (oneOf words)
  leads := NamedLead fun found => ∃ w ∈ words, Spells w.toList found
  ends := isBlank
  hides := hides_named (recognizes_oneOf h.separate) fun _ ⟨w, hw, hfound⟩ =>
    hfound.isSign_eq_false (h.signless w hw)
  ends_of_isBlank := fun _ hc => hc
  isBlank_of_ends := fun _ hc => .inr hc
  copies_mark := h.copies_mark

theorem passwordWords : SecretWords ["password", "passwd", "pwd"] :=
  ⟨⟨by decide, by decide⟩, by decide, fun _ => rfl⟩

theorem tokenWords : SecretWords ["token", "secret"] :=
  ⟨⟨by decide, by decide⟩, by decide, fun _ => rfl⟩

/-- The pass for bearer authorizations. -/
def bearerPass : Pass where
  rule := bearer
  leads := BearerLead
  ends := isBlank
  hides := hides_bearer
  ends_of_isBlank := fun _ hc => hc
  isBlank_of_ends := fun _ hc => .inr hc
  copies_mark := fun _ => rfl

/-- The passes of redaction. -/
def allPasses : List Pass :=
  [queryPass, apiKeyPass, wordsPass passwordWords, wordsPass tokenWords, bearerPass]

theorem redactChars_eq (s : List Char) : redactChars s = passed allPasses s := rfl

/-! ## Names that no word reaches over -/

instance (letters found : List Char) : Decidable (Spells letters found) :=
  inferInstanceAs (Decidable (List.Forall₂ _ _ _))

/-- The words of the pass that end with the name are the name. -/
def Whole (pass : Pass) (name : List Char) : Prop :=
  ∀ lead, pass.leads lead → ∀ q, lead.word = q ++ name → q = []

/-- A text that may be the name of a credential. -/
structure Nameable (name : List Char) : Prop where
  ne_nil : name ≠ []
  plain : ∀ c ∈ name, isSign c = false ∧ c ≠ '&' ∧ isBlank c = false

theorem Whole.head {pass : Pass} {name : List Char} (h : Whole pass name) (hname : Nameable name)
    {separator : Char} (hseparator : separator = ':' ∨ separator = '=') :
    Head pass.leads pass.ends (name ++ [separator]) where
  ne_nil := List.append_ne_nil_of_left_ne_nil hname.ne_nil _
  goesOn := by
    intro c hc
    rcases List.mem_append.1 (List.mem_of_mem_tail hc) with hc | hc
    · obtain ⟨-, hne, hblank⟩ := hname.plain c hc
      exact pass.ends_eq_false hne hblank
    · rw [List.mem_singleton.1 hc]
      rcases hseparator with rfl | rfl <;> exact pass.ends_eq_false (by decide) (by decide)
  sealed := by
    intro lead hlead q t hq heq
    have hsign : isSign separator = true := by rcases hseparator with rfl | rfl <;> rfl
    -- The separator stands behind the name, so it is the one of the lead.
    have hcut : lead.text = q ++ name ++ separator :: t := by
      rw [heq]
      simp only [List.append_assoc, List.singleton_append]
    obtain ⟨hword, -, -⟩ := Lead.eq_of_text_eq hsign hcut
    have hblank : ∀ c ∈ name, c ∉ lead.pad := by
      intro c hc hmem
      have hbad := lead.pad_blank c hmem
      rw [(hname.plain c hc).2.2] at hbad
      exact Bool.noConfusion hbad
    -- The name has no blank at its end, so there is none between word and separator.
    have hpad : lead.pad = [] := by
      rcases List.suffix_or_suffix_of_suffix ⟨q, hword⟩ ⟨lead.word, rfl⟩ with hin | hover
      · obtain ⟨c, hc⟩ := List.exists_mem_of_ne_nil name hname.ne_nil
        exact absurd (hin.subset hc) (hblank c hc)
      · exact List.eq_nil_iff_forall_not_mem.2 fun c hc => hblank c (hover.subset hc) hc
    rw [hpad, List.append_nil] at hword
    exact hq (h lead hlead q hword.symm)

/-! ### The words of the passes -/

/-- A text that spells a word ends with no other text than the end of that word spells. -/
theorem Spells.eq_nil_of_append {letters q name : List Char} (h : Spells letters (q ++ name))
    (hname : name.length < letters.length →
      ¬ Spells (letters.drop (letters.length - name.length)) name) : q = [] := by
  -- Both have one character for each letter.
  have hlength := List.Forall₂.length_eq h
  rw [List.length_append] at hlength
  by_contra hq
  have hpos := List.length_pos_iff.2 hq
  exact hname (by omega) h.drop

theorem whole_queryPass {name : List Char} (h : 4 ≤ name.length) : Whole queryPass name := by
  intro lead hlead q hword
  have hlength : lead.word.length = 4 := by
    rcases hlead.word with hkey | hkey <;> rw [hkey] <;> rfl
  rw [hword, List.length_append] at hlength
  exact List.length_eq_zero_iff.1 (by omega)

theorem Joint.length_le {between : List Char} (h : Joint between) : between.length ≤ 1 := by
  rcases h with rfl | ⟨c, rfl, -⟩ <;> simp

theorem whole_apiKeyPass {name : List Char} (h : 7 ≤ name.length ∨
    3 ≤ name.length ∧ ¬ Spells "key".toList (name.drop (name.length - 3))) :
    Whole apiKeyPass name := by
  intro lead hlead q hword
  obtain ⟨api, between, key, hparts, hapi, hjoint, hkey⟩ := hlead.word
  have hapiLength : 3 = api.length := List.Forall₂.length_eq hapi
  have hkeyLength : 3 = key.length := List.Forall₂.length_eq hkey
  have hjointLength := hjoint.length_le
  rw [hword] at hparts
  have hlength := congrArg List.length hparts
  -- The word has at most seven characters.
  simp only [List.length_append] at hlength
  rcases h with hlong | ⟨hlong, hend⟩
  · exact List.length_eq_zero_iff.1 (by omega)
  · -- The last three characters of the name would spell the second word.
    refine absurd ?_ hend
    have hsuffix : key <:+ name := by
      refine List.suffix_of_suffix_length_le ?_ (List.suffix_append q name) (by omega)
      rw [hparts, ← List.append_assoc]
      exact List.suffix_append _ key
    rw [hkeyLength, ← List.suffix_iff_eq_drop.1 hsuffix]
    exact hkey

theorem whole_wordsPass {words : List String} (h : SecretWords words) {name : List Char}
    (hname : ∀ w ∈ words, name.length < w.toList.length →
      ¬ Spells (w.toList.drop (w.toList.length - name.length)) name) :
    Whole (wordsPass h) name := by
  intro lead hlead q hword
  obtain ⟨w, hw, hspells⟩ := hlead.word
  rw [hword] at hspells
  exact hspells.eq_nil_of_append (hname w hw)

theorem whole_bearerPass {name : List Char} (h : 13 ≤ name.length) : Whole bearerPass name := by
  intro lead hlead q hword
  have hspells : Spells "authorization".toList lead.word := hlead.word
  rw [hword] at hspells
  exact hspells.eq_nil_of_append fun hless => absurd hless (Nat.not_lt.2 h)

end Deskhand.Text.Redaction
