/-
  Deskhand.Proofs.Redaction.Credentials

  Credentials with a name.

  Which of the usual forms of a credential keep their secret out of the logs, and behind which text.
  The five passes go one after the other over the whole text, so a pass may take the name of a
  credential for a secret that an earlier word announces. A secret right behind an equals sign is
  hidden even so, but one behind a blank is then left in the open: nothing announces it any more.
-/

import Deskhand.Proofs.Redaction.Names

namespace Deskhand.Text.Redaction

/-! ## Forms -/

/-- The names of credentials. -/
inductive Keyword where
  | apiKey
  | password
  | token
  deriving DecidableEq

namespace Keyword

/-- The name as it is written in a form. -/
def name : Keyword → String
  | apiKey => "api_key"
  | password => "password"
  | token => "token"

/-- How many passes there are up to the one for the name. -/
def stage : Keyword → Nat
  | apiKey => 2
  | password => 3
  | token => 4

end Keyword

/-- The forms of a credential: a name, a colon and a blank, or a name and an equals sign, or the
header of a bearer authorization. -/
inductive Form where
  | spaced (keyword : Keyword)
  | joined (keyword : Keyword)
  | bearer
  deriving DecidableEq

namespace Form

/-- The name of the credential. -/
def name : Form → String
  | spaced keyword => keyword.name
  | joined keyword => keyword.name
  | bearer => "Authorization"

/-- The sign behind the name. -/
def separator : Form → Char
  | spaced _ => ':'
  | joined _ => '='
  | bearer => ':'

/-- What stands between the sign and the secret. -/
def gap : Form → String
  | spaced _ => " "
  | joined _ => ""
  | bearer => " Bearer "

/-- How many passes there are up to the one for the form. -/
def stage : Form → Nat
  | spaced keyword => keyword.stage
  | joined keyword => keyword.stage
  | bearer => 5

/-- The name with its sign. -/
def head (form : Form) : String := form.name.push form.separator

/-- What stands before the secret. -/
def text (form : Form) : String := form.head ++ form.gap

example : [spaced .apiKey, joined .apiKey, spaced .password, joined .password, spaced .token,
      joined .token, bearer].map text =
    ["api_key: ", "api_key=", "password: ", "password=", "token: ", "token=",
      "Authorization: Bearer "] := by
  decide

/-- The name with its sign is still there behind the text when the rules up to the one for the form
have been applied to both, or the secret stands right behind it. -/
def Stands (form : Form) (before : String) : Prop :=
  form.gap = "" ∨
    form.head.toList <:+
      (rules.take form.stage).foldl (fun s rule => substitute rule s) (before ++ form.head).toList

instance (form : Form) (before : String) : Decidable (form.Stands before) :=
  inferInstanceAs (Decidable (_ ∨ _))

end Form

/-! ## Forms as credentials -/

namespace Keyword

theorem nameable (keyword : Keyword) : Nameable keyword.name.toList := by
  cases keyword <;> exact ⟨by decide, List.forall_iff_forall_mem.1 (by decide)⟩

theorem whole (keyword : Keyword) :
    ∀ pass ∈ allPasses.take keyword.stage, Whole pass keyword.name.toList := by
  rw [← List.forall_iff_forall_mem]
  have hquery : Whole queryPass keyword.name.toList :=
    whole_queryPass (by cases keyword <;> decide)
  have hapiKey : Whole apiKeyPass keyword.name.toList :=
    whole_apiKeyPass (by cases keyword <;> decide)
  cases keyword with
  | apiKey => exact And.intro hquery hapiKey
  | password => exact And.intro hquery ⟨hapiKey, whole_wordsPass _ (by decide)⟩
  | token =>
    exact And.intro hquery
      ⟨hapiKey, whole_wordsPass passwordWords (by decide), whole_wordsPass tokenWords (by decide)⟩

theorem copied (keyword : Keyword) :
    ∀ pass ∈ allPasses.take (keyword.stage - 1), Copies pass.rule keyword.name.toList := by
  rw [← List.forall_iff_forall_mem]
  -- The rules read letter by letter, so that none starts inside a given name holds by evaluation;
  -- only the rule for URLs looks at five characters at once.
  have hquery : Copies queryKey keyword.name.toList :=
    copies_queryKey (by cases keyword <;> decide) (by cases keyword <;> decide)
  cases keyword with
  | apiKey => exact hquery
  | password => exact And.intro hquery fun _ => rfl
  | token => exact And.intro hquery ⟨fun _ => rfl, fun _ => rfl⟩

def own : Keyword → Pass
  | apiKey => apiKeyPass
  | password => wordsPass passwordWords
  | token => wordsPass tokenWords

/-- The name as a lead, with a separator and a gap. -/
def lead (keyword : Keyword) (separator : Char) (gap : List Char)
    (hseparator : separator = ':' ∨ separator = '=') (hgap : ∀ c ∈ gap, isBlank c = true) :
    Lead where
  word := keyword.name.toList
  pad := []
  separator := separator
  more := gap
  label := ": ".toList
  word_plain := fun c hc => (keyword.nameable.plain c hc).1
  pad_blank := blank_nil
  separates := hseparator
  more_plain := fun c hc => isSign_eq_false_of_isBlank (hgap c hc)
  label_plain := namedLabel_plain

variable {separator : Char} {gap : List Char}

theorem text_lead (keyword : Keyword) (hseparator : separator = ':' ∨ separator = '=')
    (hgap : ∀ c ∈ gap, isBlank c = true) :
    (keyword.lead separator gap hseparator hgap).text =
      keyword.name.toList ++ [separator] ++ gap := by
  simp [Lead.text, lead]

theorem leads_lead (keyword : Keyword) (hseparator : separator = ':' ∨ separator = '=')
    (hgap : ∀ c ∈ gap, isBlank c = true) :
    keyword.own.leads (keyword.lead separator gap hseparator hgap) := by
  have hisSeparator : isSeparator separator = true := by rcases hseparator with rfl | rfl <;> rfl
  cases keyword with
  | apiKey =>
    have hword : ApiKeyWord "api_key".toList :=
      ⟨"api".toList, ['_'], "key".toList, rfl, by decide, .inr ⟨'_', rfl, rfl⟩, by decide⟩
    exact ⟨hword, hisSeparator, hgap, rfl⟩
  | password =>
    have hword : ∃ w ∈ ["password", "passwd", "pwd"], Spells w.toList "password".toList := by decide
    exact ⟨hword, hisSeparator, hgap, rfl⟩
  | token =>
    have hword : ∃ w ∈ ["token", "secret"], Spells w.toList "token".toList := by decide
    exact ⟨hword, hisSeparator, hgap, rfl⟩

end Keyword

theorem copies_sign {sign : Char} (h : sign = ':' ∨ sign = '=') :
    ∀ pass ∈ allPasses, Copies pass.rule [sign] := by
  rw [← List.forall_iff_forall_mem]
  have hquery : Copies queryKey [sign] :=
    copies_queryKey (by rcases h with rfl | rfl <;> decide) (by rcases h with rfl | rfl <;> decide)
  rcases h with rfl | rfl <;>
    exact And.intro hquery ⟨fun _ => rfl, fun _ => rfl, fun _ => rfl, fun _ => rfl⟩

namespace Form

theorem gap_eq (form : Form) : form.gap = " " ∨ form.gap = "" ∨ form.gap = " Bearer " := by
  cases form <;> simp [gap]

theorem gaps (form : Form) : ∀ pass ∈ allPasses, Gap pass form.gap.toList := by
  have hgap := form.gap_eq
  generalize form.gap = gap at hgap
  have hopens : ∀ c ∈ gap.toList.head?, isBlank c = true := by
    rcases hgap with rfl | rfl | rfl <;> rintro c ⟨⟩ <;> rfl
  have hcopied : ∀ pass ∈ allPasses, Copies pass.rule gap.toList := by
    rw [← List.forall_iff_forall_mem]
    -- Only the rule for URLs has to be told what does not stand in the gap.
    have hquery : Copies queryKey gap.toList :=
      copies_queryKey (by rcases hgap with rfl | rfl | rfl <;> decide)
        (by rcases hgap with rfl | rfl | rfl <;> decide)
    rcases hgap with rfl | rfl | rfl <;>
      exact And.intro hquery ⟨fun _ => rfl, fun _ => rfl, fun _ => rfl, fun _ => rfl⟩
  exact fun pass hpass => ⟨hopens, hcopied pass hpass⟩

/-- The pass for the form. -/
def own : Form → Pass
  | spaced keyword => keyword.own
  | joined keyword => keyword.own
  | bearer => bearerPass

theorem nameable (form : Form) : Nameable form.name.toList := by
  cases form with
  | spaced keyword => exact keyword.nameable
  | joined keyword => exact keyword.nameable
  | bearer => exact ⟨by decide, List.forall_iff_forall_mem.1 (by decide)⟩

theorem whole (form : Form) :
    ∀ pass ∈ allPasses.take form.stage, Whole pass form.name.toList := by
  cases form with
  | spaced keyword => exact keyword.whole
  | joined keyword => exact keyword.whole
  | bearer =>
    rw [← List.forall_iff_forall_mem]
    exact And.intro (whole_queryPass (by decide)) ⟨whole_apiKeyPass (by decide),
      whole_wordsPass passwordWords (by decide), whole_wordsPass tokenWords (by decide),
      whole_bearerPass (by decide)⟩

theorem copied (form : Form) :
    ∀ pass ∈ allPasses.take (form.stage - 1), Copies pass.rule form.name.toList := by
  cases form with
  | spaced keyword => exact keyword.copied
  | joined keyword => exact keyword.copied
  | bearer =>
    rw [← List.forall_iff_forall_mem]
    have hquery : Copies queryKey bearer.name.toList := copies_queryKey (by decide) (by decide)
    exact And.intro hquery ⟨fun _ => rfl, fun _ => rfl, fun _ => rfl⟩

theorem separator_eq (form : Form) : form.separator = ':' ∨ form.separator = '=' := by
  cases form <;> simp [separator]

theorem toList_head (form : Form) : form.head.toList = form.name.toList ++ [form.separator] :=
  String.toList_push _

theorem take_stage (form : Form) :
    allPasses.take form.stage = allPasses.take (form.stage - 1) ++ [form.own] := by
  -- The own pass is the last of those up to its stage.
  rcases form with keyword | keyword | _
  · cases keyword <;> rfl
  · cases keyword <;> rfl
  · rfl

theorem bare (form : Form) : substitute form.own.rule form.head.toList = form.head.toList := by
  rw [form.toList_head]
  exact form.own.hides.substitute_lastSign (fun c hc => (form.nameable.plain c hc).1) form.separator

theorem unmarked (form : Form) : ¬ mark <:+ form.head.toList ∧ ¬ form.head.toList <:+ mark := by
  rcases form with keyword | keyword | _
  · cases keyword <;> decide
  · cases keyword <;> decide
  · decide

/-- The header of a bearer authorization as a lead. -/
def bearerLead : Lead where
  word := "Authorization".toList
  pad := []
  separator := ':'
  more := " Bearer ".toList
  label := ": Bearer ".toList
  word_plain := List.forall_iff_forall_mem.1 (by decide)
  pad_blank := blank_nil
  separates := .inl rfl
  more_plain := List.forall_iff_forall_mem.1 (by decide)
  label_plain := bearerLabel_plain

theorem exists_lead (form : Form) :
    ∃ lead, form.own.leads lead ∧ lead.text = form.head.toList ++ form.gap.toList := by
  rw [form.toList_head]
  cases form with
  | spaced keyword =>
    have hgap : ∀ c ∈ " ".toList, isBlank c = true := List.forall_iff_forall_mem.1 (by decide)
    exact ⟨_, keyword.leads_lead (.inl rfl) hgap, keyword.text_lead (.inl rfl) hgap⟩
  | joined keyword =>
    have hgap : ∀ c ∈ "".toList, isBlank c = true := by simp
    exact ⟨_, keyword.leads_lead (.inr rfl) hgap, keyword.text_lead (.inr rfl) hgap⟩
  | bearer =>
    have hblank : ∀ c ∈ " ".toList, isBlank c = true := List.forall_iff_forall_mem.1 (by decide)
    have hscheme : BearerScheme " Bearer ".toList :=
      ⟨" ".toList, "Bearer".toList, " ".toList, rfl, hblank, by decide, hblank, by decide⟩
    have hword : Spells "authorization".toList "Authorization".toList := by decide
    exact ⟨bearerLead, ⟨hword, rfl, hscheme, rfl⟩, rfl⟩

/-- Every form is a credential. -/
def credential (form : Form) : Credential where
  head := form.head.toList
  gap := form.gap.toList
  earlier := allPasses.take (form.stage - 1)
  own := form.own
  later := allPasses.drop form.stage
  gaps := by
    rw [List.append_cons, ← form.take_stage, List.take_append_drop]
    exact form.gaps
  seals := by
    -- Neither the name nor the sign is touched before the own pass.
    intro pass hpass
    have hearlier : pass ∈ allPasses.take form.stage := by
      rw [form.take_stage]
      exact List.mem_append_left _ hpass
    have hsign : Copies pass.rule [form.separator] :=
      copies_sign form.separator_eq pass (List.mem_of_mem_take hearlier)
    rw [form.toList_head]
    exact ⟨(form.whole pass hearlier).head form.nameable form.separator_eq,
      (form.copied pass hpass).append hsign⟩
  arrives := by
    have hown : form.own ∈ allPasses.take form.stage := by
      rw [form.take_stage]
      exact List.mem_append_right _ List.mem_cons_self
    rw [form.toList_head]
    exact (form.whole form.own hown).head form.nameable form.separator_eq
  bare := form.bare
  announced := form.exists_lead
  unmarked := form.unmarked

theorem passes_credential (form : Form) : form.credential.passes = allPasses := by
  rw [Credential.passes, List.append_cons]
  show allPasses.take (form.stage - 1) ++ [form.own] ++ allPasses.drop form.stage = allPasses
  rw [← form.take_stage, List.take_append_drop]

/-- The condition on the text before a form, as the passes see it. -/
theorem stands_iff (form : Form) (before : String) :
    form.Stands before ↔ form.credential.Stands before.toList := by
  have hpasses : ∀ s, (rules.take form.stage).foldl (fun s rule => substitute rule s) s =
      passed (allPasses.take form.stage) s := by
    -- The rules up to the stage are those of the passes up to it.
    intro s
    have hrules : rules = allPasses.map Pass.rule := rfl
    rw [hrules, ← List.map_take, List.foldl_map]
    rfl
  rw [Stands, Credential.Stands, Credential.approach, hpasses, form.take_stage,
    String.toList_append]
  refine or_congr ?_ Iff.rfl
  exact String.toList_eq_nil_iff.symm

end Form

/-! ## What redaction leaves of a secret -/

/-- Behind a text, a form keeps all characters of its secret out of the logs exactly if its name and
sign come through to the rule for it, or if the secret stands right behind the sign. If not, the
whole secret is left. -/
theorem notMem_redact_form_iff (form : Form) {before secret after : String} (hne : secret ≠ "")
    (hblank : ∀ c ∈ secret.toList, isBlank c = false)
    (hstrange : ∀ c ∈ secret.toList,
      c ∉ (before ++ form.text ++ after ++ "?&=: [REDACTED]Bearer").toList) :
    ((∀ c ∈ secret.toList, c ∉ (redact (before ++ form.text ++ secret ++ after)).toList) ↔
      form.Stands before) ∧
    (secret.toList <:+: (redact (before ++ form.text ++ secret ++ after)).toList ↔
      ¬ form.Stands before) := by
  -- The secret is foreign to every part of the text, and to what the rules write.
  have hdisjoint : secret.toList.Disjoint
      (before ++ form.text ++ after ++ "?&=: [REDACTED]Bearer").toList := fun c hc => hstrange c hc
  simp only [Form.text, String.toList_append, List.disjoint_append_right] at hdisjoint
  obtain ⟨⟨⟨hbefore, hhead, hgap⟩, hafter⟩, hsigns⟩ := hdisjoint
  have hsecret : Strange secret.toList := ⟨by simpa using hne, hblank, hsigns⟩
  have hcases := form.credential.hidden_or_exposed hsecret
    (List.disjoint_append_right.2 ⟨hhead, hgap⟩) hbefore hafter
  have hredact : (redact (before ++ form.text ++ secret ++ after)).toList =
      passed form.credential.passes (before.toList ++ (form.credential.head ++
        (form.credential.gap ++ (secret.toList ++ after.toList)))) := by
    rw [redact, String.toList_ofList, redactChars_eq, form.passes_credential]
    simp only [Form.text, String.toList_append, List.append_assoc]
    rfl
  rw [hredact, form.stands_iff]
  generalize passed _ _ = written at hcases ⊢
  -- A text with the whole secret in it has characters of the secret.
  have hexclusive : secret.toList <:+: written → ¬ ∀ c ∈ secret.toList, c ∉ written := by
    intro hwhole hnone
    obtain ⟨c, hc⟩ := List.exists_mem_of_ne_nil _ hsecret.ne_nil
    exact hnone c hc (hwhole.subset hc)
  rcases hcases with ⟨hstands, hnone⟩ | ⟨hnot, hwhole⟩
  · exact ⟨iff_of_true (fun c hc => hnone hc) hstands,
      iff_of_false (fun hwhole => hexclusive hwhole fun c hc => hnone hc) (not_not.2 hstands)⟩
  · exact ⟨iff_of_false (hexclusive hwhole) hnot, iff_of_true hwhole hnot⟩

/-- A header keeps its secret out of the logs, even behind a password that stays in the open. -/
theorem notMem_redact_headerBehindPassword :
    let before := "api_key: password: x\n"
    let secret := "12345"
    let after := " end"
    secret ≠ "" ∧ (∀ c ∈ secret.toList, isBlank c = false) ∧
      (∀ c ∈ secret.toList,
        c ∉ (before ++ Form.bearer.text ++ after ++ "?&=: [REDACTED]Bearer").toList) ∧
      Form.bearer.Stands before ∧
      ∀ c ∈ secret.toList, c ∉ (redact (before ++ Form.bearer.text ++ secret ++ after)).toList := by
  intro before secret after
  have hne : secret ≠ "" := by decide
  have hblank : ∀ c ∈ secret.toList, isBlank c = false := List.forall_iff_forall_mem.1 (by decide)
  have hstrange : ∀ c ∈ secret.toList,
      c ∉ (before ++ Form.bearer.text ++ after ++ "?&=: [REDACTED]Bearer").toList :=
    List.forall_iff_forall_mem.1 (by decide)
  have hstands : Form.bearer.Stands before := by decide
  exact ⟨hne, hblank, hstrange, hstands,
    (notMem_redact_form_iff .bearer hne hblank hstrange).1.2 hstands⟩

/-- The words for an API key take the name of a password for their secret, and the password behind
it is left. -/
theorem not_forall_notMem_redact :
    ¬ ∀ (before : String) (form : Form) (secret after : String), secret ≠ "" →
      (∀ c ∈ secret.toList, isBlank c = false ∧ c ≠ '&') →
      (∀ c ∈ after.toList.head?, isBlank c = true) →
      (∀ c ∈ secret.toList,
        c ∉ (before ++ form.text ++ after ++ "?&=: [REDACTED]Bearer").toList) →
      ∀ c ∈ secret.toList, c ∉ (redact (before ++ form.text ++ secret ++ after)).toList := by
  intro h
  have hleft : '1' ∈
      (redact ("api_key: " ++ (Form.spaced .password).text ++ "12345" ++ "")).toList := by decide
  have hsecret : ∀ c ∈ "12345".toList, isBlank c = false ∧ c ≠ '&' :=
    List.forall_iff_forall_mem.1 (by decide)
  have hstrange : ∀ c ∈ "12345".toList, c ∉ ("api_key: " ++ (Form.spaced .password).text ++ "" ++
      "?&=: [REDACTED]Bearer").toList := List.forall_iff_forall_mem.1 (by decide)
  exact h "api_key: " (.spaced .password) "12345" "" (by decide) hsecret (by simp) hstrange '1'
    (by decide) hleft

end Deskhand.Text.Redaction
