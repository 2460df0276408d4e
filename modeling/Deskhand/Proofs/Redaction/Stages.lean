/-
  Deskhand.Proofs.Redaction.Stages

  A secret through the passes.

  A credential is a head, a gap and a secret. While the passes go over the text in which it stands,
  the text up to the head goes through the same passes as if it stood alone. As long as no pass
  takes the head for a secret, head, gap and secret stay together. A pass that does take the head
  puts a mark in its place. Without a gap the secret goes with the head; behind a gap it is left as
  it is, and because nothing announces it any more, it is left so by every pass to come.
-/

import Deskhand.Proofs.Redaction.Passes
import Mathlib.Data.List.Lattice

namespace Deskhand.Text.Redaction

/-! ## Passes -/

/-- The rule matches nowhere in the part, whatever stands behind it. -/
def Copies (rule : Rule) (part : List Char) : Prop :=
  ∀ t, substitute rule (part ++ t) = part ++ substitute rule t

theorem Copies.append {rule : Rule} {first second : List Char} (hfirst : Copies rule first)
    (hsecond : Copies rule second) : Copies rule (first ++ second) := by
  intro t
  rw [List.append_assoc, hfirst, hsecond, List.append_assoc]

/-- A rule with what it hides. -/
structure Pass where
  rule : Rule
  leads : Lead → Prop
  ends : Char → Bool
  hides : Hides rule leads ends
  ends_of_isBlank : ∀ c, isBlank c = true → ends c = true
  isBlank_of_ends : ∀ c, ends c = true → c = '&' ∨ isBlank c = true
  copies_mark : Copies rule mark

/-- The text after some passes. -/
def passed (passes : List Pass) (s : List Char) : List Char :=
  passes.foldl (fun s pass => substitute pass.rule s) s

@[simp] theorem passed_cons (pass : Pass) (passes : List Pass) (s : List Char) :
    passed (pass :: passes) s = passed passes (substitute pass.rule s) := rfl

theorem passed_append (first second : List Pass) (s : List Char) :
    passed (first ++ second) s = passed second (passed first s) := List.foldl_append

theorem Pass.ends_eq_false (pass : Pass) {c : Char} (hne : c ≠ '&') (hblank : isBlank c = false) :
    pass.ends c = false := by
  cases hends : pass.ends c with
  | false => rfl
  | true =>
    -- Only the rule for URLs ends a secret at something that is no blank.
    rcases pass.isBlank_of_ends c hends with rfl | hbad
    · exact absurd rfl hne
    · rw [hblank] at hbad
      exact Bool.noConfusion hbad

/-- A part that stays as it is, unless a match from before takes it. -/
structure Seal (pass : Pass) (part : List Char) : Prop where
  head : Head pass.leads pass.ends part
  copied : Copies pass.rule part

theorem Seal.substitute_eq {pass : Pass} {part : List Char} (h : Seal pass part) :
    substitute pass.rule part = part := by
  have hcopied := h.copied []
  rw [List.append_nil] at hcopied
  rw [hcopied]
  exact List.append_nil part

theorem Lead.notMem_text (lead : Lead) : ']' ∉ lead.text := by
  intro hmem
  obtain ⟨front, rest, hsplit⟩ := List.append_of_mem hmem
  -- A closing bracket would be its separator.
  obtain ⟨-, hseparator, -⟩ := Lead.eq_of_text_eq (by decide) hsplit
  rcases lead.separates with h | h <;> exact absurd (hseparator.trans h) (by decide)

theorem Pass.seal_mark (pass : Pass) : Seal pass mark where
  head :=
    { ne_nil := by decide
      goesOn := by
        have htail : ∀ c ∈ mark.tail, c ≠ '&' ∧ isBlank c = false :=
          List.forall_iff_forall_mem.1 (by decide)
        exact fun c hc => pass.ends_eq_false (htail c hc).1 (htail c hc).2
      sealed := by
        -- A mark ends with a sign that no lead has.
        intro lead _ q t _ heq
        have hsign : ']' ∈ mark := by decide
        have htext := lead.notMem_text
        rw [heq] at htext
        exact htext (List.mem_append_right q (List.mem_append_left t hsign)) }
  copied := pass.copies_mark

/-! ## Strange secrets -/

/-- A secret that has no character in common with what the rules look for or write. -/
structure Strange (secret : List Char) : Prop where
  ne_nil : secret ≠ []
  blankless : ∀ c ∈ secret, isBlank c = false
  disjoint : secret.Disjoint "?&=: [REDACTED]Bearer".toList

namespace Strange

variable {secret : List Char}

theorem ends_eq_false (h : Strange secret) (pass : Pass) : ∀ c ∈ secret, pass.ends c = false := by
  intro c hc
  refine pass.ends_eq_false ?_ (h.blankless c hc)
  rintro rfl
  exact h.disjoint hc (by decide)

theorem disjoint_ink (h : Strange secret) : secret.Disjoint ink := by
  have hink : ink ⊆ "?&=: [REDACTED]Bearer".toList := by decide
  exact List.disjoint_of_subset_right hink h.disjoint

theorem disjoint_written (h : Strange secret) (lead : Lead) :
    secret.Disjoint (lead.label ++ mark) := by
  refine List.disjoint_append_right.2 ⟨fun c hmem hc => ?_, fun c hmem hc => ?_⟩
  · exact h.disjoint_ink hmem (List.mem_append_left _ (lead.label_plain hc))
  · exact h.disjoint_ink hmem (List.mem_append_right _ hc)

theorem disjoint_substitute (h : Strange secret) (pass : Pass) {s : List Char}
    (hs : secret.Disjoint s) : secret.Disjoint (substitute pass.rule s) := by
  have hkept : ∀ c ∈ substitute pass.rule s, c ∉ secret :=
    pass.hides.forall_mem_substitute (fun c hc hmem => h.disjoint_ink hmem hc)
      fun c hc hmem => hs hmem hc
  exact fun c hmem hc => hkept c hc hmem

theorem disjoint_passed (h : Strange secret) (passes : List Pass) {s : List Char}
    (hs : secret.Disjoint s) : secret.Disjoint (passed passes s) := by
  induction passes generalizing s with
  | nil => exact hs
  | cons pass passes ih => exact ih (h.disjoint_substitute pass hs)

/-- A match that takes the secret takes what follows with it, up to the first character that ends a
secret. -/
theorem exists_behind (h : Strange secret) (pass : Pass) {behind : List Char}
    (hbehind : secret.Disjoint behind) :
    ∃ run rest, behind = run ++ rest ∧ Behind pass.ends (secret ++ run) rest ∧
      secret.Disjoint rest := by
  obtain ⟨run, hsplit, hrun, hcomplete⟩ :=
    dropWhile_eq_iff.1 (rfl : behind.dropWhile (fun c => !pass.ends c) = _)
  have hgoesOn : ∀ c ∈ secret ++ run, pass.ends c = false :=
    List.forall_mem_append.2 ⟨h.ends_eq_false pass, by simpa using hrun⟩
  have hrest : secret.Disjoint (behind.dropWhile fun c => !pass.ends c) :=
    fun c hc hmem => hbehind hc (hsplit ▸ List.mem_append_right run hmem)
  exact ⟨run, _, hsplit, ⟨hgoesOn, by simpa using hcomplete⟩, hrest⟩

/-- A lead that starts in a strange secret has the rest of the secret in its word. -/
theorem prefix_word (h : Strange secret) {part behind rest : List Char} (hpart : part ⊆ secret)
    {lead : Lead} (hsplit : part ++ behind = lead.text ++ rest) : part <+: lead.word := by
  rw [Lead.text, List.append_assoc] at hsplit
  -- The word ends behind the part, or the part goes on into what follows the word.
  rcases List.append_eq_append_iff.1 hsplit with ⟨more, hword, -⟩ | ⟨more, hinside, hmore⟩
  · exact ⟨more, hword.symm⟩
  · cases more with
    | nil =>
      have hpart : part = lead.word := by rw [hinside, List.append_nil]
      exact hpart ▸ List.prefix_rfl
    | cons c more =>
      -- The secret would go on with a blank or a separator.
      have hc : c ∈ secret := hpart (hinside ▸ List.mem_append_right _ List.mem_cons_self)
      cases hpad : lead.pad with
      | nil =>
        rw [hpad] at hmore
        obtain ⟨rfl, -⟩ := List.cons.inj hmore
        rcases lead.separates with hsep | hsep <;> rw [hsep] at hc <;>
          exact absurd (by decide) (h.disjoint hc)
      | cons d pad =>
        rw [hpad] at hmore
        obtain ⟨rfl, -⟩ := List.cons.inj hmore
        have hblank := lead.pad_blank d (hpad ▸ List.mem_cons_self)
        rw [h.blankless d hc] at hblank
        exact Bool.noConfusion hblank

/-- A pass leaves a strange secret that nothing announces as it is. -/
theorem exists_substitute_append (h : Strange secret) (pass : Pass) {part behind : List Char}
    (hpart : part ⊆ secret) (hbehind : secret.Disjoint behind) :
    ∃ left, substitute pass.rule (part ++ behind) = part ++ left ∧ secret.Disjoint left := by
  induction part with
  | nil => exact ⟨_, rfl, h.disjoint_substitute pass hbehind⟩
  | cons c part ih =>
    by_cases hfound : ∃ lead value rest,
        Found pass.leads pass.ends (c :: part ++ behind) lead value rest
    · -- The rule keeps the word, and the part is in the word.
      obtain ⟨lead, value, rest, hfound⟩ := hfound
      obtain ⟨more, hword⟩ := h.prefix_word hpart hfound.split
      have hsplit := hfound.split
      rw [Lead.text, ← hword] at hsplit
      simp only [List.append_assoc, List.append_cancel_left_eq] at hsplit
      rw [hsplit, List.disjoint_append_right] at hbehind
      obtain ⟨hmore, hothers⟩ := hbehind
      have hrest : secret.Disjoint rest := fun d hd hmem => hothers hd (by simp [hmem])
      refine ⟨more ++ (lead.label ++ mark ++ substitute pass.rule rest), ?_, ?_⟩
      · rw [pass.hides.substitute_found hfound, Lead.shown, ← hword]
        simp only [List.append_assoc]
      · rw [List.disjoint_append_right, List.disjoint_append_right]
        exact ⟨hmore, h.disjoint_written lead, h.disjoint_substitute pass hrest⟩
    · obtain ⟨left, hleft, hdisjoint⟩ := ih fun d hd => hpart (List.mem_cons_of_mem c hd)
      refine ⟨left, ?_, hdisjoint⟩
      rw [List.cons_append, pass.hides.substitute_not_found, hleft, List.cons_append]
      exact fun lead value rest hmatch => hfound ⟨lead, value, rest, hmatch⟩

end Strange

/-! ## Texts that part behind a seal -/

section

variable {pass : Pass} {passes : List Pass} {head gap secret alone full : List Char}

/-- One text ends with the head, and the other one goes on behind it with a gap and the secret. No
character of the secret stands in the first text or behind the secret. -/
def Placed (head gap secret alone full : List Char) : Prop :=
  ∃ front behind, alone = front ++ head ∧ full = front ++ (head ++ (gap ++ (secret ++ behind))) ∧
    secret.Disjoint alone ∧ secret.Disjoint behind

theorem Placed.disjoint (h : Placed head gap secret alone full) : secret.Disjoint alone := by
  obtain ⟨_, _, _, _, halone, _⟩ := h
  exact halone

/-- The head has been taken: a secret that stands right behind it with it, while a secret behind a
gap now stands behind a mark. -/
inductive Taken (gap secret alone full : List Char) : Prop where
  | hidden (joined : gap = []) (disjoint : secret.Disjoint full)
  | exposed (apart : gap ≠ []) (placed : Placed mark gap secret alone full)

/-- A gap that the pass leaves as it is: it is empty or starts with a blank, and the rule matches
nowhere in it. -/
structure Gap (pass : Pass) (gap : List Char) : Prop where
  opens : ∀ c ∈ gap.head?, isBlank c = true
  copied : Copies pass.rule gap

theorem Gap.exists_substitute (h : Gap pass gap) (hsecret : Strange secret) {behind : List Char}
    (hbehind : secret.Disjoint behind) :
    ∃ left, substitute pass.rule (gap ++ (secret ++ behind)) = gap ++ (secret ++ left) ∧
      secret.Disjoint left := by
  obtain ⟨left, hleft, hdisjoint⟩ :=
    hsecret.exists_substitute_append pass (List.Subset.refl secret) hbehind
  exact ⟨left, by rw [h.copied, hleft], hdisjoint⟩

/-- A match that takes the head takes the whole secret with it, or nothing of what is behind the
gap. -/
theorem Gap.exists_behind (h : Gap pass gap) (hsecret : Strange secret) {behind : List Char}
    (hbehind : secret.Disjoint behind) :
    ∃ value rest, gap ++ (secret ++ behind) = value ++ rest ∧ Behind pass.ends value rest ∧
      (gap = [] → secret.Disjoint rest) ∧ (gap ≠ [] → value = []) := by
  -- Without a gap the secret is taken together with what follows.
  cases gap with
  | nil =>
    obtain ⟨run, rest, rfl, hvalue, hrest⟩ := hsecret.exists_behind pass hbehind
    exact ⟨secret ++ run, rest, by simp, hvalue, fun _ => hrest, by simp⟩
  -- A gap begins with a blank, at which a match ends.
  | cons c gap =>
    refine ⟨[], _, rfl, ⟨by simp, ?_⟩, by simp, fun _ => rfl⟩
    rintro d ⟨⟩
    exact pass.ends_of_isBlank c (h.opens c rfl)

/-- A pass comes to the head, or a match takes it. -/
theorem Placed.pass_cases (h : Placed head gap secret alone full)
    (hhead : Head pass.leads pass.ends head) (hgap : Gap pass gap) (hsecret : Strange secret) :
    (∃ written behind, substitute pass.rule alone = written ++ substitute pass.rule head ∧
      substitute pass.rule full =
        written ++ substitute pass.rule (head ++ (gap ++ (secret ++ behind))) ∧
      secret.Disjoint behind) ∨
    Taken gap secret (substitute pass.rule alone) (substitute pass.rule full) := by
  obtain ⟨front, behind, rfl, rfl, halone, hbehind⟩ := h
  -- What is written of the first text has no character of the secret, whichever way the pass goes.
  have hdisjoint := hsecret.disjoint_substitute pass halone
  obtain ⟨value, rest, hsplit, hvalue, hjoined, hapart⟩ := hgap.exists_behind hsecret hbehind
  cases pass.hides.alike hhead front with
  | arrive written alone all =>
    refine .inl ⟨written, behind, alone, ?_, hbehind⟩
    rw [hsplit]
    exact all value rest hvalue
  | take written alone all =>
    -- What is written ends with a mark, and goes on with what the match has not taken.
    right
    rw [alone] at hdisjoint ⊢
    rw [hsplit, all value rest hvalue]
    by_cases hnil : gap = []
    · refine .hidden hnil ?_
      rw [← List.append_assoc, List.disjoint_append_right]
      exact ⟨hdisjoint, hsecret.disjoint_substitute pass (hjoined hnil)⟩
    · obtain ⟨left, hleft, hunseen⟩ := hgap.exists_substitute hsecret hbehind
      rw [hapart hnil, List.nil_append] at hsplit
      rw [← hsplit, hleft]
      exact .exposed hnil ⟨written, left, rfl, rfl, hdisjoint, hunseen⟩

theorem Placed.step (h : Placed head gap secret alone full) (hseal : Seal pass head)
    (hgap : Gap pass gap) (hsecret : Strange secret) :
    Placed head gap secret (substitute pass.rule alone) (substitute pass.rule full) ∨
      Taken gap secret (substitute pass.rule alone) (substitute pass.rule full) := by
  have halone := h.disjoint
  refine (h.pass_cases hseal.head hgap hsecret).imp_left ?_
  rintro ⟨written, behind, harrived, hfull, hbehind⟩
  obtain ⟨left, hleft, hunseen⟩ := hgap.exists_substitute hsecret hbehind
  refine ⟨written, left, by rw [harrived, hseal.substitute_eq], ?_,
    hsecret.disjoint_substitute pass halone, hunseen⟩
  rw [hfull, hseal.copied, hleft]

theorem Taken.step (h : Taken gap secret alone full) (hgap : Gap pass gap)
    (hsecret : Strange secret) :
    Taken gap secret (substitute pass.rule alone) (substitute pass.rule full) := by
  cases h with
  | hidden joined disjoint => exact .hidden joined (hsecret.disjoint_substitute pass disjoint)
  | exposed apart placed =>
    -- A mark can be taken for a secret as well, and then a new one stands in its place.
    rcases placed.step pass.seal_mark hgap hsecret with hplaced | htaken
    · exact .exposed apart hplaced
    · exact htaken

/-! ## Runs -/

theorem Taken.run (h : Taken gap secret alone full) (hgap : ∀ pass ∈ passes, Gap pass gap)
    (hsecret : Strange secret) : Taken gap secret (passed passes alone) (passed passes full) := by
  induction passes generalizing alone full with
  | nil => exact h
  | cons pass passes ih =>
    have hstep := h.step (hgap pass List.mem_cons_self) hsecret
    exact ih hstep fun later hlater => hgap later (List.mem_cons_of_mem pass hlater)

theorem Placed.run (h : Placed head gap secret alone full)
    (hseal : ∀ pass ∈ passes, Seal pass head) (hgap : ∀ pass ∈ passes, Gap pass gap)
    (hsecret : Strange secret) :
    Placed head gap secret (passed passes alone) (passed passes full) ∨
      Taken gap secret (passed passes alone) (passed passes full) := by
  induction passes generalizing alone full with
  | nil => exact .inl h
  | cons pass passes ih =>
    have hlaterGap : ∀ later ∈ passes, Gap later gap :=
      fun later hlater => hgap later (List.mem_cons_of_mem pass hlater)
    rcases h.step (hseal pass List.mem_cons_self) (hgap pass List.mem_cons_self) hsecret
      with hplaced | htaken
    · have hlaterSeal : ∀ later ∈ passes, Seal later head :=
        fun later hlater => hseal later (List.mem_cons_of_mem pass hlater)
      exact ih hplaced hlaterSeal hlaterGap
    · exact .inr (htaken.run hlaterGap hsecret)

end

/-! ## Credentials -/

/-- A credential: its own pass hides the secret that its head and its gap announce, and the passes
before do not touch the head. -/
structure Credential where
  head : List Char
  gap : List Char
  earlier : List Pass
  own : Pass
  later : List Pass
  gaps : ∀ pass ∈ earlier ++ own :: later, Gap pass gap
  seals : ∀ pass ∈ earlier, Seal pass head
  arrives : Head own.leads own.ends head
  bare : substitute own.rule head = head
  announced : ∃ lead, own.leads lead ∧ lead.text = head ++ gap
  unmarked : ¬ mark <:+ head ∧ ¬ head <:+ mark

namespace Credential

variable (credential : Credential) {secret : List Char}

/-- All passes. -/
def passes : List Pass := credential.earlier ++ credential.own :: credential.later

/-- The text up to the head, when the own pass has gone over it. -/
def approach (before : List Char) : List Char :=
  passed (credential.earlier ++ [credential.own]) (before ++ credential.head)

/-- The secret stands right behind the head, or the head comes through to its own pass. -/
def Stands (before : List Char) : Prop :=
  credential.gap = [] ∨ credential.head <:+ credential.approach before

/-- The own pass hides a secret behind the head. -/
theorem disjoint_own (hsecret : Strange secret)
    (hdisjoint : secret.Disjoint (credential.head ++ credential.gap)) {behind : List Char}
    (hbehind : secret.Disjoint behind) :
    secret.Disjoint (substitute credential.own.rule
      (credential.head ++ (credential.gap ++ (secret ++ behind)))) := by
  obtain ⟨lead, hlead, htext⟩ := credential.announced
  obtain ⟨run, rest, rfl, hvalue, hrest⟩ := hsecret.exists_behind credential.own hbehind
  have hfound : Found credential.own.leads credential.own.ends
      (credential.head ++ (credential.gap ++ (secret ++ (run ++ rest)))) lead (secret ++ run)
        rest :=
    { leads := hlead
      split := by rw [htext]; simp only [List.append_assoc]
      ne_nil := List.append_ne_nil_of_left_ne_nil hsecret.ne_nil run
      goesOn := hvalue.goesOn
      complete := hvalue.complete }
  -- The word of the lead stands in the head, which has nothing of the secret.
  have hword : secret.Disjoint lead.word := fun c hc hmem =>
    hdisjoint hc (htext ▸ List.mem_append_left _ hmem)
  rw [credential.own.hides.substitute_found hfound, Lead.shown, List.append_assoc,
    ← List.append_assoc lead.label, List.disjoint_append_right, List.disjoint_append_right]
  exact ⟨hword, hsecret.disjoint_written lead, hsecret.disjoint_substitute credential.own hrest⟩

/-- A text that ends with a mark does not end with the head. -/
theorem not_head_suffix (front : List Char) : ¬ credential.head <:+ front ++ mark := by
  intro hsuffix
  rcases List.suffix_or_suffix_of_suffix hsuffix (List.suffix_append front mark) with hin | hover
  · exact credential.unmarked.2 hin
  · exact credential.unmarked.1 hover

/-- The own pass hides the secret, unless the head has been taken until then. -/
theorem hidden_or_taken (hsecret : Strange secret)
    (hdisjoint : secret.Disjoint (credential.head ++ credential.gap)) {before after : List Char}
    (hbefore : secret.Disjoint before) (hafter : secret.Disjoint after) :
    (credential.head <:+ credential.approach before ∧
      secret.Disjoint (passed (credential.earlier ++ [credential.own])
        (before ++ (credential.head ++ (credential.gap ++ (secret ++ after)))))) ∨
    Taken credential.gap secret (credential.approach before)
      (passed (credential.earlier ++ [credential.own])
        (before ++ (credential.head ++ (credential.gap ++ (secret ++ after))))) := by
  have hgaps := credential.gaps
  rw [List.forall_mem_append, List.forall_mem_cons] at hgaps
  obtain ⟨hearlier, hown, -⟩ := hgaps
  have hstart : Placed credential.head credential.gap secret (before ++ credential.head)
      (before ++ (credential.head ++ (credential.gap ++ (secret ++ after)))) :=
    ⟨before, after, rfl, rfl,
      List.disjoint_append_right.2 ⟨hbefore, (List.disjoint_append_right.1 hdisjoint).1⟩, hafter⟩
  simp only [approach, passed_append]
  -- The passes before the own one leave the head alone, unless a match takes it.
  rcases hstart.run credential.seals hearlier hsecret with hplaced | htaken
  · refine (hplaced.pass_cases credential.arrives hown hsecret).imp_left ?_
    rintro ⟨written, behind, harrived, hfull, hbehind⟩
    have hwritten := hsecret.disjoint_substitute credential.own hplaced.disjoint
    rw [harrived, List.disjoint_append_right] at hwritten
    refine ⟨⟨written, ?_⟩, ?_⟩
    · rw [passed_cons, harrived, credential.bare]
      rfl
    · rw [passed_cons, hfull]
      exact List.disjoint_append_right.2
        ⟨hwritten.1, credential.disjoint_own hsecret hdisjoint hbehind⟩
  · exact .inr (htaken.step hown hsecret)

/-- If the head stands, the passes leave nothing of the secret; if not, they leave all of it. -/
theorem hidden_or_exposed (hsecret : Strange secret)
    (hdisjoint : secret.Disjoint (credential.head ++ credential.gap)) {before after : List Char}
    (hbefore : secret.Disjoint before) (hafter : secret.Disjoint after) :
    (credential.Stands before ∧ secret.Disjoint (passed credential.passes
      (before ++ (credential.head ++ (credential.gap ++ (secret ++ after)))))) ∨
    (¬ credential.Stands before ∧ secret <:+: passed credential.passes
      (before ++ (credential.head ++ (credential.gap ++ (secret ++ after))))) := by
  have hlater : ∀ pass ∈ credential.later, Gap pass credential.gap := fun pass hpass =>
    credential.gaps pass (List.mem_append_right _ (List.mem_cons_of_mem _ hpass))
  have hpasses : credential.passes =
      credential.earlier ++ [credential.own] ++ credential.later := by
    rw [passes, List.append_assoc, List.singleton_append]
  rw [hpasses, passed_append]
  -- The passes behind the own one keep what has been reached.
  rcases credential.hidden_or_taken hsecret hdisjoint hbefore hafter with
    ⟨hstands, hhidden⟩ | htaken
  · exact .inl ⟨.inr hstands, hsecret.disjoint_passed credential.later hhidden⟩
  · have hrun := htaken.run hlater hsecret
    cases htaken with
    | hidden joined disjoint =>
      exact .inl ⟨.inl joined, hsecret.disjoint_passed credential.later disjoint⟩
    | exposed apart placed =>
      refine .inr ⟨?_, ?_⟩
      -- The text up to the head ends with a mark now, and so not with the head.
      · obtain ⟨front, _, happroach, -⟩ := placed
        refine not_or.2 ⟨apart, ?_⟩
        rw [happroach]
        exact credential.not_head_suffix front
      · cases hrun with
        | hidden joined => exact absurd joined apart
        | exposed _ placed =>
          obtain ⟨front, behind, -, hfull, -⟩ := placed
          rw [hfull]
          exact ⟨front ++ mark ++ credential.gap, behind, by simp⟩

end Credential

end Deskhand.Text.Redaction
