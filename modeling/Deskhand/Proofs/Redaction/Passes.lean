/-
  Deskhand.Proofs.Redaction.Passes

  A pass over a text in parts.

  What a pass of a redaction rule does to a text is told by what it does to the parts. The text is
  cut in front of a *head*, such as the name of a secret, which stands before a value and the rest.
  A match that starts before the head ends before it, or it takes the head for a secret and then
  takes the whole value with it; which of the two it is depends on nothing that stands behind the
  head. So the passes over all texts with the same beginning go alike.

  For this no lead may reach from the text before the head over the whole head.
-/

import Deskhand.Proofs.Redaction.Leads
import Deskhand.Proofs.Text.Substitution

namespace Deskhand.Text.Redaction

/-! ## Characters -/

/-- What the rules write of their own. -/
def ink : List Char := "=: Bearer".toList ++ mark

variable {rule : Rule} {leads : Lead → Prop} {ends : Char → Bool}

theorem Hides.substitute_found (h : Hides rule leads ends) {s secret rest : List Char} {lead : Lead}
    (hfound : Found leads ends s lead secret rest) :
    substitute rule s = lead.shown ++ (mark ++ substitute rule rest) := by
  have hmatch := (h s _ _).2 ⟨lead, secret, rest, hfound, rfl, rfl⟩
  have hne : lead.text ++ secret ≠ [] := List.append_ne_nil_of_right_ne_nil _ hfound.ne_nil
  rw [hfound.split, ← List.append_assoc] at hmatch ⊢
  rw [substitute_of_match hne hmatch, List.append_assoc]

/-- Where nothing matches, the first character is copied. -/
theorem Hides.substitute_not_found (h : Hides rule leads ends) {c : Char} {s : List Char}
    (hnone : ∀ lead secret rest, ¬ Found leads ends (c :: s) lead secret rest) :
    substitute rule (c :: s) = c :: substitute rule s := by
  cases hmatch : rule (c :: s) with
  | none => exact substitute_cons hmatch
  | some written =>
    obtain ⟨lead, secret, rest, hfound, -, -⟩ := (h _ written.1 written.2).1 hmatch
    exact absurd hfound (hnone lead secret rest)

/-- A pass keeps what holds of all characters, if it holds of what the rules write. -/
theorem Hides.forall_mem_substitute (h : Hides rule leads ends) {P : Char → Prop}
    (hink : ∀ c ∈ ink, P c) {s : List Char} (hs : ∀ c ∈ s, P c) : ∀ c ∈ substitute rule s, P c := by
  refine forall_mem_substituteFrom (fun {t text used} hmatch ht => ?_) hs
  obtain ⟨lead, secret, rest, hfound, rfl, -⟩ := (h t text used).1 hmatch
  have hword : ∀ c ∈ lead.word, P c := by
    intro c hc
    refine ht c ?_
    rw [hfound.split]
    exact List.mem_append_left _ (List.mem_append_left _ hc)
  simp only [Lead.shown, List.forall_mem_append]
  exact ⟨⟨hword, fun c hc => hink c (List.mem_append_left _ (lead.label_plain hc))⟩,
    fun c hc => hink c (List.mem_append_right _ hc)⟩

/-- A lead needs a sign, and a secret behind it. -/
theorem Found.false_of_lastSign {s secret rest : List Char} {sign : Char} {lead : Lead}
    (hs : ∀ c ∈ s, isSign c = false) (h : Found leads ends (s ++ [sign]) lead secret rest) :
    False := by
  -- The last character of the text is the only sign.
  have hnotMem : lead.separator ∉ s := by
    intro hmem
    exact absurd lead.isSign_separator (by simp [hs _ hmem])
  have hsplit : s ++ sign :: [] =
      lead.word ++ lead.pad ++ lead.separator :: (lead.more ++ (secret ++ rest)) := by
    rw [h.split, Lead.text]
    simp only [List.append_assoc, List.cons_append]
  rw [List.append_cons_inj_of_notMem hnotMem List.not_mem_nil] at hsplit
  obtain ⟨-, -, hnil⟩ := hsplit
  simp only [List.nil_eq, List.append_eq_nil_iff] at hnil
  exact h.ne_nil hnil.2.1

/-- A pass leaves a text as it is that has no sign before its end. -/
theorem Hides.substitute_lastSign (h : Hides rule leads ends) {s : List Char}
    (hs : ∀ c ∈ s, isSign c = false) (sign : Char) :
    substitute rule (s ++ [sign]) = s ++ [sign] := by
  induction s with
  | nil => exact h.substitute_not_found fun _ _ _ hfound => hfound.false_of_lastSign hs
  | cons c s ih =>
    have hnone : ∀ lead secret rest, ¬ Found leads ends (c :: (s ++ [sign])) lead secret rest :=
      fun lead secret rest hfound => Found.false_of_lastSign (s := c :: s) hs hfound
    have hrest := ih fun d hd => hs d (List.mem_cons_of_mem c hd)
    rw [List.cons_append, h.substitute_not_found hnone, hrest]

/-! ## Matches before a head -/

/-- A head in front of which a text can be cut. All but its first character may stand in a secret,
and no lead reaches over it. -/
structure Head (leads : Lead → Prop) (ends : Char → Bool) (head : List Char) : Prop where
  ne_nil : head ≠ []
  goesOn : ∀ c ∈ head.tail, ends c = false
  sealed : ∀ lead, leads lead → ∀ q t, q ≠ [] → lead.text ≠ q ++ (head ++ t)

/-- What stands behind a head: a value that may stand in a secret, and a rest that may not. -/
structure Behind (ends : Char → Bool) (value rest : List Char) : Prop where
  goesOn : ∀ c ∈ value, ends c = false
  complete : ∀ c ∈ rest.head?, ends c = true

/-- How a match goes that starts before a head: it ends before the head, or it takes for its secret
what is left of the text up to the end of the head. -/
inductive Reaches (leads : Lead → Prop) (ends : Char → Bool) (q head : List Char) (lead : Lead) :
    Prop where
  | within (secret q' : List Char) (announced : leads lead)
      (split : q = lead.text ++ (secret ++ q')) (ne_nil : secret ≠ [])
      (goesOn : ∀ c ∈ secret, ends c = false)
      (complete : ∀ c ∈ (q' ++ head).head?, ends c = true)
  | beyond (part : List Char) (announced : leads lead) (split : q ++ head = lead.text ++ part)
      (ne_nil : part ≠ []) (goesOn : ∀ c ∈ part, ends c = false)

theorem head?_append_append {head : List Char} (hne : head ≠ []) (q t : List Char) :
    (q ++ (head ++ t)).head? = (q ++ head).head? := by
  have hfront : q ++ head ≠ [] := List.append_ne_nil_of_right_ne_nil q hne
  rw [← List.append_assoc, List.head?_append_of_ne_nil _ hfront]

theorem Head.forall_goesOn {head front part : List Char} (h : Head leads ends head)
    (hsplit : head = front ++ part) (hfirst : ∀ c ∈ part.head?, ends c = false) :
    ∀ c ∈ part, ends c = false := by
  -- The rest of the head may stand in a secret whatever it begins with.
  cases part with
  | nil => simp
  | cons c others =>
    intro d hd
    rcases List.mem_cons.1 hd with rfl | hothers
    · exact hfirst d rfl
    · refine h.goesOn d ?_
      rw [hsplit]
      cases front with
      | nil => exact hothers
      | cons e front => exact List.mem_append_right front (List.mem_cons_of_mem c hothers)

theorem forall_mem_head?_of_append_eq {secret part before after rest : List Char}
    (hpart : part ≠ []) (hgoesOn : ∀ c ∈ secret, ends c = false) (hsecret : secret = before ++ part)
    (hsplit : part ++ after = rest) : ∀ c ∈ rest.head?, ends c = false := by
  intro c hc
  rw [← hsplit, List.head?_append_of_ne_nil _ hpart] at hc
  exact hgoesOn c (hsecret ▸ List.mem_append_right before (List.mem_of_mem_head? hc))

/-- Whatever stands behind the head, a match that starts before the head goes in one of the two
ways. -/
theorem Found.reaches {q head value rest secret after : List Char} {lead : Lead}
    (hfound : Found leads ends (q ++ (head ++ (value ++ rest))) lead secret after) (hq : q ≠ [])
    (hhead : Head leads ends head) : Reaches leads ends q head lead := by
  obtain ⟨hlead, hsplit, hne, hgoesOn, hcomplete⟩ := hfound
  rw [← List.append_assoc] at hsplit
  -- Either the lead reaches over the head, or it ends in front of it or inside.
  rcases List.append_eq_append_iff.1 hsplit with ⟨t, htext, -⟩ | ⟨part, htext, hsecret⟩
  · exact absurd (by rw [htext, List.append_assoc]) (hhead.sealed lead hlead q t hq)
  · rcases List.append_eq_append_iff.1 htext with ⟨front, hfront, hback⟩ | ⟨q', hq', hpart⟩
    · -- The lead ends in the head, and the secret begins there.
      have hpart : part ≠ [] := by
        rintro rfl
        refine hhead.sealed lead hlead q [] hq ?_
        rw [hfront, hback]
        simp
      have hfirst :=
        forall_mem_head?_of_append_eq hne hgoesOn (List.nil_append secret).symm hsecret
      rw [List.head?_append_of_ne_nil _ hpart] at hfirst
      exact .beyond part hlead htext hpart (hhead.forall_goesOn hback hfirst)
    · -- The lead ends before the head; so does the secret, or it takes the head with it.
      subst hpart
      rw [List.append_assoc] at hsecret
      rcases List.append_eq_append_iff.1 hsecret with ⟨q'', hwithin, hafter⟩ | ⟨more, hover, hmore⟩
      · subst hwithin
        refine .within secret q'' hlead hq' hne hgoesOn ?_
        rw [hafter, head?_append_append hhead.ne_nil] at hcomplete
        exact hcomplete
      -- The secret ends exactly with the text before the head, or goes on into the head.
      · by_cases hmoreNil : more = []
        · subst hmoreNil
          rw [List.append_nil] at hover
          subst hover
          refine .within secret [] hlead (by rw [hq', List.append_nil]) hne hgoesOn ?_
          rw [List.nil_append] at hmore
          rw [← hmore, List.head?_append_of_ne_nil _ hhead.ne_nil] at hcomplete
          exact hcomplete
        · have hfirst := forall_mem_head?_of_append_eq hmoreNil hgoesOn hover hmore.symm
          rw [List.head?_append_of_ne_nil _ hhead.ne_nil] at hfirst
          refine .beyond (q' ++ head) hlead htext
            (List.append_ne_nil_of_right_ne_nil q' hhead.ne_nil) ?_
          rw [List.forall_mem_append]
          exact ⟨fun d hd => hgoesOn d (hover ▸ List.mem_append_left _ hd),
            hhead.forall_goesOn (List.nil_append head).symm hfirst⟩

/-- A match that ends before the head is the same whatever stands behind the head. -/
theorem found_within {q head secret q' : List Char} {lead : Lead} (hlead : leads lead)
    (hsplit : q = lead.text ++ (secret ++ q')) (hne : secret ≠ [])
    (hgoesOn : ∀ c ∈ secret, ends c = false) (hhead : head ≠ [])
    (hcomplete : ∀ c ∈ (q' ++ head).head?, ends c = true) (t : List Char) :
    Found leads ends (q ++ (head ++ t)) lead secret (q' ++ (head ++ t)) := by
  refine ⟨hlead, by rw [hsplit]; simp only [List.append_assoc], hne, hgoesOn, ?_⟩
  rwa [head?_append_append hhead]

/-- A match that takes the head takes the value with it. -/
theorem found_beyond {q head part value rest : List Char} {lead : Lead} (hlead : leads lead)
    (hsplit : q ++ head = lead.text ++ part) (hne : part ≠ [])
    (hgoesOn : ∀ c ∈ part, ends c = false) (hbehind : Behind ends value rest) :
    Found leads ends (q ++ (head ++ (value ++ rest))) lead (part ++ value) rest where
  leads := hlead
  split := by
    rw [← List.append_assoc, hsplit]
    simp only [List.append_assoc]
  ne_nil := List.append_ne_nil_of_left_ne_nil hne value
  goesOn := List.forall_mem_append.2 ⟨hgoesOn, hbehind.goesOn⟩
  complete := hbehind.complete

theorem behind_nil : Behind ends [] [] := ⟨by simp, by simp⟩

/-! ## Passes over texts with the same beginning -/

/-- How the passes over all texts with a beginning and a head go: each comes to the head, or in each
a match takes the head and the value behind it. The text may also end with the head. -/
inductive Alike (rule : Rule) (ends : Char → Bool) (head before : List Char) : Prop where
  | arrive (written : List Char)
      (alone : substitute rule (before ++ head) = written ++ substitute rule head)
      (all : ∀ value rest, Behind ends value rest →
        substitute rule (before ++ (head ++ (value ++ rest))) =
          written ++ substitute rule (head ++ (value ++ rest)))
  | take (written : List Char)
      (alone : substitute rule (before ++ head) = written ++ mark)
      (all : ∀ value rest, Behind ends value rest →
        substitute rule (before ++ (head ++ (value ++ rest))) =
          written ++ (mark ++ substitute rule rest))

/-- Passes that write the same and then go alike go alike. -/
theorem Alike.prepend {head before later : List Char} (h : Alike rule ends head later)
    (first : List Char) (hfirst : ∀ t, substitute rule (before ++ (head ++ t)) =
      first ++ substitute rule (later ++ (head ++ t))) : Alike rule ends head before := by
  have halone := hfirst []
  rw [List.append_nil] at halone
  cases h with
  | arrive written alone all =>
    refine .arrive (first ++ written) (by rw [halone, alone, List.append_assoc]) ?_
    intro value rest hbehind
    rw [hfirst, all value rest hbehind, List.append_assoc]
  | take written alone all =>
    refine .take (first ++ written) (by rw [halone, alone, List.append_assoc]) ?_
    intro value rest hbehind
    rw [hfirst, all value rest hbehind, List.append_assoc]

theorem Hides.alike (h : Hides rule leads ends) {head : List Char} (hhead : Head leads ends head)
    (before : List Char) : Alike rule ends head before := by
  -- A match uses up its whole secret, so the induction is on the length of what is left.
  induction hlength : before.length using Nat.strongRecOn generalizing before with
  | ind n ih =>
  cases before with
  | nil => exact .arrive [] rfl fun _ _ _ => rfl
  | cons c others =>
    by_cases hreaches : ∃ lead, Reaches leads ends (c :: others) head lead
    · obtain ⟨lead, hreach⟩ := hreaches
      cases hreach with
      | within secret later hlead hsplit hne hgoesOn hcomplete =>
        have hless : later.length < n := by
          have hpos := List.length_pos_iff.2 hne
          rw [← hlength, hsplit, List.length_append, List.length_append]
          omega
        refine (ih later.length hless later rfl).prepend (lead.shown ++ mark) fun t => ?_
        rw [h.substitute_found (found_within hlead hsplit hne hgoesOn hhead.ne_nil hcomplete t),
          List.append_assoc]
      | beyond part hlead hsplit hne hgoesOn =>
        refine .take lead.shown ?_ fun value rest hbehind => ?_
        · have halone := h.substitute_found (found_beyond hlead hsplit hne hgoesOn behind_nil)
          simpa [substitute] using halone
        · exact h.substitute_found (found_beyond hlead hsplit hne hgoesOn hbehind)
    · -- No match starts here, in none of the texts.
      have hless : others.length < n := by
        rw [← hlength, List.length_cons]
        omega
      refine (ih others.length hless others rfl).prepend [c] fun t => ?_
      refine h.substitute_not_found fun lead secret after hfound => hreaches ⟨lead, ?_⟩
      rw [← List.append_nil t] at hfound
      exact hfound.reaches (List.cons_ne_nil c others) hhead

/-- Behind a lead that is a head the value has no influence on what is written. -/
theorem Hides.substitute_value_congr (h : Hides rule leads ends) {lead : Lead} (hlead : leads lead)
    (hhead : Head leads ends lead.text) {first second rest : List Char} (hfirst : first ≠ [])
    (hsecond : second ≠ []) (hfirstBehind : Behind ends first rest)
    (hsecondBehind : Behind ends second rest) (before : List Char) :
    substitute rule (before ++ (lead.text ++ (first ++ rest))) =
      substitute rule (before ++ (lead.text ++ (second ++ rest))) := by
  have hhidden : ∀ {value : List Char}, value ≠ [] → Behind ends value rest →
      substitute rule (lead.text ++ (value ++ rest)) =
        lead.shown ++ (mark ++ substitute rule rest) := fun hne hbehind =>
    h.substitute_found ⟨hlead, rfl, hne, hbehind.goesOn, hbehind.complete⟩
  cases h.alike hhead before with
  | arrive written _ all =>
    rw [all first rest hfirstBehind, all second rest hsecondBehind, hhidden hfirst hfirstBehind,
      hhidden hsecond hsecondBehind]
  | take written _ all => rw [all first rest hfirstBehind, all second rest hsecondBehind]

end Deskhand.Text.Redaction
