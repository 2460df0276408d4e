/-
  Deskhand.Proofs.Redaction.Leads

  What announces a secret.

  Each of the redaction rules matches a *lead* and the secret behind it. A lead is a word, blanks, a
  colon or an equals sign, and whatever else stands before the secret; the secret is a whole run of
  characters of which none ends a secret. The rule writes the word, what it puts behind the word,
  and the mark. So the five rules differ in their leads and in what ends a secret, and in nothing
  else.

  Of the signs that a text may hold, a lead has just the one that separates its word from the rest.
-/

import Deskhand.Proofs.Redaction.Words

namespace Deskhand.Text.Redaction

/-! ## Cutting -/

/-- Dropping cuts a text where the first run of characters to be dropped ends. -/
theorem dropWhile_eq_iff {p : Char → Bool} {s rest : List Char} :
    s.dropWhile p = rest ↔
      ∃ used, s = used ++ rest ∧ (∀ c ∈ used, p c = true) ∧ ∀ c ∈ rest.head?, p c = false := by
  constructor
  · rintro rfl
    refine ⟨s.takeWhile p, List.takeWhile_append_dropWhile.symm,
      List.all_eq_true.1 List.all_takeWhile, fun c hc => ?_⟩
    have hhead := List.head?_dropWhile_not p s
    rw [Option.mem_def.1 hc] at hhead
    simpa using hhead
  · rintro ⟨used, rfl, hused, hrest⟩
    rw [List.dropWhile_append_of_pos hused]
    cases rest with
    | nil => rfl
    | cons c rest => rw [List.dropWhile_cons_of_neg (by simp [hrest c rfl])]

theorem trimLeft_eq_iff {s rest : List Char} :
    trimLeft s = rest ↔
      ∃ pad, s = pad ++ rest ∧ (∀ c ∈ pad, isBlank c = true) ∧
        ∀ c ∈ rest.head?, isBlank c = false :=
  dropWhile_eq_iff

theorem afterSeparator_eq_some_iff {separates : Char → Bool}
    (hseparates : ∀ c, separates c = true → isBlank c = false) {s rest : List Char} :
    afterSeparator separates s = some rest ↔
      ∃ pad c, s = pad ++ c :: rest ∧ (∀ d ∈ pad, isBlank d = true) ∧ separates c = true := by
  constructor
  · intro h
    rw [afterSeparator] at h
    split at h
    · next c behind htrim =>
      split at h
      · next hc =>
        obtain rfl := Option.some.inj h
        obtain ⟨pad, rfl, hpad, -⟩ := trimLeft_eq_iff.1 htrim
        exact ⟨pad, c, rfl, hpad, hc⟩
      · simp at h
    · simp at h
  · rintro ⟨pad, c, rfl, hpad, hc⟩
    -- The separator is no blank, so the blanks end in front of it.
    have htrim : trimLeft (pad ++ c :: rest) = c :: rest :=
      trimLeft_eq_iff.2 ⟨pad, rfl, hpad, by rintro d ⟨⟩; exact hseparates c hc⟩
    rw [afterSeparator, htrim]
    exact if_pos hc

theorem afterSecret_eq_some_iff {s rest : List Char} :
    afterSecret s = some rest ↔
      ∃ secret, s = secret ++ rest ∧ secret ≠ [] ∧ (∀ c ∈ secret, isBlank c = false) ∧
        ∀ c ∈ rest.head?, isBlank c = true := by
  cases s with
  | nil => simp [afterSecret]
  | cons c s =>
    cases hc : isBlank c with
    | true =>
      -- A blank cannot begin a secret.
      simp only [afterSecret, hc, if_true, reduceCtorEq, false_iff]
      rintro ⟨secret, hsplit, hne, hsecret, -⟩
      obtain ⟨d, secret, rfl⟩ := List.exists_cons_of_ne_nil hne
      obtain ⟨rfl, -⟩ := List.cons.inj hsplit
      rw [hsecret c List.mem_cons_self] at hc
      exact Bool.noConfusion hc
    | false =>
      simp only [afterSecret, hc, Bool.false_eq_true, if_false, Option.some.injEq, dropWhile_eq_iff]
      constructor
      · rintro ⟨used, rfl, hused, hrest⟩
        refine ⟨c :: used, rfl, List.cons_ne_nil c used, fun d hd => ?_, by simpa using hrest⟩
        rcases List.mem_cons.1 hd with rfl | hlater
        · exact hc
        · simpa using hused d hlater
      · rintro ⟨secret, hsplit, hne, hsecret, hrest⟩
        obtain ⟨d, secret, rfl⟩ := List.exists_cons_of_ne_nil hne
        obtain ⟨rfl, rfl⟩ := List.cons.inj hsplit
        refine ⟨secret, rfl, fun d hd => ?_, by simpa using hrest⟩
        simp [hsecret d (List.mem_cons_of_mem c hd)]

/-- Blanks in front of a secret are passed over. -/
theorem afterSecret_trimLeft_eq_some_iff {s rest : List Char} :
    afterSecret (trimLeft s) = some rest ↔
      ∃ gap secret, s = gap ++ (secret ++ rest) ∧ (∀ c ∈ gap, isBlank c = true) ∧ secret ≠ [] ∧
        (∀ c ∈ secret, isBlank c = false) ∧ ∀ c ∈ rest.head?, isBlank c = true := by
  rw [afterSecret_eq_some_iff]
  constructor
  · rintro ⟨secret, htrim, hsecret⟩
    obtain ⟨gap, rfl, hgap, -⟩ := trimLeft_eq_iff.1 htrim
    exact ⟨gap, secret, rfl, hgap, hsecret⟩
  · rintro ⟨gap, secret, rfl, hgap, hne, hgoesOn, hcomplete⟩
    refine ⟨secret, trimLeft_eq_iff.2 ⟨gap, rfl, hgap, fun c hc => ?_⟩, hne, hgoesOn, hcomplete⟩
    -- The secret is not empty, so its first character ends the blanks.
    obtain ⟨d, secret, rfl⟩ := List.exists_cons_of_ne_nil hne
    obtain rfl := Option.some.inj hc
    exact hgoesOn d List.mem_cons_self

/-! ## Leads -/

/-- The signs that keep a word apart from what it announces, and the one that a mark ends with. -/
def isSign (c : Char) : Bool := c == ':' || c == '=' || c == ']'

theorem isSign_eq_false_of_isBlank {c : Char} (h : isBlank c = true) : isSign c = false :=
  of_isBlank (P := fun c => isSign c = false) (by decide) h

/-- What announces a secret, and what is written between its word and the mark. -/
structure Lead where
  word : List Char
  pad : List Char
  separator : Char
  more : List Char
  label : List Char
  word_plain : ∀ c ∈ word, isSign c = false
  pad_blank : ∀ c ∈ pad, isBlank c = true
  separates : separator = ':' ∨ separator = '='
  more_plain : ∀ c ∈ more, isSign c = false
  label_plain : label ⊆ "=: Bearer".toList

namespace Lead

/-- The lead as it stands in a text. -/
def text (lead : Lead) : List Char := lead.word ++ (lead.pad ++ lead.separator :: lead.more)

/-- What is left of the lead. -/
def shown (lead : Lead) : List Char := lead.word ++ lead.label

theorem isSign_separator (lead : Lead) : isSign lead.separator = true := by
  rcases lead.separates with h | h <;> rw [h] <;> rfl

theorem eq_of_text_eq {lead : Lead} {front rest : List Char} {sign : Char}
    (hsign : isSign sign = true) (h : lead.text = front ++ sign :: rest) :
    front = lead.word ++ lead.pad ∧ sign = lead.separator ∧ rest = lead.more := by
  have hplain : ∀ {part : List Char}, (∀ c ∈ part, isSign c = false) → sign ∉ part := by
    intro part hpart hmem
    rw [hpart sign hmem] at hsign
    exact Bool.noConfusion hsign
  -- The separator is the only sign, whichever way the lead is cut.
  have hbefore : sign ∉ lead.word ++ lead.pad :=
    hplain (List.forall_mem_append.2
      ⟨lead.word_plain, fun c hc => isSign_eq_false_of_isBlank (lead.pad_blank c hc)⟩)
  have hafter : sign ∉ lead.more := hplain lead.more_plain
  rw [text, ← List.append_assoc, List.append_cons_inj_of_notMem hbefore hafter] at h
  exact ⟨h.1.symm, h.2.1.symm, h.2.2.symm⟩

end Lead

/-- A lead stands in front of a text, followed by a secret that is complete. -/
structure Found (leads : Lead → Prop) (ends : Char → Bool) (s : List Char) (lead : Lead)
    (secret rest : List Char) : Prop where
  leads : leads lead
  split : s = lead.text ++ (secret ++ rest)
  ne_nil : secret ≠ []
  goesOn : ∀ c ∈ secret, ends c = false
  complete : ∀ c ∈ rest.head?, ends c = true

/-- The rule hides what its leads announce, and nothing else. -/
def Hides (rule : Rule) (leads : Lead → Prop) (ends : Char → Bool) : Prop :=
  ∀ s text used, rule s = some (text, used) ↔
    ∃ lead secret rest, Found leads ends s lead secret rest ∧ text = lead.shown ++ mark ∧
      used = (lead.text ++ secret).length

theorem replaced_eq (part rest text : List Char) :
    replaced (part ++ rest) text rest = (text, part.length) := by
  simp [replaced]

/-! ## The rules -/

theorem Spells.isSign_eq_false {letters found : List Char} (h : Spells letters found)
    (hletters : avoids letters [':', '=', ']'] = true) :
    ∀ c ∈ found, isSign c = false := by
  intro c hc
  have hne : ∀ sign ∈ [':', '=', ']'], c ≠ sign := by
    rintro sign hsign rfl
    exact h.notMem_of_avoids hletters c hsign hc
  simp [isSign, hne ':' (by decide), hne '=' (by decide), hne ']' (by decide)]

/-- The leads of a rule that looks for a word, a separator, and something in front of the secret. -/
structure Announces (words : List Char → Prop) (separates : Char → Bool)
    (openings : List Char → Prop) (label : List Char) (lead : Lead) : Prop where
  word : words lead.word
  separator : separates lead.separator = true
  more : openings lead.more
  label : lead.label = label

/-- What such a rule can go by. -/
structure Plain (words : List Char → Prop) (separates : Char → Bool) (openings : List Char → Prop)
    (label : List Char) : Prop where
  word : ∀ found, words found → ∀ c ∈ found, isSign c = false
  separator : ∀ c, separates c = true → c = ':' ∨ c = '='
  more : ∀ more, openings more → ∀ c ∈ more, isSign c = false
  label : label ⊆ "=: Bearer".toList

/-- A rule hides what it announces if its parts find the word and the secret. -/
theorem hides_of_parts {find : List Char → Option (List Char × List Char)}
    {words : List Char → Prop} {separates : Char → Bool}
    {behind : List Char → Option (List Char)} {openings : List Char → Prop} {label : List Char}
    (hplain : Plain words separates openings label) (hfind : Recognizes find words)
    (hbehind : ∀ s rest, behind s = some rest ↔ ∃ more secret, s = more ++ (secret ++ rest) ∧
      openings more ∧ secret ≠ [] ∧ (∀ c ∈ secret, isBlank c = false) ∧
        ∀ c ∈ rest.head?, isBlank c = true) :
    Hides (fun s => do
      let (found, rest) ← find s
      let rest ← afterSeparator separates rest
      let rest ← behind rest
      return replaced s (found ++ label ++ mark) rest)
      (Announces words separates openings label) isBlank := by
  have hseparates : ∀ c, separates c = true → isBlank c = false := by
    intro c hc
    rcases hplain.separator c hc with rfl | rfl <;> rfl
  intro s text used
  simp only [Option.bind_eq_bind, Option.bind_eq_some_iff, Option.pure_def]
  constructor
  -- What the rule finds is a lead with a secret behind it.
  · rintro ⟨⟨found, _⟩, hfound, _, hafter, rest, hrest, hwritten⟩
    obtain ⟨rfl, hword⟩ := (hfind _ _ _).1 hfound
    obtain ⟨pad, c, rfl, hpad, hc⟩ := (afterSeparator_eq_some_iff hseparates).1 hafter
    obtain ⟨more, secret, rfl, hmore, hne, hgoesOn, hcomplete⟩ := (hbehind _ _).1 hrest
    let lead : Lead :=
      { word := found, pad := pad, separator := c, more := more, label := label
        word_plain := hplain.word found hword
        pad_blank := hpad
        separates := hplain.separator c hc
        more_plain := hplain.more more hmore
        label_plain := hplain.label }
    have hsplit : found ++ (pad ++ c :: (more ++ (secret ++ rest))) =
        lead.text ++ secret ++ rest := by
      simp [Lead.text, lead]
    rw [hsplit, replaced_eq] at hwritten
    simp only [Option.some.injEq, Prod.mk.injEq] at hwritten
    obtain ⟨rfl, rfl⟩ := hwritten
    exact ⟨lead, secret, rest, ⟨⟨hword, hc, hmore, rfl⟩, by rw [hsplit, List.append_assoc], hne,
      hgoesOn, hcomplete⟩, rfl, rfl⟩
  -- And a lead with a secret behind it is found part by part.
  · rintro ⟨lead, secret, rest, ⟨⟨hword, hc, hmore, rfl⟩, rfl, hne, hgoesOn, hcomplete⟩, rfl, rfl⟩
    refine ⟨(lead.word, lead.pad ++ lead.separator :: (lead.more ++ (secret ++ rest))),
      (hfind _ _ _).2 ⟨by simp [Lead.text], hword⟩, lead.more ++ (secret ++ rest),
      (afterSeparator_eq_some_iff hseparates).2 ⟨lead.pad, lead.separator, rfl, lead.pad_blank, hc⟩,
      rest, (hbehind _ _).2 ⟨lead.more, secret, rfl, hmore, hne, hgoesOn, hcomplete⟩, ?_⟩
    rw [← List.append_assoc, replaced_eq]
    rfl

theorem blank_nil : ∀ c ∈ ([] : List Char), isBlank c = true := List.forall_mem_nil _

theorem plain_nil : ∀ c ∈ ([] : List Char), isSign c = false := List.forall_mem_nil _

/-! ## Named secrets -/

/-- A colon or an equals sign. -/
def isSeparator (c : Char) : Bool := c == ':' || c == '='

/-- The leads of a rule for named secrets. -/
abbrev NamedLead (words : List Char → Prop) : Lead → Prop :=
  Announces words isSeparator (fun more => ∀ c ∈ more, isBlank c = true) ": ".toList

theorem namedLabel_plain : ": ".toList ⊆ "=: Bearer".toList := by decide

theorem hides_named {find : List Char → Option (List Char × List Char)} {words : List Char → Prop}
    (hfind : Recognizes find words)
    (hwords : ∀ found, words found → ∀ c ∈ found, isSign c = false) :
    Hides (named find) (NamedLead words) isBlank := by
  refine hides_of_parts ⟨hwords, fun c hc => by simpa [isSeparator] using hc,
    fun more hmore c hc => isSign_eq_false_of_isBlank (hmore c hc), namedLabel_plain⟩ hfind
    fun s rest => ?_
  exact afterSecret_trimLeft_eq_some_iff

/-! ## Bearer authorizations -/

/-- The scheme of an authorization, with the blanks around it. -/
def BearerScheme (more : List Char) : Prop :=
  ∃ before name gap, more = before ++ (name ++ gap) ∧ (∀ c ∈ before, isBlank c = true) ∧
    Spells "bearer".toList name ∧ (∀ c ∈ gap, isBlank c = true) ∧ gap ≠ []

/-- The leads of the rule for bearer authorizations. -/
abbrev BearerLead : Lead → Prop :=
  Announces (Spells "authorization".toList) (· == ':') BearerScheme ": Bearer ".toList

/-- The text after the scheme and a secret. -/
def afterScheme (s : List Char) : Option (List Char) :=
  (word "bearer".toList (trimLeft s)).bind fun scheme =>
    if (trimLeft scheme.2).length < scheme.2.length then afterSecret (trimLeft scheme.2) else none

theorem bearer_eq (s : List Char) :
    bearer s = do
      let (found, rest) ← word "authorization".toList s
      let rest ← afterSeparator (· == ':') rest
      let rest ← afterScheme rest
      return replaced s (found ++ ": Bearer ".toList ++ mark) rest := by
  unfold bearer afterScheme
  -- Both read the same parts, only bound in another order.
  simp only [Option.bind_eq_bind, Option.bind_assoc]
  congr 1
  funext ⟨found, rest⟩
  congr 1
  funext rest
  congr 1
  funext ⟨scheme, rest⟩
  simp only
  split <;> rfl

theorem afterScheme_eq_some_iff {s rest : List Char} :
    afterScheme s = some rest ↔
      ∃ more secret, s = more ++ (secret ++ rest) ∧ BearerScheme more ∧ secret ≠ [] ∧
        (∀ c ∈ secret, isBlank c = false) ∧ ∀ c ∈ rest.head?, isBlank c = true := by
  -- Whether there is a blank behind the scheme is seen by the length.
  have htrim : ∀ {gap secret : List Char}, (∀ c ∈ gap, isBlank c = true) → secret ≠ [] →
      (∀ c ∈ secret, isBlank c = false) →
      ((trimLeft (gap ++ (secret ++ rest))).length < (gap ++ (secret ++ rest)).length ↔
        gap ≠ []) := by
    intro gap secret hgap hne hgoesOn
    have hstart := forall_mem_head?_append hne hgoesOn rest
    rw [trimLeft_eq_iff.2 ⟨gap, rfl, hgap, hstart⟩, ← List.length_pos_iff]
    simp only [List.length_append]
    omega
  rw [afterScheme, Option.bind_eq_some_iff]
  constructor
  · rintro ⟨⟨name, back⟩, hfound, h⟩
    obtain ⟨hscheme, hname⟩ := (recognizes_word _ _ _ _).1 hfound
    obtain ⟨before, rfl, hbefore, -⟩ := trimLeft_eq_iff.1 hscheme
    split at h
    · next hshorter =>
      obtain ⟨gap, secret, rfl, hgap, hne, hgoesOn, hcomplete⟩ :=
        afterSecret_trimLeft_eq_some_iff.1 h
      exact ⟨before ++ (name ++ gap), secret, by simp only [List.append_assoc],
        ⟨before, name, gap, rfl, hbefore, hname, hgap, (htrim hgap hne hgoesOn).1 hshorter⟩, hne,
        hgoesOn, hcomplete⟩
    · simp at h
  · rintro ⟨more, secret, rfl, ⟨before, name, gap, rfl, hbefore, hname, hgap, hgapped⟩, hne,
      hgoesOn, hcomplete⟩
    refine ⟨(name, gap ++ (secret ++ rest)), (recognizes_word _ _ _ _).2
      ⟨trimLeft_eq_iff.2 ⟨before, by simp only [List.append_assoc], hbefore, ?_⟩, hname⟩, ?_⟩
    -- The scheme begins with a letter, and not with a blank.
    · have hplain := hname.isBlank_eq_false (by decide)
      exact forall_mem_head?_append (hname.ne_nil (by decide)) hplain _
    · rw [if_pos ((htrim hgap hne hgoesOn).2 hgapped)]
      exact afterSecret_trimLeft_eq_some_iff.2 ⟨gap, secret, rfl, hgap, hne, hgoesOn, hcomplete⟩

theorem bearerLabel_plain : ": Bearer ".toList ⊆ "=: Bearer".toList := by decide

theorem hides_bearer : Hides bearer BearerLead isBlank := by
  rw [funext bearer_eq]
  refine hides_of_parts ⟨fun found hfound => hfound.isSign_eq_false (by decide),
    fun c hc => .inl (by simpa using hc), ?_, bearerLabel_plain⟩
    (recognizes_word _) fun s rest => afterScheme_eq_some_iff
  rintro more ⟨before, name, gap, rfl, hbefore, hname, hgap, -⟩
  simp only [List.forall_mem_append]
  exact ⟨fun c hc => isSign_eq_false_of_isBlank (hbefore c hc),
    hname.isSign_eq_false (by decide), fun c hc => isSign_eq_false_of_isBlank (hgap c hc)⟩

/-! ## Keys in the query of a URL -/

/-- The leads of the rule for keys in the query of a URL. -/
structure QueryLead (lead : Lead) : Prop where
  word : lead.word = "?key".toList ∨ lead.word = "&key".toList
  pad : lead.pad = []
  separator : lead.separator = '='
  more : lead.more = []
  label : lead.label = "=".toList

/-- What ends a key in the query of a URL. -/
def endsValue (c : Char) : Bool := c == '&' || isBlank c

/-- The lead behind a question mark or an ampersand. -/
def queryLead (c : Char) (hc : c = '?' ∨ c = '&') : Lead where
  word := c :: "key".toList
  pad := []
  separator := '='
  more := []
  label := "=".toList
  word_plain := List.forall_iff_forall_mem.1 (by rcases hc with rfl | rfl <;> decide)
  pad_blank := blank_nil
  separates := .inr rfl
  more_plain := plain_nil
  label_plain := by decide

theorem queryLead_leads {c : Char} (hc : c = '?' ∨ c = '&') : QueryLead (queryLead c hc) :=
  ⟨by rcases hc with rfl | rfl <;> simp [queryLead], rfl, rfl, rfl, rfl⟩

theorem QueryLead.exists_eq {lead : Lead} (h : QueryLead lead) :
    ∃ c hc, lead = queryLead c hc := by
  obtain ⟨word, pad, separator, more, label⟩ := lead
  obtain ⟨hword, rfl, rfl, rfl, rfl⟩ := h
  rcases hword with rfl | rfl
  · exact ⟨'?', .inl rfl, rfl⟩
  · exact ⟨'&', .inr rfl, rfl⟩

theorem text_queryLead {c : Char} (hc : c = '?' ∨ c = '&') :
    (queryLead c hc).text = c :: "key=".toList := rfl

theorem shown_queryLead {c : Char} (hc : c = '?' ∨ c = '&') :
    (queryLead c hc).shown = c :: "key=".toList := rfl

/-- The rule in front of a text that it may match. -/
theorem queryKey_eq (c : Char) (rest : List Char) :
    queryKey (c :: "key=".toList ++ rest) =
      if (c = '?' ∨ c = '&') ∧ (rest.dropWhile fun d => !endsValue d).length < rest.length then
        some (replaced (c :: "key=".toList ++ rest) (c :: "key=".toList ++ mark)
          (rest.dropWhile fun d => !endsValue d))
      else none := by
  have hends : (fun d => d != '&' && !isBlank d) = fun d => !endsValue d := by
    funext d
    simp [endsValue, bne]
  rw [← hends]
  rfl

theorem hides_queryKey : Hides queryKey QueryLead endsValue := by
  intro s text used
  constructor
  · intro h
    obtain ⟨c, rest, rfl⟩ : ∃ c rest, s = c :: "key=".toList ++ rest := by
      unfold queryKey at h
      split at h
      · exact ⟨_, _, rfl⟩
      · simp at h
    rw [queryKey_eq] at h
    split at h
    · next hmatch =>
      obtain ⟨hc, hshorter⟩ := hmatch
      -- The secret goes up to the first character that ends it.
      obtain ⟨secret, hrest, hgoesOn, hcomplete⟩ :=
        dropWhile_eq_iff.1 (rfl : rest.dropWhile (fun d => !endsValue d) = _)
      generalize rest.dropWhile (fun d => !endsValue d) = after at h hshorter hrest hcomplete
      subst hrest
      rw [← List.append_assoc, replaced_eq] at h
      simp only [Option.some.injEq, Prod.mk.injEq] at h
      obtain ⟨rfl, rfl⟩ := h
      refine ⟨queryLead c hc, secret, after, ⟨queryLead_leads hc, rfl, ?_, by simpa using hgoesOn,
        by simpa using hcomplete⟩, rfl, rfl⟩
      rintro rfl
      exact absurd hshorter (Nat.lt_irrefl _)
    · simp at h
  · rintro ⟨lead, secret, rest, ⟨hlead, rfl, hne, hgoesOn, hcomplete⟩, rfl, rfl⟩
    obtain ⟨c, hc, rfl⟩ := hlead.exists_eq
    have hdrop : ((secret ++ rest).dropWhile fun d => !endsValue d) = rest :=
      dropWhile_eq_iff.2 ⟨secret, rfl, by simpa using hgoesOn, by simpa using hcomplete⟩
    have hshorter : rest.length < (secret ++ rest).length := by
      have hpos := List.length_pos_iff.2 hne
      rw [List.length_append]
      omega
    rw [text_queryLead, shown_queryLead, queryKey_eq, hdrop, if_pos ⟨hc, hshorter⟩,
      ← List.append_assoc, replaced_eq]

end Deskhand.Text.Redaction
