/-
  Deskhand.Proofs.Redaction.QueryKeys

  Keys in the query of a URL.

  A key that a URL carries in its query has no influence on what is logged: the first rule hides it
  whole, whether its match starts at the key or at an earlier one that runs into it, and the other
  rules see what the first one has left. What stands before or behind the key does not matter, nor
  does a key that looks like another credential.
-/

import Deskhand.Proofs.Redaction.Passes

namespace Deskhand.Text.Redaction

/-- The beginning of a key is a head: no other beginning reaches over it, for none has a question
mark or an ampersand inside. -/
theorem head_queryLead {c : Char} (hc : c = '?' ∨ c = '&') :
    Head QueryLead endsValue (queryLead c hc).text where
  ne_nil := List.cons_ne_nil _ _
  goesOn := by
    have htail : ∀ d ∈ "key=".toList, endsValue d = false :=
      List.forall_iff_forall_mem.1 (by decide)
    exact htail
  sealed := by
    intro lead hlead q t hq heq
    -- Such a beginning has its sign in front and nowhere else.
    obtain ⟨d, hd, rfl⟩ := hlead.exists_eq
    obtain ⟨e, q, rfl⟩ := List.exists_cons_of_ne_nil hq
    rw [text_queryLead, text_queryLead, List.cons_append] at heq
    have hinside : c ∈ "key=".toList := by
      rw [(List.cons.inj heq).2]
      exact List.mem_append_right q List.mem_cons_self
    rcases hc with rfl | rfl <;> exact absurd hinside (by decide)

/-- Two keys are redacted alike, whatever stands around them. -/
theorem redact_queryKey_congr (before : String) {separator : String}
    (hseparator : separator = "?" ∨ separator = "&") {first second after : String}
    (hfirst : first ≠ "") (hsecond : second ≠ "")
    (hfirstKey : ∀ c ∈ first.toList, endsValue c = false)
    (hsecondKey : ∀ c ∈ second.toList, endsValue c = false)
    (hafter : ∀ c ∈ after.toList.head?, endsValue c = true) :
    redact (before ++ separator ++ "key=" ++ first ++ after) =
      redact (before ++ separator ++ "key=" ++ second ++ after) := by
  obtain ⟨c, hc, hchars⟩ : ∃ c, ∃ hc : c = '?' ∨ c = '&',
      separator.toList ++ "key=".toList = (queryLead c hc).text := by
    rcases hseparator with rfl | rfl
    · exact ⟨'?', .inl rfl, rfl⟩
    · exact ⟨'&', .inr rfl, rfl⟩
  have hpass := hides_queryKey.substitute_value_congr (queryLead_leads hc) (head_queryLead hc)
    (by simpa using hfirst) (by simpa using hsecond) ⟨hfirstKey, hafter⟩ ⟨hsecondKey, hafter⟩
    before.toList
  rw [← hchars] at hpass
  -- The first of the five passes makes the texts equal, and the others see no difference.
  simp only [redact, redactChars, rules, List.foldl_cons, String.toList_append, List.append_assoc]
  rw [List.append_assoc, List.append_assoc] at hpass
  rw [hpass]

/-- The key of one URL runs into another one, and looks like a token and like a further key. -/
theorem redact_queryKey_congr_lookalikes :
    let before := "GET /?key=a"
    let first := "token:b?key=c"
    let second := "e"
    let after := "&alt=json token: d"
    first ≠ "" ∧ second ≠ "" ∧ (∀ c ∈ first.toList, endsValue c = false) ∧
      (∀ c ∈ second.toList, endsValue c = false) ∧ (∀ c ∈ after.toList.head?, endsValue c = true) ∧
      redact (before ++ "?" ++ "key=" ++ first ++ after) =
        redact (before ++ "?" ++ "key=" ++ second ++ after) := by
  intro before first second after
  have hfirst : first ≠ "" := by decide
  have hsecond : second ≠ "" := by decide
  have hfirstKey : ∀ c ∈ first.toList, endsValue c = false :=
    List.forall_iff_forall_mem.1 (by decide)
  have hsecondKey : ∀ c ∈ second.toList, endsValue c = false :=
    List.forall_iff_forall_mem.1 (by decide)
  have hafter : ∀ c ∈ after.toList.head?, endsValue c = true := by
    have hhead : after.toList.head? = some '&' := by decide
    rw [hhead]
    rintro c ⟨⟩
    rfl
  exact ⟨hfirst, hsecond, hfirstKey, hsecondKey, hafter,
    redact_queryKey_congr before (.inl rfl) hfirst hsecond hfirstKey hsecondKey hafter⟩

end Deskhand.Text.Redaction
