/-
  Deskhand.Proofs.Text.Literals

  Texts between quotes.

  Behind an opening quote a backslash takes the next character with it, and the first quote that is
  not taken so closes the literal. Every text behind an opening quote therefore has exactly one
  beginning that lies inside the literal, and behind it stands the closing quote, the end of the
  text, or a last backslash that has nothing to take.

  Which characters a backslash may take is a parameter, since not every reader lets it take all.
-/

namespace Deskhand.Text

/-- A text without a quote of its own: its backslashes, each with an allowed character behind it,
hide the quotes that are in it. -/
inductive Enclosed (allowed : Char → Prop) : List Char → Prop where
  | nil : Enclosed allowed []
  | plain {c : Char} {behind : List Char} (notQuote : c ≠ '"') (notBackslash : c ≠ '\\')
      (enclosed : Enclosed allowed behind) : Enclosed allowed (c :: behind)
  | escape {c : Char} {behind : List Char} (taken : allowed c)
      (enclosed : Enclosed allowed behind) : Enclosed allowed ('\\' :: c :: behind)

/-- A literal: a text without a quote of its own between two quotes. -/
def Literal (allowed : Char → Prop) (s : List Char) : Prop :=
  ∃ body, Enclosed allowed body ∧ s = '"' :: (body ++ ['"'])

/-- Where a literal breaks off for which no closing quote comes: at the end of the text, or at a
last backslash. -/
inductive BreaksOff : List Char → Prop where
  | nil : BreaksOff []
  | backslash : BreaksOff ['\\']

/-- What stands behind all that is inside a literal. -/
inductive Stops : List Char → Prop where
  | quote (rest : List Char) : Stops ('"' :: rest)
  | breaksOff {s : List Char} (h : BreaksOff s) : Stops s

theorem Enclosed.append_plain {allowed : Char → Prop} {plain behind : List Char}
    (h : Enclosed allowed behind) (hplain : ∀ c ∈ plain, c ≠ '"' ∧ c ≠ '\\') :
    Enclosed allowed (plain ++ behind) := by
  induction plain with
  | nil => exact h
  | cons c plain ih =>
    obtain ⟨hquote, hbackslash⟩ := hplain c List.mem_cons_self
    exact .plain hquote hbackslash (ih fun d hd => hplain d (List.mem_cons_of_mem c hd))

/-- Where a literal stops, nothing is inside it any more. -/
theorem Enclosed.eq_nil_of_stops {allowed : Char → Prop} {body rest : List Char}
    (hbody : Enclosed allowed body) (h : Stops (body ++ rest)) : body = [] := by
  -- The first character of the inside is none at which a literal stops.
  generalize hwhole : body ++ rest = whole at h
  cases hbody with
  | nil => rfl
  | plain notQuote notBackslash _ =>
    cases h with
    | quote => exact absurd (List.cons.inj hwhole).1 notQuote
    | breaksOff hoff =>
      cases hoff with
      | nil => cases hwhole
      | backslash => exact absurd (List.cons.inj hwhole).1 notBackslash
  | escape =>
    cases h with
    | quote => cases hwhole
    | breaksOff hoff => cases hoff <;> cases hwhole

/-- There is only one way to see how far a literal goes. -/
theorem Enclosed.unique {allowed : Char → Prop} {body other s t : List Char}
    (hbody : Enclosed allowed body) (hother : Enclosed allowed other) (hs : Stops s)
    (ht : Stops t) (h : body ++ s = other ++ t) : body = other ∧ s = t := by
  induction hbody generalizing other with
  | nil =>
    -- The other one has to be empty, too.
    rw [List.nil_append] at h
    subst h
    obtain rfl := hother.eq_nil_of_stops hs
    exact ⟨rfl, rfl⟩
  | @plain c behind notQuote notBackslash enclosed ih =>
    cases hother with
    | nil =>
      rw [List.nil_append] at h
      subst h
      cases (Enclosed.plain notQuote notBackslash enclosed).eq_nil_of_stops ht
    | plain _ _ hbehind =>
      obtain ⟨rfl, hrest⟩ := List.cons.inj h
      obtain ⟨rfl, rfl⟩ := ih hbehind hrest
      exact ⟨rfl, rfl⟩
    | escape _ _ => exact absurd (List.cons.inj h).1 notBackslash
  | @escape c behind taken enclosed ih =>
    cases hother with
    | nil =>
      rw [List.nil_append] at h
      subst h
      cases (Enclosed.escape taken enclosed).eq_nil_of_stops ht
    | plain _ notBackslash _ => exact absurd (List.cons.inj h).1.symm notBackslash
    | escape _ hbehind =>
      obtain ⟨rfl, hrest⟩ := List.cons.inj (List.cons.inj h).2
      obtain ⟨rfl, rfl⟩ := ih hbehind hrest
      exact ⟨rfl, rfl⟩

/-- Every text goes on inside a literal up to a stop, if backslashes may take any character. -/
theorem exists_enclosed_append (s : List Char) :
    ∃ body rest, s = body ++ rest ∧ Enclosed (fun _ => True) body ∧ Stops rest := by
  induction hn : s.length using Nat.strongRecOn generalizing s with
  | ind n ih =>
    subst hn
    cases s with
    | nil => exact ⟨[], [], rfl, .nil, .breaksOff .nil⟩
    | cons c s =>
      by_cases hquote : c = '"'
      · exact ⟨[], c :: s, rfl, .nil, hquote ▸ .quote s⟩
      by_cases hbackslash : c = '\\'
      · subst hbackslash
        cases s with
        | nil => exact ⟨[], ['\\'], rfl, .nil, .breaksOff .backslash⟩
        | cons d s =>
          have hshorter : s.length < ('\\' :: d :: s).length := by
            simp only [List.length_cons]
            omega
          obtain ⟨body, rest, rfl, hbody, hrest⟩ := ih s.length hshorter s rfl
          exact ⟨'\\' :: d :: body, rest, rfl, .escape trivial hbody, hrest⟩
      · obtain ⟨body, rest, rfl, hbody, hrest⟩ := ih s.length (Nat.lt_succ_self _) s rfl
        exact ⟨c :: body, rest, rfl, .plain hquote hbackslash hbody, hrest⟩

end Deskhand.Text
