/-
  Deskhand.Proofs.Command.Coverage

  Nothing is lost between tokens.

  The manual strategy accepts every text. What its tokens leave out of a text are commas and blanks
  alone: a token starts at every other character that no earlier token has taken. A token that
  starts with a quote goes on to its closing quote, whatever commas are on the way; without a
  closing quote, and with any other start, it goes on to the next comma. Cut at its commas, a text
  without quotes gives one token for each piece that is not blank.
-/

import Deskhand.Proofs.Command.Tokens
import Deskhand.Proofs.Text.Literals
import Deskhand.Proofs.Text.Pieces

namespace Deskhand.Command

open Deskhand.Text

/-! ## Single tokens -/

/-- A complete text in quotes. A backslash takes any character with it but a line feed. -/
abbrev Quotation : List Char → Prop := Literal (· ≠ '\n')

/-- What is counted up to a closing quote is inside the quotes. -/
theorem exists_enclosed_of_quotedLength {s : List Char} {n : Nat} (h : quotedLength s = some n) :
    ∃ body rest, Enclosed (· ≠ '\n') body ∧ s = body ++ '"' :: rest ∧ n = body.length + 1 := by
  fun_induction quotedLength s generalizing n with
  | case1 => cases h
  | case2 rest =>
    obtain rfl := Option.some.inj h
    exact ⟨[], rest, .nil, rfl, rfl⟩
  -- A backslash with nothing or a line feed behind it leaves the quotes open.
  | case3 => cases h
  | case4 => cases h
  | case5 c rest hc ih =>
    obtain ⟨m, hm, rfl⟩ := Option.map_eq_some_iff.1 h
    obtain ⟨body, behind, hbody, rfl, rfl⟩ := ih hm
    exact ⟨'\\' :: c :: body, behind, .escape hc hbody, rfl, rfl⟩
  | case6 c rest hquote hbackslash ih =>
    obtain ⟨m, hm, rfl⟩ := Option.map_eq_some_iff.1 h
    obtain ⟨body, behind, hbody, rfl, rfl⟩ := ih hm
    have hescape : c ≠ '\\' := fun heq => hbackslash heq
    exact ⟨c :: body, behind, .plain hquote hescape hbody, rfl, rfl⟩

/-- A token is taken from the front of a text, and has a comma in it only if it is complete in
quotes. -/
structure Leads (token rest : List Char) : Prop where
  ne_nil : token ≠ []
  taken : tokenLength (token ++ rest) = token.length
  quotation : ',' ∈ token → Quotation token

/-- Where a closing quote comes, the token goes up to it. -/
theorem exists_leads_of_quoted {s : List Char} {n : Nat} (h : quotedLength s = some n) :
    ∃ token rest, '"' :: s = token ++ rest ∧ Leads token rest := by
  obtain ⟨body, rest, hbody, rfl, rfl⟩ := exists_enclosed_of_quotedLength h
  have hwhole : '"' :: (body ++ '"' :: rest) = '"' :: (body ++ ['"']) ++ rest := by simp
  refine ⟨'"' :: (body ++ ['"']), rest, hwhole, List.cons_ne_nil _ _, ?_,
    fun _ => ⟨body, hbody, rfl⟩⟩
  rw [← hwhole, tokenLength]
  simp [h, isBlank]

/-- Where no closing quote comes, the token goes up to the next comma. -/
theorem exists_leads_of_unquoted {c : Char} (hstart : ¬ IsSeparator c) {s : List Char}
    (h : c = '"' → quotedLength s = none) :
    ∃ token rest, c :: s = token ++ rest ∧ Leads token rest := by
  have hstarts : ¬ (c = ',' ∨ isBlank c = true) := hstart
  have hsplit : c :: s.takeWhile (· != ',') ++ s.dropWhile (· != ',') = c :: s := by
    rw [List.cons_append, List.takeWhile_append_dropWhile]
  refine ⟨c :: s.takeWhile (· != ','), s.dropWhile (· != ','), hsplit.symm, List.cons_ne_nil _ _,
    ?_, fun hmem => ?_⟩
  · rw [hsplit, tokenLength, List.length_cons, Nat.add_comm]
    by_cases hc : c = '"'
    · -- The quote is an ordinary character of the token.
      simp [h hc, hc, isBlank]
    · simp [hstarts, hc]
  · exfalso
    rcases List.mem_cons.1 hmem with hsame | hlater
    · exact hstart (.inl hsame.symm)
    · have hall := List.all_eq_true.1 (List.all_takeWhile (p := (· != ','))) ',' hlater
      simp at hall

/-- A token starts at every character that is no separator. -/
theorem exists_leads {c : Char} (hstart : ¬ IsSeparator c) (s : List Char) :
    ∃ token rest, c :: s = token ++ rest ∧ Leads token rest := by
  by_cases hc : c = '"'
  · subst hc
    cases hquoted : quotedLength s with
    | none => exact exists_leads_of_unquoted hstart fun _ => hquoted
    | some n => exact exists_leads_of_quoted hquoted
  · exact exists_leads_of_unquoted hstart fun heq => absurd heq hc

/-! ## Covering a text -/

/-- A token and the separators in front of it. -/
structure Cut where
  gap : List Char
  token : List Char

def Cut.chars (cut : Cut) : List Char := cut.gap ++ cut.token

/-- There are only separators in the gap, and the token has a comma in it only if it is complete in
quotes. -/
structure Cut.Clean (cut : Cut) : Prop where
  separators : ∀ c ∈ cut.gap, IsSeparator c
  ne_nil : cut.token ≠ []
  quotation : ',' ∈ cut.token → Quotation cut.token

theorem exists_separators_append (s : List Char) :
    ∃ gap rest, s = gap ++ rest ∧ (∀ c ∈ gap, IsSeparator c) ∧
      ∀ c ∈ rest.head?, ¬ IsSeparator c := by
  obtain ⟨gap, rest, hs, hgap, hrest⟩ := exists_append_of_class (fun c => c == ',' || isBlank c) s
  refine ⟨gap, rest, hs, fun c hc => ?_, fun c hc => ?_⟩
  · simpa [IsSeparator] using hgap c hc
  · simpa [IsSeparator] using hrest c hc

/-- Every text is cut into its tokens, with nothing but separators between them and at the end. -/
theorem exists_cuts (s : List Char) :
    ∃ (cuts : List Cut) (last : List Char), s = cuts.flatMap Cut.chars ++ last ∧
      tokens s = cuts.map Cut.token ∧ (∀ cut ∈ cuts, cut.Clean) ∧ ∀ c ∈ last, IsSeparator c := by
  -- What follows a token lies several characters further on, so the induction is on the length.
  induction hn : s.length using Nat.strongRecOn generalizing s with
  | ind n ih =>
    subst hn
    obtain ⟨gap, rest, rfl, hgap, hrest⟩ := exists_separators_append s
    cases rest with
    | nil =>
      refine ⟨[], gap, List.append_nil gap, ?_, nofun, hgap⟩
      rw [tokens_append_of_separators hgap]
      rfl
    | cons c rest =>
      obtain ⟨token, behind, hsplit, hleads⟩ := exists_leads (hrest c rfl) rest
      have hshorter : behind.length < (gap ++ c :: rest).length := by
        have hpos := List.length_pos_iff.2 hleads.ne_nil
        rw [hsplit, List.length_append, List.length_append]
        omega
      obtain ⟨cuts, last, hbehind, htokens, hclean, hlast⟩ := ih _ hshorter behind rfl
      refine ⟨⟨gap, token⟩ :: cuts, last, ?_, ?_, ?_, hlast⟩
      · rw [hsplit, hbehind, List.flatMap_cons, Cut.chars]
        simp only [List.append_assoc]
      · rw [tokens_append_of_separators hgap, hsplit, tokens_append hleads.ne_nil hleads.taken,
          htokens, List.map_cons]
      · exact List.forall_mem_cons.2 ⟨⟨hgap, hleads.ne_nil, hleads.quotation⟩, hclean⟩

/-! ## Texts without quotes -/

/-- What a piece between two commas stands for: nothing if it is blank. -/
def readPiece (piece : List Char) : List Argument :=
  if allBlank piece then [] else [classify (trimBoth piece)]

theorem flatMap_readPiece (pieces : List (List Char)) :
    pieces.flatMap readPiece =
      (pieces.filter fun piece => !allBlank piece).map fun piece => classify (trimBoth piece) := by
  induction pieces with
  | nil => rfl
  | cons piece others ih =>
    rw [List.flatMap_cons, ih, readPiece]
    cases hblank : allBlank piece <;> simp [hblank]

/-- A piece without a quote is one token, or none if it is blank. -/
theorem readManual_unquoted {piece rest : List Char} (hcomma : ',' ∉ piece) (hquote : '"' ∉ piece)
    (hrest : EndsPiece rest) :
    readManual (piece ++ rest) = readPiece piece ++ readManual rest := by
  obtain ⟨pad, hpad, hsplit⟩ := exists_append_trimLeft piece
  cases hleft : trimLeft piece with
  -- The piece is blank and gives no token.
  | nil =>
    rw [hleft, List.append_nil] at hsplit
    subst hsplit
    have hblank : allBlank piece = true := List.all_eq_true.2 hpad
    have hnone : readPiece piece = [] := by simp [readPiece, hblank]
    rw [readManual, tokens_append_of_blank hpad, hnone]
    rfl
  | cons c text =>
    rw [hleft] at hsplit
    have hc := isBlank_eq_false_of_trimLeft hleft
    have hmem : ∀ d ∈ c :: text, d ∈ piece := fun d hd => by
      rw [hsplit]
      exact List.mem_append_right pad hd
    have hone : readPiece piece = [classify (trimBoth (c :: text))] := by
      have hfilled : allBlank piece = false := by
        rw [allBlank, List.all_eq_false]
        exact ⟨c, hmem c List.mem_cons_self, by simp [hc]⟩
      have htrim : trimBoth piece = trimBoth (c :: text) := by
        rw [trimBoth, trimBoth, hleft, trimLeft_cons hc]
      simp [readPiece, hfilled, htrim]
    -- The token begins behind the blanks and goes on to the end of the piece.
    have hstart : c ≠ '"' := fun heq => hquote (heq ▸ hmem c List.mem_cons_self)
    have hnone : ∀ d ∈ ([] : List Char), isBlank d = true := fun _ hd => absurd hd List.not_mem_nil
    have hread := readAs_plain hstart hc (fun h => hcomma (hmem _ h)) [] rest hnone hrest
    rw [List.nil_append] at hread
    rw [hone, hsplit, List.append_assoc, readManual, tokens_append_of_blank hpad, ← readManual,
      hread, List.singleton_append]

theorem readManual_of_unquoted {s : List Char} (hquote : '"' ∉ s) :
    readManual s = (splitOn ',' s).flatMap readPiece := by
  have hread := readManual_intercalate id readPiece (splitOn ',' s) fun piece hpiece _ hrest =>
    readManual_unquoted (notMem_of_mem_splitOn hpiece)
      (fun hmem => hquote (mem_of_mem_splitOn hpiece hmem)) hrest
  rwa [List.map_id, intercalate_splitOn] at hread

/-- **Nothing is lost.** The tokens of a text stand in it in their order, none of them empty, with
nothing but commas and blanks in front of each and behind the last, and a token with a comma in it
is complete in quotes. What the manual strategy gives is what these tokens stand for; for a text
without quotes that is what its pieces between commas stand for, trimmed, where they are not
blank. -/
theorem manual_covers (s : List Char) :
    (∃ (cuts : List Cut) (last : List Char), s = cuts.flatMap Cut.chars ++ last ∧
      (∀ cut ∈ cuts, cut.Clean) ∧ (∀ c ∈ last, IsSeparator c) ∧
      tokens s = cuts.map Cut.token ∧
      Strategy.manual.apply s = .ok (cuts.map fun cut => classify (trimBoth cut.token))) ∧
    ('"' ∉ s → Strategy.manual.apply s =
      .ok (((splitOn ',' s).filter fun piece => !allBlank piece).map fun piece =>
        classify (trimBoth piece))) := by
  constructor
  · obtain ⟨cuts, last, hs, htokens, hclean, hlast⟩ := exists_cuts s
    refine ⟨cuts, last, hs, hclean, hlast, htokens, ?_⟩
    rw [Strategy.apply, readManual, htokens, List.map_map]
    rfl
  · intro hquote
    rw [Strategy.apply, readManual_of_unquoted hquote, flatMap_readPiece]

/-- The first comma stands in a complete text in quotes, the last one behind a quote that is not
closed. -/
example : tokens "\"a, b\", \"c, d".toList = ["\"a, b\"", "\"c", "d"].map String.toList := by decide

end Deskhand.Command
