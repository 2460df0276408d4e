/-
  Deskhand.Proofs.Json.Literal

  String literals.

  A literal is read back to the text that it was written for, whatever follows it. What makes this
  and every other pass over a literal simple is the shape of one written character: it stands for
  itself, or it is a backslash with one letter, or it is the six characters of a hexadecimal escape.
  None of these holds a control character, so a literal lies on one line.
-/

import Deskhand.Json.Reader
import Deskhand.Json.Writer
import Deskhand.Proofs.Text.Substitution

namespace Deskhand.Json

open Deskhand.Text

/-! ## The shape of a written character -/

/-- The characters that an escape is written with. -/
def isEscapeChar (c : Char) : Bool := c == '"' || c == '\\' || c.isAlphanum

/-- How a character is written inside a literal. -/
inductive Written (c : Char) : List Char → Prop where
  | plain (notQuote : c ≠ '"') (notBackslash : c ≠ '\\') (visible : 0x20 ≤ c.toNat) : Written c [c]
  | short (letter : Char)
      (reads : ∀ rest, readEscape (letter :: rest) = .ok (.char c 2))
      (escape : isEscapeChar letter = true) : Written c ['\\', letter]
  | hex (control : c.toNat < 0x20) : Written c (['\\', 'u', '0', '0'] ++ hexPair c.toNat)

theorem written_escapeChar (c : Char) : Written c (escapeChar c) := by
  unfold escapeChar
  -- One case for each branch of the escaping, in its order.
  split
  · next h =>
    subst h
    exact .short '"' (fun _ => rfl) (by decide)
  split
  · next h =>
    subst h
    exact .short '\\' (fun _ => rfl) (by decide)
  split
  · next h =>
    subst h
    exact .short 'b' (fun _ => rfl) (by decide)
  split
  · next h =>
    subst h
    exact .short 't' (fun _ => rfl) (by decide)
  split
  · next h =>
    subst h
    exact .short 'n' (fun _ => rfl) (by decide)
  split
  · next h =>
    subst h
    exact .short 'f' (fun _ => rfl) (by decide)
  split
  · next h =>
    subst h
    exact .short 'r' (fun _ => rfl) (by decide)
  split
  · next h => exact .hex h
  · next hquote hbackslash _ _ _ _ _ hcontrol => exact .plain hquote hbackslash (by omega)

theorem Written.ne_nil {c : Char} {w : List Char} (h : Written c w) : w ≠ [] := by
  cases h <;> simp

theorem isAlphanum_hexPair {n : Nat} (hn : n < 0x20) {d : Char} (hd : d ∈ hexPair n) :
    d.isAlphanum = true := by
  have hall : ∀ n < 0x20, (hexPair n).all Char.isAlphanum = true := by decide
  exact List.all_eq_true.1 (hall n hn) d hd

/-- A character that is no control character stands for itself, or all that it is written with
belongs to an escape. -/
theorem escapeChar_eq_or (c : Char) :
    (escapeChar c = [c] ∧ 0x20 ≤ c.toNat) ∨ ∀ d ∈ escapeChar c, isEscapeChar d = true := by
  have hw := written_escapeChar c
  generalize escapeChar c = w at hw
  cases hw with
  | plain _ _ visible => exact .inl ⟨rfl, visible⟩
  | short letter _ escape =>
    right
    intro d hd
    rcases List.mem_cons.1 hd with rfl | hletter
    · rfl
    · rw [List.mem_singleton.1 hletter]
      exact escape
  | hex control =>
    right
    intro d hd
    rcases List.mem_append.1 hd with hfront | hpair
    · have hall : ['\\', 'u', '0', '0'].all isEscapeChar = true := by decide
      exact List.all_eq_true.1 hall d hfront
    · simp [isEscapeChar, isAlphanum_hexPair control hpair]

theorem escapeChar_of_visible {c : Char} (hquote : c ≠ '"') (hbackslash : c ≠ '\\')
    (h : 0x20 ≤ c.toNat) : escapeChar c = [c] := by
  -- The characters with an escape of their own are all control characters, quotes and backslashes
  -- apart.
  have hcontrol : ∀ d : Char, d.toNat < 0x20 → c ≠ d := by
    rintro d hd rfl
    omega
  simp only [escapeChar, hquote, hbackslash, hcontrol '\x08' (by decide), hcontrol '\t' (by decide),
    hcontrol '\n' (by decide), hcontrol '\x0c' (by decide), hcontrol '\r' (by decide), if_false,
    Nat.not_lt.2 h]

theorem flatMap_escapeChar_of_visible {s : List Char} (hquote : '"' ∉ s) (hbackslash : '\\' ∉ s)
    (h : ∀ c ∈ s, 0x20 ≤ c.toNat) : s.flatMap escapeChar = s := by
  induction s with
  | nil => rfl
  | cons c s ih =>
    simp only [List.mem_cons, not_or] at hquote hbackslash
    have hs := ih hquote.2 hbackslash.2 fun d hd => h d (List.mem_cons_of_mem c hd)
    rw [List.flatMap_cons, hs, escapeChar_of_visible (Ne.symm hquote.1) (Ne.symm hbackslash.1)
      (h c List.mem_cons_self)]
    rfl

/-- What a character is written with is the character itself, which is then no control character,
or belongs to an escape. -/
theorem mem_escapeChar {c d : Char} (hd : d ∈ escapeChar c) :
    (d = c ∧ 0x20 ≤ c.toNat) ∨ isEscapeChar d = true := by
  rcases escapeChar_eq_or c with ⟨hplain, hvisible⟩ | hescape
  · rw [hplain] at hd
    exact .inl ⟨List.mem_singleton.1 hd, hvisible⟩
  · exact .inr (hescape d hd)

/-- A literal consists of characters of its text, control characters apart, and of such as belong
to escapes. -/
theorem mem_literal {s : List Char} {d : Char} (hd : d ∈ literal s) :
    (d ∈ s ∧ 0x20 ≤ d.toNat) ∨ isEscapeChar d = true := by
  rcases List.mem_append.1 hd with hfront | hquote
  · rcases List.mem_cons.1 hfront with rfl | hcontent
    · exact .inr rfl
    · obtain ⟨c, hc, hwritten⟩ := List.mem_flatMap.1 hcontent
      rcases mem_escapeChar hwritten with ⟨rfl, hvisible⟩ | hescape
      · exact .inl ⟨hc, hvisible⟩
      · exact .inr hescape
  · rw [List.mem_singleton.1 hquote]
    exact .inr rfl

theorem visible_of_mem_literal {s : List Char} {d : Char} (hd : d ∈ literal s) :
    0x20 ≤ d.toNat := by
  rcases mem_literal hd with ⟨-, hvisible⟩ | hescape
  · exact hvisible
  -- All control characters are checked by evaluation.
  · have hcontrol : ∀ n < 0x20, isEscapeChar (Char.ofNat n) = false := by decide
    rcases Nat.lt_or_ge d.toNat 0x20 with hlow | hvisible
    · have hfalse := hcontrol d.toNat hlow
      rw [Char.ofNat_toNat, hescape] at hfalse
      exact Bool.noConfusion hfalse
    · exact hvisible

/-! ## Finding a text in a literal

A text without any character that an escape is written with does not come about by escaping: where
it stands in a literal, it stands in the text of the literal too.
-/

/-- Where a text stands at the front of the content of a literal, it stands at the front of the text
of the literal. -/
theorem prefix_of_prefix_content {target s rest : List Char}
    (htarget : ∀ d ∈ target, isEscapeChar d = false)
    (h : target <+: s.flatMap escapeChar ++ '"' :: rest) : target <+: s := by
  induction target generalizing s with
  | nil => exact List.nil_prefix
  | cons d target ih =>
    have hd : isEscapeChar d = false := htarget d List.mem_cons_self
    cases s with
    | nil =>
      -- The quote behind the content belongs to escapes, too.
      obtain ⟨rfl, -⟩ := List.cons_prefix_cons.1 h
      exact absurd hd (by decide)
    | cons c s =>
      rw [List.flatMap_cons, List.append_assoc] at h
      rcases escapeChar_eq_or c with ⟨hplain, -⟩ | hescape
      · rw [hplain, List.singleton_append] at h
        obtain ⟨rfl, htail⟩ := List.cons_prefix_cons.1 h
        have hs := ih (fun e he => htarget e (List.mem_cons_of_mem d he)) htail
        exact List.cons_prefix_cons.2 ⟨rfl, hs⟩
      · -- The front of an escape is none of the characters of the target.
        obtain ⟨e, used, heq⟩ := List.exists_cons_of_ne_nil (written_escapeChar c).ne_nil
        rw [heq, List.cons_append] at h
        obtain ⟨rfl, -⟩ := List.cons_prefix_cons.1 h
        have he := hescape d (by rw [heq]; exact List.mem_cons_self)
        rw [hd] at he
        exact Bool.noConfusion he

/-- Where a text stands behind the opening quote of a literal, it stands in the text of the literal
or behind the literal. -/
theorem infix_of_infix_content {target s rest : List Char}
    (htarget : ∀ d ∈ target, isEscapeChar d = false)
    (h : target <:+: s.flatMap escapeChar ++ '"' :: rest) : target <:+: s ∨ target <:+: rest := by
  have hforeign : ∀ c, isEscapeChar c = true → c ∉ target := by
    intro c hc hmem
    rw [htarget c hmem] at hc
    exact Bool.noConfusion hc
  induction s with
  | nil => exact .inr (infix_of_infix_cons (hforeign '"' rfl) h)
  | cons c s ih =>
    -- What is found behind the first character is found further on in the text.
    have hlater : target <:+: s.flatMap escapeChar ++ '"' :: rest →
        target <:+: c :: s ∨ target <:+: rest := by
      intro hinfix
      rcases ih hinfix with hs | hrest
      · exact .inl (List.infix_cons hs)
      · exact .inr hrest
    rcases escapeChar_eq_or c with ⟨hplain, -⟩ | hescape
    · have hcontent : (c :: s).flatMap escapeChar ++ '"' :: rest =
          c :: (s.flatMap escapeChar ++ '"' :: rest) := by
        simp [hplain]
      have hfront := h
      rw [hcontent] at hfront
      rcases List.infix_cons_iff.1 hfront with hprefix | hinfix
      · rw [← hcontent] at hprefix
        exact .inl (prefix_of_prefix_content htarget hprefix).isInfix
      · exact hlater hinfix
    -- No character of the target lies in the escape, so the target begins behind it.
    · rw [List.flatMap_cons, List.append_assoc] at h
      exact hlater (infix_of_infix_append (fun d hd => hforeign d (hescape d hd)) h)

/-- Where a text stands in or behind a literal, it stands in the text of the literal or behind the
literal. -/
theorem infix_of_infix_literal {target s rest : List Char}
    (htarget : ∀ d ∈ target, isEscapeChar d = false) (h : target <:+: literal s ++ rest) :
    target <:+: s ∨ target <:+: rest := by
  have hquote : '"' ∉ target := by
    intro hmem
    exact absurd (htarget '"' hmem) (by decide)
  refine infix_of_infix_content htarget (infix_of_infix_cons hquote ?_)
  simpa [literal] using h

end Deskhand.Json
