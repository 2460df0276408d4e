/-
  Deskhand.Proofs.Text.Utf8

  Reading back what was written.

  The bytes of a character are one piece, whatever stands behind them: the first byte says how many
  there are, the second lies within the bounds that go with the first, and the others continue the
  character. The bounds of the second byte are just tight enough, so the proof needs to know that a
  character is no surrogate and is written with as few bytes as can be. Hence the bytes of a text
  are read back to the text.
-/

import Deskhand.Text.Utf8

namespace Deskhand.Text.Utf8

/-! ## First bytes -/

/-- The first byte of a character of `size` bytes, and a second byte that may follow it. -/
def Opens (size : Nat) (first second : UInt8) : Prop :=
  ∃ lead, lead? first = some lead ∧ lead.size = size ∧ lead.low ≤ second ∧ second ≤ lead.high

theorem opens_two {first second : UInt8} (hfirst : 0xC2 ≤ first.toNat ∧ first.toNat ≤ 0xDF)
    (hsecond : 0x80 ≤ second.toNat ∧ second.toNat ≤ 0xBF) : Opens 2 first second := by
  refine ⟨⟨2, 0x80, 0xBF⟩, ?_, rfl, hsecond.1, hsecond.2⟩
  rw [lead?, if_pos]
  exact hfirst

theorem opens_three {first second : UInt8} (hfirst : 0xE0 ≤ first.toNat ∧ first.toNat ≤ 0xEF)
    (hsecond : 0x80 ≤ second.toNat ∧ second.toNat ≤ 0xBF)
    (hlong : first.toNat = 0xE0 → 0xA0 ≤ second.toNat)
    (hplain : first.toNat = 0xED → second.toNat ≤ 0x9F) : Opens 3 first second := by
  -- Two first bytes restrict the second byte, and all others leave it alone.
  by_cases hlow : first = 0xE0
  · subst hlow
    exact ⟨_, rfl, rfl, hlong rfl, hsecond.2⟩
  · by_cases hhigh : first = 0xED
    · subst hhigh
      exact ⟨_, rfl, rfl, hsecond.1, hplain rfl⟩
    · refine ⟨⟨3, 0x80, 0xBF⟩, ?_, rfl, hsecond.1, hsecond.2⟩
      have htwo : ¬ (0xC2 ≤ first ∧ first ≤ 0xDF) := by
        show ¬ (0xC2 ≤ first.toNat ∧ first.toNat ≤ 0xDF)
        omega
      have hne : first.toNat ≠ 0xE0 := fun h => hlow (UInt8.toNat_inj.1 h)
      have hthree : 0xE1 ≤ first ∧ first ≤ 0xEF := by
        show 0xE1 ≤ first.toNat ∧ first.toNat ≤ 0xEF
        omega
      rw [lead?, if_neg htwo, if_neg hlow, if_neg hhigh, if_pos hthree]

theorem opens_four {first second : UInt8} (hfirst : 0xF0 ≤ first.toNat ∧ first.toNat ≤ 0xF4)
    (hsecond : 0x80 ≤ second.toNat ∧ second.toNat ≤ 0xBF)
    (hlong : first.toNat = 0xF0 → 0x90 ≤ second.toNat)
    (hlast : first.toNat = 0xF4 → second.toNat ≤ 0x8F) : Opens 4 first second := by
  by_cases hlow : first = 0xF0
  · subst hlow
    exact ⟨_, rfl, rfl, hlong rfl, hsecond.2⟩
  · by_cases hhigh : first = 0xF4
    · subst hhigh
      exact ⟨_, rfl, rfl, hsecond.1, hlast rfl⟩
    · refine ⟨⟨4, 0x80, 0xBF⟩, ?_, rfl, hsecond.1, hsecond.2⟩
      have htwo : ¬ (0xC2 ≤ first ∧ first ≤ 0xDF) := by
        show ¬ (0xC2 ≤ first.toNat ∧ first.toNat ≤ 0xDF)
        omega
      have hthree : ¬ (0xE1 ≤ first ∧ first ≤ 0xEF) := by
        show ¬ (0xE1 ≤ first.toNat ∧ first.toNat ≤ 0xEF)
        omega
      have hneLow : first ≠ 0xE0 := by
        rintro rfl
        exact absurd hfirst (by decide)
      have hneHigh : first ≠ 0xED := by
        rintro rfl
        exact absurd hfirst (by decide)
      have hne : first.toNat ≠ 0xF0 ∧ first.toNat ≠ 0xF4 :=
        ⟨fun h => hlow (UInt8.toNat_inj.1 h), fun h => hhigh (UInt8.toNat_inj.1 h)⟩
      have hfour : 0xF1 ≤ first ∧ first ≤ 0xF3 := by
        show 0xF1 ≤ first.toNat ∧ first.toNat ≤ 0xF3
        omega
      rw [lead?, if_neg htwo, if_neg hneLow, if_neg hneHigh, if_neg hthree, if_neg hlow,
        if_pos hfour]

/-! ## Pieces -/

/-- A first byte, a second one that may follow it, and as many continuing bytes as are due are one
character. -/
theorem piece_of_opens {size : Nat} {first second : UInt8} {others : List UInt8}
    (hfirst : 0x80 ≤ first.toNat) (h : Opens size first second)
    (hlength : others.length = size - 2) (hothers : ∀ b ∈ others, isContinuation b = true)
    (tail : List UInt8) :
    piece first (second :: (others ++ tail)) =
      .char (assemble size first (second :: others)) size := by
  obtain ⟨lead, hlead, rfl, hlow, hhigh⟩ := h
  have hascii : ¬ first < 0x80 := by
    show ¬ first.toNat < 0x80
    omega
  -- All bytes that are due are there.
  have hdue : ((others ++ tail).take (lead.size - 2)).takeWhile isContinuation = others := by
    have hall : (others ++ []).takeWhile isContinuation = others ++ [] :=
      List.takeWhile_append_of_pos hothers
    rw [List.append_nil] at hall
    rw [← hlength, List.take_left, hall]
  unfold piece
  rw [if_neg hascii]
  simp only [hlead, hdue, hlength, if_pos (And.intro hlow hhigh), if_true]

theorem toNat_ofNat {n : Nat} (h : n < 256) : (UInt8.ofNat n).toNat = n :=
  UInt8.toNat_ofNat_of_lt' h

theorem isContinuation_ofNat {n : Nat} (h : 0x80 ≤ n ∧ n ≤ 0xBF) :
    isContinuation (UInt8.ofNat n) = true := by
  simp only [isContinuation, Bool.and_eq_true, decide_eq_true_eq]
  show 0x80 ≤ (UInt8.ofNat n).toNat ∧ (UInt8.ofNat n).toNat ≤ 0xBF
  rw [toNat_ofNat (by omega)]
  exact h

/-! Two, three and four bytes for the number of a character: the numbers of surrogates and those
that fewer bytes suffice for are left out. -/

theorem piece_two {v : Nat} (h : 0x7F < v ∧ v ≤ 0x7FF) (tail : List UInt8) :
    piece (.ofNat (v / 64 % 0x20 + 0xC0)) (.ofNat (v % 0x40 + 0x80) :: tail) =
      .char (Char.ofNat v) 2 := by
  have hfirst := toNat_ofNat (show v / 64 % 0x20 + 0xC0 < 256 by omega)
  have hsecond := toNat_ofNat (show v % 0x40 + 0x80 < 256 by omega)
  have hopens : Opens 2 (.ofNat (v / 64 % 0x20 + 0xC0)) (.ofNat (v % 0x40 + 0x80)) :=
    opens_two (by omega) (by omega)
  have hothers : ∀ b ∈ ([] : List UInt8), isContinuation b = true := by simp
  have hpiece := piece_of_opens (by omega) hopens rfl hothers tail
  rw [List.nil_append] at hpiece
  rw [hpiece, assemble]
  simp only [List.foldl_cons, List.foldl_nil, hfirst, hsecond,
    show Nat.pow 2 (7 - 2) = 0x20 from rfl]
  congr 2
  omega

theorem piece_three {v : Nat} (h : 0x7FF < v ∧ v ≤ 0xFFFF) (hplain : v < 0xD800 ∨ 0xDFFF < v)
    (tail : List UInt8) :
    piece (.ofNat (v / 4096 % 0x10 + 0xE0))
        (.ofNat (v / 64 % 0x40 + 0x80) :: .ofNat (v % 0x40 + 0x80) :: tail) =
      .char (Char.ofNat v) 3 := by
  have hfirst := toNat_ofNat (show v / 4096 % 0x10 + 0xE0 < 256 by omega)
  have hsecond := toNat_ofNat (show v / 64 % 0x40 + 0x80 < 256 by omega)
  have hthird := toNat_ofNat (show v % 0x40 + 0x80 < 256 by omega)
  have hopens : Opens 3 (.ofNat (v / 4096 % 0x10 + 0xE0)) (.ofNat (v / 64 % 0x40 + 0x80)) :=
    opens_three (by omega) (by omega) (by omega) (by omega)
  have hothers : ∀ b ∈ [UInt8.ofNat (v % 0x40 + 0x80)], isContinuation b = true := by
    intro b hb
    rw [List.mem_singleton.1 hb]
    exact isContinuation_ofNat (by omega)
  have hpiece := piece_of_opens (by omega) hopens rfl hothers tail
  rw [List.singleton_append] at hpiece
  rw [hpiece, assemble]
  simp only [List.foldl_cons, List.foldl_nil, hfirst, hsecond, hthird,
    show Nat.pow 2 (7 - 3) = 0x10 from rfl]
  congr 2
  omega

theorem piece_four {v : Nat} (h : 0xFFFF < v ∧ v < 0x110000) (tail : List UInt8) :
    piece (.ofNat (v / 262144 % 0x08 + 0xF0))
        (.ofNat (v / 4096 % 0x40 + 0x80) :: .ofNat (v / 64 % 0x40 + 0x80) ::
          .ofNat (v % 0x40 + 0x80) :: tail) =
      .char (Char.ofNat v) 4 := by
  have hfirst := toNat_ofNat (show v / 262144 % 0x08 + 0xF0 < 256 by omega)
  have hsecond := toNat_ofNat (show v / 4096 % 0x40 + 0x80 < 256 by omega)
  have hthird := toNat_ofNat (show v / 64 % 0x40 + 0x80 < 256 by omega)
  have hfourth := toNat_ofNat (show v % 0x40 + 0x80 < 256 by omega)
  have hopens : Opens 4 (.ofNat (v / 262144 % 0x08 + 0xF0)) (.ofNat (v / 4096 % 0x40 + 0x80)) :=
    opens_four (by omega) (by omega) (by omega) (by omega)
  have hothers : ∀ b ∈ [UInt8.ofNat (v / 64 % 0x40 + 0x80), UInt8.ofNat (v % 0x40 + 0x80)],
      isContinuation b = true := by
    intro b hb
    rcases List.mem_cons.1 hb with rfl | hlast
    · exact isContinuation_ofNat (by omega)
    · rw [List.mem_singleton.1 hlast]
      exact isContinuation_ofNat (by omega)
  have hpiece := piece_of_opens (by omega) hopens rfl hothers tail
  rw [List.cons_append, List.singleton_append] at hpiece
  rw [hpiece, assemble]
  simp only [List.foldl_cons, List.foldl_nil, hfirst, hsecond, hthird, hfourth,
    show Nat.pow 2 (7 - 4) = 0x08 from rfl]
  congr 2
  omega

theorem exists_piece_utf8EncodeChar (c : Char) :
    ∃ first rest, String.utf8EncodeChar c = first :: rest ∧
      ∀ tail, piece first (rest ++ tail) = .char c (rest.length + 1) := by
  have hvalid : c.toNat < 0xD800 ∨ 0xDFFF < c.toNat ∧ c.toNat < 0x110000 := c.valid
  have hchar := Char.ofNat_toNat c
  unfold String.utf8EncodeChar
  simp only [Char.toNat_val]
  generalize c.toNat = v at hvalid hchar ⊢
  subst hchar
  -- One byte, two, three or four.
  split
  · refine ⟨_, _, rfl, fun tail => ?_⟩
    have hbyte : (UInt8.ofNat v).toNat = v := toNat_ofNat (by omega)
    have hascii : UInt8.ofNat v < 0x80 := by
      show (UInt8.ofNat v).toNat < 0x80
      omega
    unfold piece
    rw [if_pos hascii, hbyte]
    rfl
  · split
    · exact ⟨_, _, rfl, piece_two (by omega)⟩
    · split
      · exact ⟨_, _, rfl, piece_three (by omega) (by omega)⟩
      · exact ⟨_, _, rfl, piece_four (by omega)⟩

/-! ## Texts -/

/-- The bytes that belong to an earlier piece are passed over. -/
theorem decodeFrom_append (replacement : Option Char) (used : List UInt8) (read : List Char)
    (tail : List UInt8) :
    decodeFrom replacement used.length read (used ++ tail) =
      decodeFrom replacement 0 read tail := by
  induction used with
  | nil => rfl
  | cons b used ih => exact ih

theorem decodeFrom_encodeChars (replacement : Option Char) (read s : List Char) :
    decodeFrom replacement 0 read (encodeChars s) = (read.reverse ++ s, true) := by
  induction s generalizing read with
  | nil => simp [encodeChars, decodeFrom]
  | cons c s ih =>
    obtain ⟨first, rest, hbytes, hpiece⟩ := exists_piece_utf8EncodeChar c
    have hencode : encodeChars (c :: s) = first :: (rest ++ encodeChars s) := by
      simp [encodeChars, hbytes]
    -- The first piece is the character, and its other bytes are passed over.
    rw [hencode, decodeFrom, hpiece]
    simp only [Nat.add_sub_cancel]
    rw [decodeFrom_append, ih]
    simp

/-- What is written is read back. -/
theorem leading_encodeChars (s : List Char) : leading (encodeChars s) = s := by
  simp [leading, decodeFrom_encodeChars]

end Deskhand.Text.Utf8
