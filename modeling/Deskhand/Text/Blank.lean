/-
  Deskhand.Text.Blank

  Blank characters.

  The characters that separate words: those with the Unicode property `White_Space`. Trimming a text
  means dropping them at both ends. Everything is stated on lists of characters, which is how the
  readers of this library see a text; `trim` at the end does it for a `String`.
-/

namespace Deskhand.Text

/-- Whether `c` has the Unicode property `White_Space`. -/
def isBlank (c : Char) : Bool :=
  let n := c.toNat
  (0x09 ≤ n && n ≤ 0x0D) || n == 0x20 || n == 0x85 || n == 0xA0 || n == 0x1680 ||
    (0x2000 ≤ n && n ≤ 0x200A) || n == 0x2028 || n == 0x2029 || n == 0x202F || n == 0x205F ||
    n == 0x3000

def allBlank (s : List Char) : Bool := s.all isBlank

def trimLeft (s : List Char) : List Char := s.dropWhile isBlank

/-- The text without its trailing blanks: a blank stays only if something else follows it. -/
def trimRight : List Char → List Char
  | [] => []
  | c :: rest =>
    match trimRight rest with
    | [] => if isBlank c then [] else [c]
    | kept => c :: kept

/-- The text without the blanks at its two ends. -/
def trimBoth (s : List Char) : List Char := trimRight (trimLeft s)

def trim (s : String) : String := String.ofList (trimBoth s.toList)

/-- Whether a string holds blanks only; the empty string does. -/
def blank (s : String) : Bool := allBlank s.toList

/-- The code points of all blanks. -/
def blankCodes : List Nat :=
  [0x09, 0x0A, 0x0B, 0x0C, 0x0D, 0x20, 0x85, 0xA0, 0x1680, 0x2000, 0x2001, 0x2002, 0x2003, 0x2004,
    0x2005, 0x2006, 0x2007, 0x2008, 0x2009, 0x200A, 0x2028, 0x2029, 0x202F, 0x205F, 0x3000]

theorem toNat_mem_blankCodes {c : Char} (h : isBlank c = true) : c.toNat ∈ blankCodes := by
  simp only [isBlank, Bool.or_eq_true, Bool.and_eq_true, decide_eq_true_eq, beq_iff_eq] at h
  simp only [blankCodes, List.mem_cons, List.not_mem_nil, or_false]
  omega

/-- What holds of each of these code points holds of every blank. -/
theorem of_isBlank {P : Char → Prop} (h : ∀ n ∈ blankCodes, P (Char.ofNat n)) {c : Char}
    (hc : isBlank c = true) : P c := by
  have hcode := h c.toNat (toNat_mem_blankCodes hc)
  rwa [Char.ofNat_toNat] at hcode

/-! ## What trimming leaves -/

theorem trimLeft_append_of_blank {pad : List Char} (h : ∀ c ∈ pad, isBlank c = true)
    (s : List Char) : trimLeft (pad ++ s) = trimLeft s := by
  induction pad with
  | nil => rfl
  | cons c pad ih =>
    have hc : isBlank c = true := h c (by simp)
    have ih := ih fun d hd => h d (by simp [hd])
    simpa [trimLeft, List.dropWhile_cons, hc] using ih

/-- What is trimmed away in front is blank. -/
theorem exists_append_trimLeft (s : List Char) :
    ∃ pad, (∀ c ∈ pad, isBlank c = true) ∧ s = pad ++ trimLeft s :=
  ⟨s.takeWhile isBlank, List.all_eq_true.1 List.all_takeWhile,
    List.takeWhile_append_dropWhile.symm⟩

theorem trimLeft_cons {c : Char} (h : isBlank c = false) (rest : List Char) :
    trimLeft (c :: rest) = c :: rest :=
  List.dropWhile_cons_of_neg (by simp [h])

/-- What trimming leaves begins with no blank. -/
theorem isBlank_eq_false_of_trimLeft {c : Char} {s rest : List Char}
    (h : trimLeft s = c :: rest) : isBlank c = false := by
  have hhead := List.head?_dropWhile_not isBlank s
  rw [show s.dropWhile isBlank = c :: rest from h] at hhead
  simpa using hhead

/-- A text is trimmed away exactly when all of it is blank. -/
theorem trimRight_eq_nil_iff {s : List Char} : trimRight s = [] ↔ ∀ c ∈ s, isBlank c = true := by
  induction s with
  | nil => simp [trimRight]
  | cons c rest ih =>
    unfold trimRight
    split
    · next h =>
      have hrest := ih.1 h
      by_cases hc : isBlank c = true
      · simp [hc]; exact hrest
      · simp [hc]
    · next kept hne =>
      simp only [List.mem_cons, forall_eq_or_imp, reduceCtorEq, false_iff, not_and]
      exact fun _ hall => hne (ih.2 hall)

/-- A text that starts with something else than a blank keeps its start. -/
theorem trimRight_cons {c : Char} (hc : isBlank c = false) (rest : List Char) :
    trimRight (c :: rest) = c :: trimRight rest := by
  rw [trimRight]
  split
  · next h => simp [h, hc]
  · rfl

/-- What is trimmed away at the end is blank. -/
theorem exists_trimRight_append (s : List Char) :
    ∃ trail, (∀ c ∈ trail, isBlank c = true) ∧ s = trimRight s ++ trail := by
  induction s with
  | nil => exact ⟨[], fun c hc => absurd hc List.not_mem_nil, rfl⟩
  | cons c rest ih =>
    obtain ⟨trail, htrail, hrest⟩ := ih
    rw [trimRight]
    split
    · next hnil =>
      rw [hnil, List.nil_append] at hrest
      subst hrest
      by_cases hc : isBlank c = true
      · refine ⟨c :: rest, fun d hd => ?_, by rw [if_pos hc, List.nil_append]⟩
        rcases List.mem_cons.1 hd with rfl | hmem
        · exact hc
        · exact htrail d hmem
      · exact ⟨rest, htrail, by rw [if_neg hc, List.singleton_append]⟩
    · exact ⟨trail, htrail, by rw [List.cons_append, ← hrest]⟩

theorem trimRight_of_not_blank {s : List Char} (h : ∀ c ∈ s, isBlank c = false) :
    trimRight s = s := by
  induction s with
  | nil => rfl
  | cons c s ih =>
    have hs := ih fun d hd => h d (List.mem_cons_of_mem c hd)
    rw [trimRight_cons (h c List.mem_cons_self), hs]

/-- Trimming stops at the last character that is not blank. -/
theorem trimRight_append_cons {c : Char} (hc : isBlank c = false) {trail : List Char}
    (htrail : ∀ d ∈ trail, isBlank d = true) (s : List Char) :
    trimRight (s ++ c :: trail) = s ++ [c] := by
  induction s with
  | nil => simp [trimRight, trimRight_eq_nil_iff.2 htrail, hc]
  | cons d s ih =>
    rw [List.cons_append, trimRight, ih]
    cases s <;> rfl

/-- Blanks at the end do not count. -/
theorem trimRight_append_of_blank {trail : List Char} (h : ∀ c ∈ trail, isBlank c = true)
    (s : List Char) : trimRight (s ++ trail) = trimRight s := by
  induction s with
  | nil => exact trimRight_eq_nil_iff.2 h
  | cons c s ih => rw [List.cons_append, trimRight, trimRight, ih]

theorem trimRight_trimRight (s : List Char) : trimRight (trimRight s) = trimRight s := by
  induction s with
  | nil => rfl
  | cons c rest ih =>
    rw [trimRight]
    split
    · by_cases hc : isBlank c = true <;> simp [trimRight, hc]
    · next kept hkept =>
      rw [trimRight, ih]
      split
      · next h => exact absurd h hkept
      · rfl

/-- A text without blanks is left as it is. -/
theorem trimBoth_of_not_blank {s : List Char} (h : ∀ c ∈ s, isBlank c = false) :
    trimBoth s = s := by
  cases s with
  | nil => rfl
  | cons c s =>
    rw [trimBoth, trimLeft_cons (h c List.mem_cons_self), trimRight_of_not_blank h]

/-- A text that neither begins nor ends with a blank is left as it is. -/
theorem trimBoth_of_ends {s : List Char} (hfirst : ∀ c ∈ s.head?, isBlank c = false)
    (hlast : ∀ c ∈ s.getLast?, isBlank c = false) : trimBoth s = s := by
  cases s with
  | nil => rfl
  | cons c s =>
    obtain ⟨front, last, hsplit⟩ : ∃ front last, c :: s = front ++ [last] :=
      ⟨_, _, (List.dropLast_concat_getLast (List.cons_ne_nil c s)).symm⟩
    have hend : isBlank last = false := hlast last (by rw [hsplit, List.getLast?_concat]; rfl)
    rw [trimBoth, trimLeft_cons (hfirst c rfl), hsplit]
    exact trimRight_append_cons hend (fun _ hd => absurd hd List.not_mem_nil) front

/-- Blanks behind a text are trimmed away. -/
theorem trimBoth_append_of_blank {trail : List Char} (h : ∀ c ∈ trail, isBlank c = true)
    (s : List Char) : trimBoth (s ++ trail) = trimBoth s := by
  induction s with
  | nil =>
    have hleft := trimLeft_append_of_blank h []
    rw [List.append_nil] at hleft
    rw [List.nil_append, trimBoth, trimBoth, hleft]
  | cons c s ih =>
    cases hc : isBlank c with
    | true =>
      have hskip : ∀ rest, trimLeft (c :: rest) = trimLeft rest := fun rest =>
        List.dropWhile_cons_of_pos hc
      rw [trimBoth, trimBoth, List.cons_append, hskip, hskip]
      exact ih
    | false =>
      rw [trimBoth, trimBoth, List.cons_append, trimLeft_cons hc, trimLeft_cons hc,
        ← List.cons_append, trimRight_append_of_blank h]

/-- Trimming twice is trimming once. -/
theorem trimBoth_trimBoth (s : List Char) : trimBoth (trimBoth s) = trimBoth s := by
  unfold trimBoth
  cases hleft : trimLeft s with
  | nil => rfl
  | cons c rest =>
    -- What is left starts with no blank, so the second trimming finds nothing in front.
    have hc := isBlank_eq_false_of_trimLeft hleft
    have hstart : trimLeft (c :: trimRight rest) = c :: trimRight rest := by
      simp [trimLeft, hc]
    rw [trimRight_cons hc, hstart, trimRight_cons hc, trimRight_trimRight]

/-- Trimming a string twice is trimming it once. -/
@[simp] theorem trim_trim (s : String) : trim (trim s) = trim s := by
  simp [trim, trimBoth_trimBoth]

end Deskhand.Text
