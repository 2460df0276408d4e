/-
  Deskhand.Proofs.Command.Form

  The form of a command.

  A command is a name and any text between parentheses, with blanks before the name, in front of the
  opening parenthesis and at the end. The types carry what makes such a text well formed. The
  argument text may hold line breaks and parentheses of its own, so the grammar alone does not say
  where it ends; but a name holds no parenthesis and no blank is one, so the opening parenthesis is
  the first of the text and the closing one the last. Hence each text has at most one form. A text
  is read exactly when it has one, and then by its parts.
-/

import Deskhand.Proofs.Command.SharedCache

namespace Deskhand.Command

open Deskhand.Text

/-! ## Names -/

theorem isNameChar_eq_false_of_isBlank {c : Char} (h : isBlank c = true) :
    isNameChar c = false :=
  of_isBlank (P := fun c => isNameChar c = false) (by decide) h

theorem isBlank_eq_false_of_isNameChar {c : Char} (h : isNameChar c = true) :
    isBlank c = false := by
  cases hblank : isBlank c with
  | false => rfl
  | true =>
    rw [isNameChar_eq_false_of_isBlank hblank] at h
    cases h

theorem isNameChar_of_isNameStart {c : Char} (h : isNameStart c = true) : isNameChar c = true := by
  simp only [isNameStart, isNameChar, Char.isAlphanum, Bool.or_eq_true] at h ⊢
  exact h.imp_left .inl

/-- The name of a command. -/
structure Name where
  first : Char
  others : List Char
  starts : isNameStart first = true
  goesOn : ∀ c ∈ others, isNameChar c = true

/-- The name as it is written. -/
def Name.text (name : Name) : List Char := name.first :: name.others

theorem Name.eq_of_text_eq {name other : Name} (h : name.text = other.text) : name = other := by
  cases name
  cases other
  obtain ⟨rfl, rfl⟩ := List.cons.inj h
  rfl

theorem Name.isNameChar_of_mem (name : Name) : ∀ c ∈ name.text, isNameChar c = true := by
  intro c hc
  rcases List.mem_cons.1 hc with rfl | hothers
  · exact isNameChar_of_isNameStart name.starts
  · exact name.goesOn c hothers

theorem Name.trimLeft_append (name : Name) (rest : List Char) :
    trimLeft (name.text ++ rest) = name.text ++ rest :=
  trimLeft_cons (isBlank_eq_false_of_isNameChar (isNameChar_of_isNameStart name.starts)) _

/-- A name ends at the blanks or the parenthesis behind it. -/
theorem Name.span_append (name : Name) {gap : List Char} (h : ∀ c ∈ gap, isBlank c = true)
    (rest : List Char) :
    (name.text ++ (gap ++ '(' :: rest)).takeWhile isNameChar = name.text ∧
      (name.text ++ (gap ++ '(' :: rest)).dropWhile isNameChar = gap ++ '(' :: rest := by
  rw [List.takeWhile_append_of_pos name.isNameChar_of_mem,
    List.dropWhile_append_of_pos name.isNameChar_of_mem]
  cases gap with
  | nil =>
    have hparen : isNameChar '(' = false := by decide
    simp [hparen]
  | cons c gap =>
    have hc : isNameChar c = false := isNameChar_eq_false_of_isBlank (h c List.mem_cons_self)
    simp [hc]

theorem exists_name_of_head? {s : List Char} (hstart : s.head?.any isNameStart = true)
    (hall : ∀ c ∈ s, isNameChar c = true) : ∃ name : Name, name.text = s := by
  cases s with
  | nil => cases hstart
  | cons c rest => exact ⟨⟨c, rest, hstart, fun d hd => hall d (List.mem_cons_of_mem c hd)⟩, rfl⟩

/-! ## The closing parenthesis -/

theorem beforeClosing?_append {trail : List Char} (h : ∀ c ∈ trail, isBlank c = true)
    (s : List Char) : beforeClosing? (s ++ ')' :: trail) = some s := by
  have htrim : trimRight (s ++ ')' :: trail) = s ++ [')'] :=
    trimRight_append_cons (by decide) h s
  simp [beforeClosing?, htrim]

/-- Behind the parenthesis that is taken for the closing one there are only blanks. -/
theorem exists_trail_of_beforeClosing? {s args : List Char} (h : beforeClosing? s = some args) :
    ∃ trail, (∀ c ∈ trail, isBlank c = true) ∧ s = args ++ ')' :: trail := by
  obtain ⟨trail, htrail, hs⟩ := exists_trimRight_append s
  simp only [beforeClosing?] at h
  split at h
  · next hlast =>
    obtain ⟨front, hfront⟩ := List.getLast?_eq_some_iff.1 hlast
    rw [hfront, List.dropLast_concat] at h
    obtain rfl : front = args := Option.some.inj h
    exact ⟨trail, htrail, by rw [hs, hfront, List.append_assoc, List.singleton_append]⟩
  · cases h

/-! ## Forms -/

/-- The parts of a command: a name and any argument text, with blanks around them. -/
@[ext] structure Form where
  margin : List Char
  name : Name
  gap : List Char
  args : List Char
  trail : List Char
  blankMargin : ∀ c ∈ margin, isBlank c = true
  blankGap : ∀ c ∈ gap, isBlank c = true
  blankTrail : ∀ c ∈ trail, isBlank c = true

namespace Form

/-- What stands behind the opening parenthesis. -/
def behindParen (form : Form) : List Char := form.args ++ ')' :: form.trail

/-- What stands behind the name. -/
def behindName (form : Form) : List Char := form.gap ++ '(' :: form.behindParen

/-- The command as it is written. -/
def text (form : Form) : List Char := form.margin ++ (form.name.text ++ form.behindName)

/-! Each pass of the reader over the text takes one of the parts off. -/

theorem trimLeft_text (form : Form) : trimLeft form.text = form.name.text ++ form.behindName := by
  rw [text, trimLeft_append_of_blank form.blankMargin, form.name.trimLeft_append]

theorem takeWhile_text (form : Form) :
    (trimLeft form.text).takeWhile isNameChar = form.name.text := by
  rw [trimLeft_text]
  exact (form.name.span_append form.blankGap form.behindParen).1

theorem dropWhile_text (form : Form) :
    (trimLeft form.text).dropWhile isNameChar = form.behindName := by
  rw [trimLeft_text]
  exact (form.name.span_append form.blankGap form.behindParen).2

theorem trimLeft_behindName (form : Form) :
    trimLeft form.behindName = '(' :: form.behindParen := by
  rw [behindName, trimLeft_append_of_blank form.blankGap]
  exact trimLeft_cons (by decide) _

theorem beforeClosing?_behindParen (form : Form) :
    beforeClosing? form.behindParen = some form.args :=
  beforeClosing?_append form.blankTrail form.args

/-- A text with a form is split by it. -/
theorem split?_text (form : Form) : split? form.text = some (form.name.text, form.args) := by
  have hstarts : form.name.text.head?.any isNameStart = true := form.name.starts
  simp only [split?, takeWhile_text, dropWhile_text, trimLeft_behindName, hstarts, if_true,
    beforeClosing?_behindParen, Option.map_some]

/-- A text has at most one form. -/
theorem eq_of_text_eq {form other : Form} (h : form.text = other.text) : form = other := by
  -- The passes of the reader give the same on both sides, from the outside to the inside.
  have hname : form.name.text = other.name.text := by
    rw [← takeWhile_text, h, takeWhile_text]
  have hbehindName : form.behindName = other.behindName := by
    rw [← dropWhile_text, h, dropWhile_text]
  have hparen : '(' :: form.behindParen = '(' :: other.behindParen := by
    rw [← trimLeft_behindName, hbehindName, trimLeft_behindName]
  have hbehindParen : form.behindParen = other.behindParen := (List.cons.inj hparen).2
  have hargs : form.args = other.args := by
    have hsome := form.beforeClosing?_behindParen
    rw [hbehindParen, beforeClosing?_behindParen] at hsome
    exact (Option.some.inj hsome).symm
  -- What is left of each text is the blanks, in front of the same or behind the same.
  have hmargin : form.margin = other.margin := by
    rw [text, text, hname, hbehindName] at h
    exact List.append_cancel_right h
  have hgap : form.gap = other.gap := by
    rw [behindName, behindName, hbehindParen] at hbehindName
    exact List.append_cancel_right hbehindName
  have htrail : form.trail = other.trail := by
    rw [behindParen, behindParen, hargs] at hbehindParen
    exact (List.cons.inj (List.append_cancel_left hbehindParen)).2
  exact Form.ext hmargin (Name.eq_of_text_eq hname) hgap hargs htrail

/-- A text that is split has a form. -/
theorem exists_of_split? {s name args : List Char} (h : split? s = some (name, args)) :
    ∃ form : Form, form.text = s ∧ form.name.text = name ∧ form.args = args := by
  -- What each trimming takes away is a part of the form.
  obtain ⟨margin, hmargin, hs⟩ := exists_append_trimLeft s
  have hspan : (trimLeft s).takeWhile isNameChar ++ (trimLeft s).dropWhile isNameChar =
      trimLeft s := List.takeWhile_append_dropWhile
  obtain ⟨gap, hgap, hbehind⟩ := exists_append_trimLeft ((trimLeft s).dropWhile isNameChar)
  simp only [split?] at h
  split at h
  · next hstart =>
    split at h
    · next rest hparen =>
      obtain ⟨found, hclosing, hparts⟩ := Option.map_eq_some_iff.1 h
      obtain ⟨rfl, rfl⟩ := Prod.mk.inj hparts
      obtain ⟨trail, htrail, rfl⟩ := exists_trail_of_beforeClosing? hclosing
      obtain ⟨title, htitle⟩ := exists_name_of_head? hstart (List.all_eq_true.1 List.all_takeWhile)
      refine ⟨⟨margin, title, gap, found, trail, hmargin, hgap, htrail⟩, ?_, htitle, rfl⟩
      rw [text, behindName, behindParen, htitle, ← hparen, ← hbehind, hspan, ← hs]
    · cases h
  · cases h

end Form

/-! ## Reading a command -/

/-- A text is split exactly when it has a form, and then into the name and the argument text of that
form. -/
theorem split?_eq_some_iff {s name args : List Char} :
    split? s = some (name, args) ↔
      ∃ form : Form, form.text = s ∧ form.name.text = name ∧ form.args = args := by
  refine ⟨Form.exists_of_split?, ?_⟩
  rintro ⟨form, rfl, rfl, rfl⟩
  exact form.split?_text

theorem split?_eq_none_iff {s : List Char} : split? s = none ↔ ∀ form : Form, form.text ≠ s := by
  constructor
  · rintro h form rfl
    rw [form.split?_text] at h
    cases h
  · intro h
    cases hsplit : split? s with
    | none => rfl
    | some parts =>
      obtain ⟨form, htext, -, -⟩ := split?_eq_some_iff.1 hsplit
      exact absurd htext (h form)

/-- **The grammar of commands.** With a new cache of any capacity, a text is read exactly when it
has a form. It has only one, and it is read as the name of this form with the arguments that the
chain of strategies finds in its argument text. A text without a form is refused by an error that
holds the text. -/
theorem parse_form (capacity : Option Nat) (command : String) :
    ((∃ parsed, (parse (.empty capacity) command).1 = .ok parsed) ↔
      ∃ form : Form, form.text = command.toList) ∧
    (∀ form other : Form, form.text = command.toList → other.text = command.toList →
      form = other) ∧
    (∀ form : Form, form.text = command.toList →
      (parse (.empty capacity) command).1 =
        .ok ⟨String.ofList form.name.text, readArguments form.args⟩) ∧
    ((¬ ∃ form : Form, form.text = command.toList) →
      (parse (.empty capacity) command).1 = .error (.commandFormat command)) := by
  -- A new cache is faithful, so nothing depends on it.
  have hfresh : (parse (.empty capacity) command).1 = parseFresh command :=
    ((Cache.faithful_empty capacity).parse command).1
  rw [hfresh]
  have hread : ∀ form : Form, form.text = command.toList →
      parseFresh command = .ok ⟨String.ofList form.name.text, readArguments form.args⟩ := by
    intro form htext
    rw [parseFresh, ← htext, form.split?_text]
  have hrefused : (¬ ∃ form : Form, form.text = command.toList) →
      parseFresh command = .error (.commandFormat command) := by
    intro hnone
    have hsplit : split? command.toList = none :=
      split?_eq_none_iff.2 fun form htext => hnone ⟨form, htext⟩
    rw [parseFresh, hsplit]
  have hform : (∃ parsed, parseFresh command = .ok parsed) →
      ∃ form : Form, form.text = command.toList := by
    rintro ⟨parsed, hparsed⟩
    refine Classical.byContradiction fun hnone => ?_
    rw [hrefused hnone] at hparsed
    cases hparsed
  refine ⟨⟨hform, ?_⟩, ?_, hread, hrefused⟩
  · rintro ⟨form, htext⟩
    exact ⟨_, hread form htext⟩
  · intro form other htext hother
    exact Form.eq_of_text_eq (htext.trans hother.symm)

end Deskhand.Command
