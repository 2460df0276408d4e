/-
  Deskhand.Proofs.Desk.Titles

  Titles in scripts.

  The title of a window reaches the platform inside a literal of a script. A literal in apostrophes
  knows one escape, the doubled apostrophe, and doubling every apostrophe of a title is all it
  needs. In a literal in double quotes a backslash takes the next character for itself. Escaping the
  quotes of a title is then right exactly for the titles without a backslash: one that stands in the
  title takes away the character behind it, and where that is a quote, the rest of the title is
  script.
-/

import Deskhand.Desk.Launch

namespace Deskhand.Desk

open Deskhand.Text

/-! ## Reading literals -/

/-- The content of a literal in apostrophes, from behind the opening one, and the text behind the
literal. Two apostrophes stand for one. -/
def readDoubled : List Char → Option (List Char × List Char)
  | [] => none
  | '\'' :: '\'' :: rest =>
    (readDoubled rest).map fun (content, behind) => ('\'' :: content, behind)
  | '\'' :: rest => some ([], rest)
  | c :: rest => (readDoubled rest).map fun (content, behind) => (c :: content, behind)

/-- The content of a literal in double quotes, from behind the opening one, and the text behind the
literal. A backslash stands for the character that follows it. -/
def readEscaped : List Char → Option (List Char × List Char)
  | [] => none
  | '"' :: rest => some ([], rest)
  | '\\' :: c :: rest => (readEscaped rest).map fun (content, behind) => (c :: content, behind)
  | c :: rest => (readEscaped rest).map fun (content, behind) => (c :: content, behind)

/-- The script begins with `opening`, the literal opened there denotes `content`, and what stands
behind the literal is `closing`. -/
def Denotes (read : List Char → Option (List Char × List Char))
    (opening closing script content : String) : Prop :=
  ∃ behind, script.toList = opening.toList ++ behind ∧
    read behind = some (content.toList, closing.toList)

/-! ## Doubled apostrophes -/

/-- The characters of a text, with `replacement` for each `c`. -/
def replaced (c : Char) (replacement s : List Char) : List Char :=
  s.flatMap fun d => if d = c then replacement else [d]

theorem toList_replaceChar (c : Char) (replacement : List Char) (s : String) :
    (replaceChar c replacement s).toList = replaced c replacement s.toList := by
  rw [replaceChar, String.toList_ofList, replaced]

theorem replaced_cons (c d : Char) (replacement s : List Char) :
    replaced c replacement (d :: s) =
      (if d = c then replacement else [d]) ++ replaced c replacement s :=
  List.flatMap_cons

/-- A text with its apostrophes doubled is read back, in front of anything but an apostrophe. -/
theorem readDoubled_replaced (s : List Char) {rest : List Char} (h : rest.head? ≠ some '\'') :
    readDoubled (replaced '\'' ['\'', '\''] s ++ '\'' :: rest) = some (s, rest) := by
  induction s with
  | nil =>
    -- The closing apostrophe is no half of a pair.
    have hend : ∀ more, rest = '\'' :: more → False := by
      rintro more rfl
      exact h rfl
    rw [replaced, List.flatMap_nil, List.nil_append, readDoubled.eq_3 rest hend]
  | cons c s ih =>
    by_cases hc : c = '\''
    · subst hc
      -- Each apostrophe has become a pair, which is read as one.
      simp [replaced_cons, readDoubled, ih]
    · rw [replaced_cons, if_neg hc, List.append_assoc, List.singleton_append, readDoubled, ih]
      · rfl
      · exact fun _ heq _ => hc heq
      · exact hc

/-! ## Escaped quotes -/

/-- Without a backslash a text with its quotes escaped is read back. -/
theorem readEscaped_replaced {s : List Char} (h : '\\' ∉ s) (rest : List Char) :
    readEscaped (replaced '"' ['\\', '"'] s ++ '"' :: rest) = some (s, rest) := by
  induction s with
  | nil => rfl
  | cons c s ih =>
    simp only [List.mem_cons, not_or] at h
    by_cases hc : c = '"'
    · subst hc
      -- The escape is read as the quote.
      simp [replaced_cons, readEscaped, ih h.2]
    · rw [replaced_cons, if_neg hc, List.append_assoc, List.singleton_append, readEscaped, ih h.2]
      · rfl
      · exact hc
      · exact fun _ _ heq _ => h.1 heq.symm

/-- A literal is long enough for its content: every quote and every backslash in the content takes
two characters. -/
theorem length_of_readEscaped {s content behind : List Char}
    (h : readEscaped s = some (content, behind)) :
    content.length + content.count '"' + content.count '\\' + behind.length + 1 ≤ s.length := by
  induction s using readEscaped.induct generalizing content with
  | case1 => cases h
  | case2 rest =>
    obtain ⟨rfl, rfl⟩ : [] = content ∧ rest = behind := by simpa [readEscaped] using h
    simp
  | case3 c rest ih =>
    -- An escape takes two characters for one.
    rw [readEscaped] at h
    obtain ⟨⟨inner, after⟩, hinner, heq⟩ := Option.map_eq_some_iff.1 h
    obtain ⟨rfl, rfl⟩ : c :: inner = content ∧ after = behind := by simpa using heq
    have hlength := ih hinner
    simp only [List.length_cons, List.count_cons]
    by_cases hquote : c = '"'
    · subst hquote
      simp
      omega
    · by_cases hbackslash : c = '\\' <;> simp [hquote, hbackslash] <;> omega
  | case4 c rest hquote hbackslash ih =>
    rw [readEscaped.eq_4 c rest hquote hbackslash] at h
    obtain ⟨⟨inner, after⟩, hinner, heq⟩ := Option.map_eq_some_iff.1 h
    obtain ⟨rfl, rfl⟩ : c :: inner = content ∧ after = behind := by simpa using heq
    have hlength := ih hinner
    -- A lone backslash would be the last character, and the literal would not be closed.
    have hplain : c ≠ '\\' := by
      rintro rfl
      cases rest with
      | nil => cases hinner
      | cons d rest => exact hbackslash d rest rfl rfl
    simp [hplain, show c ≠ '"' from hquote]
    omega

theorem length_replaced_quotes (s : List Char) :
    (replaced '"' ['\\', '"'] s).length = s.length + s.count '"' := by
  induction s with
  | nil => rfl
  | cons c s ih =>
    rw [replaced_cons, List.length_append, ih, List.length_cons, List.count_cons]
    by_cases hc : c = '"' <;> simp [hc] <;> omega

/-- A text with its quotes escaped is read back exactly if it has no backslash. -/
theorem readEscaped_replaced_iff (s rest : List Char) :
    readEscaped (replaced '"' ['\\', '"'] s ++ '"' :: rest) = some (s, rest) ↔ '\\' ∉ s := by
  refine ⟨fun h => ?_, fun h => readEscaped_replaced h rest⟩
  -- The literal has room for the quotes of the text, but for no backslash besides.
  have hroom := length_of_readEscaped h
  rw [List.length_append, length_replaced_quotes, List.length_cons] at hroom
  have hnone : s.count '\\' = 0 := by omega
  exact List.count_eq_zero.1 hnone

/-! ## Requests -/

theorem denotes_append_iff {read : List Char → Option (List Char × List Char)}
    {opening closing behind content : String} :
    Denotes read opening closing (opening ++ behind) content ↔
      read behind.toList = some (content.toList, closing.toList) := by
  simp [Denotes, String.toList_append]

theorem denotes_activationCommand (title : String) :
    Denotes readDoubled "(New-Object -ComObject WScript.Shell).AppActivate('" ")"
      (LaunchRequest.activationCommand title) title := by
  -- Behind the opening come the title and the end of its literal.
  have hbehind : (replaceChar '\'' ['\'', '\''] title ++ "')").toList =
      replaced '\'' ['\'', '\''] title.toList ++ '\'' :: ")".toList := by
    simp [toList_replaceChar]
  unfold LaunchRequest.activationCommand
  rw [String.append_assoc, denotes_append_iff, hbehind]
  exact readDoubled_replaced title.toList (by decide)

/-- The title stays in its literal in the script for macOS unless it has a backslash. -/
theorem denotes_activationScript_iff (title : String) :
    Denotes readEscaped "tell application \"" " to activate"
      (LaunchRequest.activationScript title) title ↔ '\\' ∉ title.toList := by
  have hbehind : (replaceChar '"' ['\\', '"'] title ++ "\" to activate").toList =
      replaced '"' ['\\', '"'] title.toList ++ '"' :: " to activate".toList := by
    simp [toList_replaceChar]
  unfold LaunchRequest.activationScript
  rw [String.append_assoc, denotes_append_iff, hbehind]
  exact readEscaped_replaced_iff title.toList " to activate".toList

/-- **When a title stays in its literal.** In the command for Windows the literal always denotes the
title and ends where it should. In the script for macOS it does so exactly for the titles without a
backslash. -/
theorem focusing_denotes_iff (title : String) :
    (∃ command, (LaunchRequest.focusing .windows title).args =
        ["-NoProfile", "-Command", command] ∧
      Denotes readDoubled "(New-Object -ComObject WScript.Shell).AppActivate('" ")" command title) ∧
    ∃ script, (LaunchRequest.focusing .macOs title).args = ["-e", script] ∧
      (Denotes readEscaped "tell application \"" " to activate" script title ↔
        '\\' ∉ title.toList) := by
  refine ⟨⟨_, rfl, denotes_activationCommand title⟩, ⟨_, rfl, denotes_activationScript_iff title⟩⟩

/-- A title with a backslash before a quote leaves its literal: the literal denotes the backslash
alone, and the quote that should end it is left in the script. -/
theorem not_forall_focusing_denotes :
    (LaunchRequest.focusing .macOs "\\\"").args =
        ["-e", "tell application \"\\\\\"\" to activate"] ∧
      Denotes readEscaped "tell application \"" "\" to activate"
        "tell application \"\\\\\"\" to activate" "\\" ∧
      ¬ ∀ title, ∃ script, (LaunchRequest.focusing .macOs title).args = ["-e", script] ∧
        Denotes readEscaped "tell application \"" " to activate" script title := by
  have hargs : (LaunchRequest.focusing .macOs "\\\"").args =
      ["-e", "tell application \"\\\\\"\" to activate"] := by decide +kernel
  have hread : readEscaped "\\\\\"\" to activate".toList =
      some ("\\".toList, "\" to activate".toList) := by decide +kernel
  refine ⟨hargs, ⟨"\\\\\"\" to activate".toList, by decide +kernel, hread⟩, fun hall => ?_⟩
  obtain ⟨script, hscript, behind, hbehind, hcontent⟩ := hall "\\\""
  obtain rfl : "tell application \"\\\\\"\" to activate" = script := by
    simpa using hargs.symm.trans hscript
  have hrest : behind = "\\\\\"\" to activate".toList := by
    have hsplit : "tell application \"\\\\\"\" to activate".toList =
        "tell application \"".toList ++ "\\\\\"\" to activate".toList := by decide +kernel
    exact (List.append_cancel_left (hsplit.symm.trans hbehind)).symm
  rw [hrest, hread] at hcontent
  exact absurd hcontent (by decide +kernel)

end Deskhand.Desk
