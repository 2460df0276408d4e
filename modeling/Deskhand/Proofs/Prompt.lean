/-
  Deskhand.Proofs.Prompt

  What the language model is told.

  The instruction stands in the last line of the prompt, as a string literal. A literal holds no
  line break and is read back to its text, so an instruction can neither end its line nor pass for
  another one. The lines above offer the commands of a registry: one line for each name that is
  registered, in the order of the names, and each line shows how its command is called.
-/

import Deskhand.Prompt
import Deskhand.Proofs.Json.RoundTrip
import Deskhand.Proofs.Registry
import Mathlib.Data.List.Forall2

namespace Deskhand

namespace Json

/-- The literal of a text, on a line of its own. -/
structure LiteralLine (literal text : String) : Prop where
  quoted : ∃ raw, literal.toList = '"' :: (raw ++ ['"']) ∧ Content raw text.toList
  visible : ∀ c ∈ literal.toList, 0x20 ≤ c.toNat
  read : parse literal = .ok (.string text)

theorem literalLine_quote (text : String) : LiteralLine (quote text) text where
  quoted := ⟨text.toList.flatMap escapeChar, by simp [quote, literal], content_literal text.toList⟩
  visible := by
    intro c hc
    rw [quote, String.toList_ofList] at hc
    exact visible_of_mem_literal hc
  read := by
    rw [parse, quote, String.toList_ofList]
    exact (Plain.string text).parseChars_compactChars

theorem LiteralLine.unique {literal text other : String} (h : LiteralLine literal text)
    (hother : LiteralLine literal other) : text = other := by
  -- Reading the literal gives both texts.
  have hread := h.read.symm.trans hother.read
  injection hread with hvalue
  injection hvalue

end Json

namespace CommandDoc

theorem signature_prefix_line (doc : CommandDoc) : doc.signature.toList <+: doc.line.toList := by
  rw [line]
  split
  · exact List.prefix_rfl
  · simp only [String.toList_append, List.append_assoc]
    exact List.prefix_append _ _

/-- The documentation of every command shows the command with its name in front. -/
theorem line_begins {doc : CommandDoc} (h : doc ∈ desktop ++ browser) :
    ∃ rest, doc.line = doc.name ++ "(" ++ rest := by
  -- The documented commands are a closed list, so their signatures are compared by evaluation.
  have hall : ∀ doc ∈ desktop ++ browser, (doc.name ++ "(").toList <+: doc.signature.toList := by
    decide +kernel
  obtain ⟨rest, hrest⟩ := (hall doc h).trans doc.signature_prefix_line
  refine ⟨String.ofList rest, String.toList_inj.1 ?_⟩
  rw [String.toList_append, String.toList_ofList, hrest]

theorem mem_of_find? {name : String} {doc : CommandDoc} (h : find? name = some doc) :
    doc ∈ desktop ++ browser ∧ doc.name = name :=
  ⟨List.mem_of_find?_eq_some h, eq_of_beq (by simpa using List.find?_some h)⟩

end CommandDoc

namespace Prompt

/-- Whether it is documented or not, a command is shown with its name in front. -/
theorem lineOf_begins (name : String) : ∃ rest, lineOf name = name ++ "(" ++ rest := by
  unfold lineOf
  split
  · next doc hfind =>
    obtain ⟨hmem, rfl⟩ := CommandDoc.mem_of_find? hfind
    exact CommandDoc.line_begins hmem
  · exact ⟨"...)", by rw [String.append_assoc]; rfl⟩

/-- An instruction stands in the last line of the prompt as a literal of its own, behind a text that
has nothing to do with it; prompts of different instructions are therefore different. -/
theorem build_confines (prompt : Prompt) :
    (∃ front : String, ∀ instruction, ∃ literal,
      prompt.build instruction = front ++ "User instruction: " ++ literal ++ "\n" ∧
        Json.LiteralLine literal instruction) ∧
      Function.Injective prompt.build := by
  refine ⟨⟨prompt.preamble, fun instruction => ?_⟩, fun instruction other h => ?_⟩
  · exact ⟨Json.quote instruction, rfl, Json.literalLine_quote instruction⟩
  · -- Behind the common front and before the common line break there is only the literal.
    have hline : Json.quote instruction = Json.quote other := by
      simpa [build, String.append_assoc] using h
    have hother := Json.literalLine_quote other
    rw [← hline] at hother
    exact (Json.literalLine_quote instruction).unique hother

variable {I : Interface}

/-- After any history of registrations and removals the registry holds, in ascending order, the
names that are registered and have not been removed since, each with the handler that it got last;
and the prompt offers one command for each of these names, in the same order. -/
theorem ofRegistry_advertises (history : List (Registry.Change I)) :
    let registry := Registry.after history
    registry.names.Pairwise (· < ·) ∧
      (∀ name, name ∈ registry.names ↔ Registry.Registered history name) ∧
      registry.size = registry.names.length ∧
      (∀ name handler,
        registry.lookup name = some handler ↔ Registry.RegisteredLast history name handler) ∧
      (∀ name, name ∉ registry.names → registry.lookup name = none) ∧
      List.Forall₂ (fun name line => ∃ rest, line = name ++ "(" ++ rest) registry.names
        (ofRegistry registry).commands := by
  intro registry
  refine ⟨Registry.pairwise_names_after history, fun name => Registry.mem_names_after_iff,
    (Registry.length_names registry).symm, fun name handler => Registry.lookup_after_iff,
    fun name => Registry.lookup_eq_none_of_notMem, ?_⟩
  rw [ofRegistry, List.forall₂_map_right_iff, List.forall₂_same]
  exact fun name _ => lineOf_begins name

end Prompt

end Deskhand
