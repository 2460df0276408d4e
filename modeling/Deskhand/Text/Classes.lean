/-
  Deskhand.Text.Classes

  Character classes and upper case.

  What the Unicode tables say about one character. ASCII is answered without looking into a table.
-/

import Deskhand.Text.CaseTable
import Deskhand.Text.HiddenTable
import Deskhand.Text.WordTable

namespace Deskhand.Text

def inRanges (ranges : List (Nat × Nat)) (n : Nat) : Bool :=
  ranges.any fun (first, last) => first ≤ n && n ≤ last

/-- Whether `c` is a word character: a letter, mark, decimal digit, connecting punctuation such as
the underscore, or a joiner. -/
def isWordChar (c : Char) : Bool :=
  if c.toNat < 0x80 then c.isAlphanum || c == '_' else inRanges wordRanges c.toNat

/-- Whether `c`, from U+007F on, cannot be shown as it is. -/
def isHidden (c : Char) : Bool :=
  0x7F ≤ c.toNat && inRanges hiddenRanges c.toNat

/-- The upper-case form of a character beyond ASCII that becomes one character. -/
def singleUpper? (n : Nat) : Option Char :=
  (caseRuns.find? fun run => run.first ≤ n && n ≤ run.last && (n - run.first) % run.step == 0).map
    fun run => Char.ofNat (run.upper + (n - run.first))

/-- The full upper-case form of a character, of one to three characters. -/
def upperChar (c : Char) : List Char :=
  if c.toNat < 0x80 then [c.toUpper]
  else
    match singleUpper? c.toNat with
    | some upper => [upper]
    | none =>
      match wideCases.find? fun entry => entry.1 == c.toNat with
      | some (_, upper) => upper.map Char.ofNat
      | none => [c]

def uppercase (s : String) : String := String.ofList (s.toList.flatMap upperChar)

def capitalize (s : String) : String :=
  match s.toList with
  | [] => ""
  | c :: rest => String.ofList (upperChar c ++ rest)

/-- Whether `c` is the lower-case ASCII letter `letter` when case is ignored. Two letters have a
third form outside ASCII: the Kelvin sign is a `k` and the long `s` an `s`. -/
def matchesLetter (letter c : Char) : Bool :=
  c.toLower == letter || (letter == 'k' && c == '\u212A') || (letter == 's' && c == '\u017F')

end Deskhand.Text
