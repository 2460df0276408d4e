/-
  Deskhand.Desk.Chord

  Chords.

  Keys that are held down together while characters are typed, written with plus signs between them:
  `Ctrl+Shift+T`. A part is one of the customary names in any letter case, a single letter or digit,
  or the name of a key, of which the first letter may be small.
-/

import Deskhand.Desk.Key
import Deskhand.Error
import Deskhand.Text.Blank
import Deskhand.Text.Classes
import Deskhand.Text.Search

namespace Deskhand.Desk

open Deskhand.Text

/-- Keys to hold down, in this order, and characters to type while they are down. -/
structure Chord where
  keys : List Key
  chars : List Char
  deriving DecidableEq, Repr

namespace Chord

def single (key : Key) : Chord := ⟨[key], []⟩

/-- The customary names, in small letters. -/
def customaryNames : List (String × Key) :=
  [("ctrl", .controlLeft), ("control", .controlLeft), ("shift", .shiftLeft), ("alt", .altLeft),
    ("option", .altLeft), ("win", .metaLeft), ("super", .metaLeft), ("meta", .metaLeft),
    ("cmd", .metaLeft), ("leftsuper", .leftSuper), ("rightsuper", .rightSuper), ("enter", .enter),
    ("return", .enter), ("esc", .escape), ("escape", .escape), ("tab", .tab), ("space", .space),
    ("slash", .slash), ("/", .slash), ("backslash", .backslash), ("\\", .backslash),
    ("backspace", .backspace), ("delete", .delete), ("del", .delete), ("home", .home),
    ("end", .end_), ("pageup", .pageUp), ("pagedown", .pageDown), ("arrowup", .arrowUp),
    ("up", .arrowUp), ("arrowdown", .arrowDown), ("down", .arrowDown), ("arrowleft", .arrowLeft),
    ("left", .arrowLeft), ("arrowright", .arrowRight), ("right", .arrowRight), ("f1", .f1),
    ("f2", .f2), ("f3", .f3), ("f4", .f4), ("f5", .f5), ("f6", .f6), ("f7", .f7), ("f8", .f8),
    ("f9", .f9), ("f10", .f10), ("f11", .f11), ("f12", .f12)]

/-- What a part of a chord adds to it. -/
inductive Part where
  | key (key : Key)
  | char (c : Char)
  deriving DecidableEq, Repr

/-- The single letter or digit that a text consists of. -/
def singleChar? (part : String) : Option Char :=
  match part.toList with
  | [c] => if c.isAlphanum then some c else none
  | _ => none

/-- The key or character that a part stands for. -/
def readPart (part : String) : Option Part :=
  match customaryNames.lookup (asciiLowercase part) with
  | some key => some (.key key)
  | none =>
    match singleChar? part with
    | some c => some (.char c)
    | none => (Key.ofName? (capitalize part)).map .key

/-- The chord with one more part in front. -/
def prepend (chord : Chord) : Part → Chord
  | .key key => { chord with keys := key :: chord.keys }
  | .char c => { chord with chars := c :: chord.chars }

/-- The chord of some parts. The first part that means nothing is reported. -/
def ofParts : List String → Except ActionError Chord
  | [] => .ok ⟨[], []⟩
  | part :: rest =>
    match readPart part with
    | none => .error (.unknownKey part)
    | some found => (ofParts rest).map fun chord => chord.prepend found

/-- The parts of a text between plus signs, without blanks around them. -/
def parts (s : String) : List String :=
  (splitOn '+' s.toList).map fun part => String.ofList (trimBoth part)

def parse (s : String) : Except ActionError Chord := ofParts (parts s)

end Chord

end Deskhand.Desk
