/-
  Deskhand.Yaml.Shape

  Reading YAML by expected shape.

  What a YAML value is taken for depends on what is wanted: any scalar is a text, but only a plain
  one is a number or a truth value. Nothing at all stands for a record without fields or an empty
  list.
-/

import Deskhand.Number.Reading
import Deskhand.Yaml.Basic

namespace Deskhand.Yaml

open Deskhand.Number

def bool? (y : Yaml) : Option Bool :=
  y.plain?.bind fun text =>
    if ["true", "True", "TRUE"].contains text then some true
    else if ["false", "False", "FALSE"].contains text then some false
    else none

/-- The value of a digit of any base up to sixteen. -/
def digitIn? (base : Nat) (c : Char) : Option Nat :=
  let value :=
    if c.isDigit then c.toNat - '0'.toNat
    else if 'a' ≤ c ∧ c ≤ 'f' then c.toNat - 'a'.toNat + 10
    else if 'A' ≤ c ∧ c ≤ 'F' then c.toNat - 'A'.toNat + 10
    else base
  if value < base then some value else none

/-- A number of one digit at least. -/
def digitsIn? (base : Nat) (digits : List Char) : Option Nat :=
  if digits.isEmpty then none
  else digits.foldlM (fun n c => (digitIn? base c).map (base * n + ·)) 0

/-- A natural number; hexadecimal, octal and binary ones have a mark in front. A zero in front of
other digits makes a text of them. -/
def naturalText? (text : List Char) : Option Nat :=
  let unsigned := if text.head? = some '+' then text.drop 1 else text
  match unsigned with
  | '0' :: 'x' :: digits => digitsIn? 16 digits
  | '0' :: 'o' :: digits => digitsIn? 8 digits
  | '0' :: 'b' :: digits => digitsIn? 2 digits
  | '0' :: _ :: _ => none
  | digits => digitsIn? 10 digits

def natural? (above : Nat) (y : Yaml) : Option Nat := do
  let n ← naturalText? (← y.plain?).toList
  if n ≤ above then some n else none

def double? (y : Yaml) : Option Double := do
  let text ← y.plain?
  let unsigned := if text.toList.head? = some '+' then String.ofList (text.toList.drop 1) else text
  if text != unsigned ∧ (unsigned.toList.head?.any fun c => c == '+' || c == '-') then none
  else if [".inf", ".Inf", ".INF"].contains unsigned then some (.infinite false)
  else if ["-.inf", "-.Inf", "-.INF"].contains text then some (.infinite true)
  else if [".nan", ".NaN", ".NAN"].contains text then some .nan
  else
    match read? binary64 unsigned with
    | some x => if x.isFinite then some x else none
    | none => none

def nullable? {α : Type} (read : Yaml → Option α) (y : Yaml) : Option (Option α) :=
  if y.isNull then some none else (read y).map some

def list? {α : Type} (read : Yaml → Option α) : Yaml → Option (List α)
  | .sequence items => items.mapM read
  | y => if y.isEmpty then some [] else none

/-- The value of a field among the pairs of a mapping; a repeated field is refused. -/
def field? (pairs : List (String × Yaml)) (name : String) : Option (Option Yaml) :=
  match pairs.filter fun pair => pair.1 == name with
  | [] => some none
  | [(_, value)] => some (some value)
  | _ => none

/-- The values of the fields of a record in order: by name in a mapping, where unknown names are
passed over, or by position in a sequence, which may be too short but not too long. -/
def fields? (names : List String) : Yaml → Option (List (Option Yaml))
  | .mapping pairs => do
    let pairs ← pairs.mapM fun (key, value) => key.text?.map fun key => (key, value)
    names.mapM (field? pairs)
  | .sequence items =>
    if items.length ≤ names.length then
      some (items.map some ++ List.replicate (names.length - items.length) none)
    else none
  | y => if y.isEmpty then some (names.map fun _ => none) else none

/-- The value of a field that may be missing. -/
def orDefault {α : Type} (read : Yaml → Option α) (default : α) : Option Yaml → Option α
  | none => some default
  | some y => read y

end Deskhand.Yaml
