/-
  Deskhand.Text.Redaction

  Redaction.

  Secrets must not reach the logs. Five rules are applied one after the other, each to the whole
  text: a key in the query of a URL, and whatever follows the words for keys, passwords, tokens and
  bearer authorizations. What a rule keeps is the word as it stands in the text.
-/

import Deskhand.Text.Blank
import Deskhand.Text.Classes
import Deskhand.Text.Search

namespace Deskhand.Text.Redaction

/-- What is written in the place of a secret. -/
def mark : List Char := "[REDACTED]".toList

/-- A word at the front of a text in any letter case, as it stands there, and the text after it. -/
def word : List Char → List Char → Option (List Char × List Char)
  | [], rest => some ([], rest)
  | _ :: _, [] => none
  | letter :: letters, c :: rest =>
    if matchesLetter letter c then
      (word letters rest).map fun (found, rest) => (c :: found, rest)
    else none

/-- One of some words. -/
def oneOf : List String → List Char → Option (List Char × List Char)
  | [], _ => none
  | w :: words, s => (word w.toList s).orElse fun _ => oneOf words s

/-- The text after blanks and a character that satisfies `separates`. -/
def afterSeparator (separates : Char → Bool) (s : List Char) : Option (List Char) :=
  match trimLeft s with
  | c :: rest => if separates c then some rest else none
  | [] => none

/-- The text after a run of characters that are not blank, if there is one. -/
def afterSecret (s : List Char) : Option (List Char) :=
  match s with
  | c :: rest => if isBlank c then none else some (rest.dropWhile fun d => !isBlank d)
  | [] => none

/-- What a rule writes for a match, from the whole text and the text after the match. -/
def replaced (s : List Char) (text : List Char) (rest : List Char) : List Char × Nat :=
  (text, s.length - rest.length)

/-- A key in the query of a URL. -/
def queryKey : Rule := fun s =>
  match s with
  | c :: 'k' :: 'e' :: 'y' :: '=' :: rest =>
    let after := rest.dropWhile fun d => d != '&' && !isBlank d
    -- An empty value is no secret.
    if (c = '?' ∨ c = '&') ∧ after.length < rest.length then
      some (replaced s (c :: "key=".toList ++ mark) after)
    else none
  | _ => none

/-- A word that is followed by a colon or an equals sign and a secret. -/
def named (find : List Char → Option (List Char × List Char)) : Rule := fun s => do
  let (found, rest) ← find s
  let rest ← afterSeparator (fun c => c == ':' || c == '=') rest
  let rest ← afterSecret (trimLeft rest)
  return replaced s (found ++ ": ".toList ++ mark) rest

/-- The words for an API key: there may be one blank, underscore or hyphen in between. -/
def apiKey (s : List Char) : Option (List Char × List Char) := do
  let (api, rest) ← word "api".toList s
  let (between, rest) :=
    match rest with
    | c :: after => if isBlank c || c == '_' || c == '-' then ([c], after) else ([], c :: after)
    | [] => ([], [])
  let (key, rest) ← word "key".toList rest
  return (api ++ between ++ key, rest)

/-- A bearer authorization. -/
def bearer : Rule := fun s => do
  let (found, rest) ← word "authorization".toList s
  let rest ← afterSeparator (· == ':') rest
  let (_, rest) ← word "bearer".toList (trimLeft rest)
  -- At least one blank separates the scheme from the secret.
  let secret := trimLeft rest
  if secret.length < rest.length then
    let rest ← afterSecret secret
    return replaced s (found ++ ": Bearer ".toList ++ mark) rest
  else none

/-- The rules in the order in which they are applied. -/
def rules : List Rule :=
  [queryKey, named apiKey, named (oneOf ["password", "passwd", "pwd"]),
    named (oneOf ["token", "secret"]), bearer]

def redactChars (s : List Char) : List Char := rules.foldl (fun s rule => substitute rule s) s

def redact (s : String) : String := String.ofList (redactChars s.toList)

/-- The first characters of a text, with an ellipsis if there are more than `count`. -/
def shorten (s : String) (count : Nat) : String :=
  if count < s.toList.length then String.ofList (s.toList.take count) ++ "…" else s

end Deskhand.Text.Redaction
