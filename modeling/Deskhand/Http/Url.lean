/-
  Deskhand.Http.Url

  URLs.

  What a request for a URL asks its server for: the path, with dot segments resolved, and the query.
  Characters that cannot stand there are written as the percent codes of their bytes. Tabs and line
  breaks mean nothing anywhere, and a backslash in a path is a slash.
-/

import Deskhand.Json.Writer
import Deskhand.Text.Search

namespace Deskhand.Http

open Deskhand.Text

/-- A byte as a percent code. -/
def percentCode (b : UInt8) : List Char := '%' :: (Json.hexPair b.toNat).map Char.toUpper

/-- A character as it stands, or as the percent codes of its bytes. -/
def percentEncodeChar (encodes : Char → Bool) (c : Char) : List Char :=
  if encodes c then (String.utf8EncodeChar c).flatMap percentCode else [c]

def percentEncode (encodes : Char → Bool) (s : List Char) : List Char :=
  s.flatMap (percentEncodeChar encodes)

/-- Control characters and everything beyond ASCII. -/
def isUnprintable (c : Char) : Bool := c.toNat ≤ 0x1F || 0x7F ≤ c.toNat

/-- The characters that are encoded in a query. -/
def encodesQuery (c : Char) : Bool := isUnprintable c || " \"#<>'".toList.contains c

/-- The characters that are encoded in a path. -/
def encodesPath (c : Char) : Bool :=
  isUnprintable c || " \"#<>?^\x60\x7b\x7d".toList.contains c

/-- The characters that are encoded in the value of a form. -/
def encodesForm (c : Char) : Bool := !(c.isAlphanum || "*-._ ".toList.contains c)

/-- The value of a form: spaces become plus signs. -/
def formEncode (s : String) : List Char :=
  (percentEncode encodesForm s.toList).map fun c => if c = ' ' then '+' else c

/-- A URL, as far as a request depends on it: the place that it is sent to, the segments of the path
and the query. -/
structure Url where
  secure : Bool
  authority : List Char
  segments : List (List Char)
  query : Option (List Char)

namespace Url

/-- The text without a given word in front, in any letter case. -/
def withoutScheme (scheme : String) (s : List Char) : Option (List Char) :=
  if asciiLower (s.take scheme.length) = scheme.toList then some (s.drop scheme.length) else none

/-- The ways to write a segment that leads nowhere. -/
def isHere (segment : List Char) : Bool :=
  [".", "%2e"].contains (asciiLowercase (.ofList segment))

/-- The ways to write a segment that leads up. -/
def isUp (segment : List Char) : Bool :=
  ["..", "%2e.", ".%2e", "%2e%2e"].contains (asciiLowercase (.ofList segment))

/-- Resolves the segments of a path behind those of `before`, which stand in reverse. A dot segment
at the end leaves an empty segment. -/
def resolveFrom : (before : List (List Char)) → List (List Char) → List (List Char)
  | before, [] => before.reverse
  | before, segment :: rest =>
    let closing := if rest.isEmpty then [[]] else []
    if isUp segment then resolveFrom (closing ++ before.drop 1) rest
    else if isHere segment then resolveFrom (closing ++ before) rest
    else resolveFrom (percentEncode encodesPath segment :: before) rest

/-- Whether an authority is a host with a port of at most 16 bits, or without one. -/
def isAuthority (authority : List Char) : Bool :=
  let host := authority.takeWhile (· != ':')
  let port := authority.drop (host.length + 1)
  !host.isEmpty && host.all (fun c => c.isAlphanum || c == '.' || c == '-' || c == '_') &&
    port.all Char.isDigit && ((String.ofList port).toNat?.getD 0 ≤ 0xFFFF)

/-- Reads the URL of a web server. -/
def parse? (s : String) : Option Url := do
  let s := s.toList.filter fun c => c != '\t' && c != '\n' && c != '\r'
  let s := s.dropWhile fun c => c.toNat ≤ 0x20
  let s := (s.reverse.dropWhile fun c => c.toNat ≤ 0x20).reverse
  let (secure, s) ←
    match withoutScheme "https:" s with
    | some rest => some (true, rest)
    | none => (withoutScheme "http:" s).map fun rest => (false, rest)
  let s := s.dropWhile fun c => c == '/' || c == '\\'
  let authority := s.takeWhile fun c => !"/\\?#".toList.contains c
  if !isAuthority authority then none
  let s := (s.drop authority.length).takeWhile (· != '#')
  let path := s.takeWhile (· != '?')
  let query := (s.drop path.length).drop 1
  let segments := splitOn '/' (path.map fun c => if c = '\\' then '/' else c)
  return { secure, authority
           segments := resolveFrom [] (if path.isEmpty then segments else segments.drop 1)
           query :=
             if path.length < s.length then some (percentEncode encodesQuery query) else none }

def withPair (url : Url) (key value : String) : Url :=
  let pair := formEncode key ++ '=' :: formEncode value
  { url with
    query :=
      match url.query with
      | none | some [] => some pair
      | some query => some (query ++ '&' :: pair) }

/-- What is asked for on the first line of a request. -/
def target (url : Url) : String :=
  String.ofList (url.segments.flatMap (fun segment => '/' :: segment) ++
    (url.query.elim [] fun query => '?' :: query))

end Url

end Deskhand.Http
