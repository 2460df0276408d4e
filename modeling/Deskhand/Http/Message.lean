/-
  Deskhand.Http.Message

  Requests and responses.

  What a server gets and what it gives back. The names of headers may be written in any letter case.
-/

import Deskhand.Json.Basic
import Deskhand.Text.Search

namespace Deskhand.Http

open Deskhand.Text

structure Request where
  method : String
  target : String
  headers : List (String × String)
  body : List UInt8

/-- A response, whose body is a JSON value or empty. -/
structure Response where
  status : Nat
  headers : List (String × String)
  body : Option Json

namespace Request

/-- The first value of a header, whose name is given in lower case. -/
def header? (request : Request) (name : String) : Option String :=
  (request.headers.find? fun header => asciiLowercase header.1 == name).map (·.2)

/-- The target without the scheme and the host in front of its path, where it has these. -/
def localTarget (target : List Char) : List Char :=
  if target.head? = some '/' then target
  else
    match cutAt "://".toList target with
    | some (_, rest) => rest.dropWhile fun c => !"/?#".toList.contains c
    | none => target

/-- The path that is asked for, without query and fragment. -/
def path (request : Request) : String :=
  String.ofList ((localTarget request.target.toList).takeWhile fun c => c != '?' && c != '#')

end Request

namespace Response

def empty (status : Nat) (headers : List (String × String)) : Response := ⟨status, headers, none⟩

def json (status : Nat) (body : Json) : Response :=
  ⟨status, [("content-type", "application/json")], some body⟩

def withHeaders (response : Response) (headers : List (String × String)) : Response :=
  { response with headers := response.headers ++ headers }

def withoutBody (response : Response) : Response := { response with body := none }

end Response

end Deskhand.Http
