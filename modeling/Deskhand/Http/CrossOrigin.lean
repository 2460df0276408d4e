/-
  Deskhand.Http.CrossOrigin

  Calls from other origins.

  Which pages may read what the server answers. A browser sends the origin of the page along, and
  the answer repeats it if it is one of the allowed origins. Before a call that is out of the
  ordinary it asks with the method `OPTIONS`, which is answered without a look at the path.
-/

import Deskhand.Http.Message

namespace Deskhand.Http.CrossOrigin

/-- Whether a text can be the value of a header: it holds no control characters but tabs. -/
def isHeaderText (s : String) : Bool :=
  s.toList.all fun c => (0x20 ≤ c.toNat && c != '\x7f') || c == '\t'

/-- The origin of a request if it is allowed. -/
def allowedOrigin? (allowed : List String) (request : Request) : Option String :=
  (request.header? "origin").filter fun origin => isHeaderText origin && allowed.contains origin

/-- Whether a request only asks what calls are possible. -/
def isPreflight (request : Request) : Bool := request.method == "OPTIONS"

def commonHeaders (allowed : List String) (request : Request) : List (String × String) :=
  ("vary", "origin, access-control-request-method, access-control-request-headers") ::
    (allowedOrigin? allowed request).toList.map fun origin =>
      ("access-control-allow-origin", origin)

/-- The answer to a request that only asks what calls are possible. -/
def preflight : Response :=
  .empty 200 [("access-control-allow-methods", "GET,POST"),
    ("access-control-allow-headers", "content-type")]

end Deskhand.Http.CrossOrigin
