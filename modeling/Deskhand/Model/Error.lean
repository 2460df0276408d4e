/-
  Deskhand.Model.Error

  Errors of the language model.

  Why a text could not be had from a model that is asked over the network.
-/

namespace Deskhand.Model

/-- Why there is no text. A failure of the connection itself has no wording of its own here. -/
inductive Error where
  | connection
  | authentication (text : String)
  | missingKey (text : String)
  | rateLimit (text : String)
  | invalidResponse (text : String)
  | provider (text : String)
  | settings (text : String)
  deriving DecidableEq, Repr

namespace Error

def message : Error → String
  | .connection => "HTTP request failed"
  | .authentication text => "Authentication failed: " ++ text
  | .missingKey text => "API key not found: " ++ text
  | .rateLimit text => "Rate limit exceeded: " ++ text
  | .invalidResponse text => "Invalid response: " ++ text
  | .provider text => "Provider error: " ++ text
  | .settings text => "Configuration error: " ++ text

/-- Whether the key is to blame. -/
def isAuthentication : Error → Bool
  | .authentication _ | .missingKey _ => true
  | _ => false

/-- Whether the same request may succeed later. -/
def isTransient : Error → Bool
  | .connection | .rateLimit _ => true
  | _ => false

end Error

end Deskhand.Model
