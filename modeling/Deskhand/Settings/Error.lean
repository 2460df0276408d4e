/-
  Deskhand.Settings.Error

  Errors in settings.

  What can be wrong with settings: a variable of the environment that cannot be read, or settings
  that make no sense, wherever they came from.
-/

namespace Deskhand

/-- Why settings were refused. -/
inductive SettingsError where
  | variable (key text : String)
  | invalid (text : String)
  deriving DecidableEq, Repr

def SettingsError.message : SettingsError → String
  | .variable key text => "Invalid environment variable " ++ key ++ ": " ++ text
  | .invalid text => "Invalid configuration: " ++ text

end Deskhand
