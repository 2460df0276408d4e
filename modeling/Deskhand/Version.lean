/-
  Deskhand.Version

  The version of the program.
-/

namespace Deskhand

def version : String := "0.1.0"

end Deskhand
