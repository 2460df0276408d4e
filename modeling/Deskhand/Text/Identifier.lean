/-
  Deskhand.Text.Identifier

  Identifiers.

  Identifiers that are as good as never used twice: 128 bits in hexadecimal, of which six are fixed
  and say that the others were drawn at random.
-/

import Deskhand.Json.Writer

namespace Deskhand.Text

/-- The identifier made of sixteen bytes. -/
def identifierOf (bytes : List UInt8) : String :=
  let fixed := bytes.mapIdx fun i b =>
    if i = 6 then 0x40 ||| (b &&& 0x0F) else if i = 8 then 0x80 ||| (b &&& 0x3F) else b
  let digits (start count : Nat) : List Char :=
    ((fixed.drop start).take count).flatMap fun b => Json.hexPair b.toNat
  String.ofList (['-'].intercalate
    [digits 0 4, digits 4 2, digits 6 2, digits 8 2, digits 10 6])

end Deskhand.Text
