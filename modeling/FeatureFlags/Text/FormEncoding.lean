import FeatureFlags.Text.Ascii
import FeatureFlags.Text.Utf8

/-!
# Form encoding

The encoding `application/x-www-form-urlencoded` of one value. Letters, digits and the four marks
`*`, `-`, `.` and `_` stand for themselves, a space becomes a plus sign, and every other octet is
written as a percent sign and two upper-case hexadecimal digits.
-/

set_option autoImplicit false

namespace FeatureFlags.Text

/-- Whether an octet stands for itself in form encoding. -/
def isFormUnreserved (b : UInt8) : Bool :=
  let c := Char.ofNat b.toNat
  b < 0x80 && (c.isAlphanum || c == '*' || c == '-' || c == '.' || c == '_')

/-- The percent sign and the two hexadecimal digits of an octet. -/
def percentEncode (b : UInt8) : List Char := '%' :: upper (hexOctet b)

/-- The form encoding of one octet. -/
def formEncodeOctet (b : UInt8) : List Char :=
  if isFormUnreserved b then [Char.ofNat b.toNat]
  else if b = 0x20 then ['+']
  else percentEncode b

/-- The form encoding of a text. -/
def formEncode (s : String) : String := String.ofList ((octets s).flatMap formEncodeOctet)

end FeatureFlags.Text
