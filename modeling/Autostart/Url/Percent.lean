import Autostart.Text.Digits
import Autostart.Text.Utf8

/-!
# Percent escapes

In a URL a byte can be written as a percent sign and two hexadecimal digits. A percent sign that two
such digits do not follow stands for itself.
-/

namespace Autostart.Url

/-- The byte that two hexadecimal digits write. -/
def hexByte? (high low : UInt8) : Option UInt8 :=
  match Digits.digit? (Char.ofNat high.toNat), Digits.digit? (Char.ofNat low.toNat) with
  | some h, some l => some (UInt8.ofNat (16 * h + l))
  | _, _ => none

/-- The bytes with their percent escapes resolved. -/
def percentDecode : List UInt8 → List UInt8
  | 0x25 :: high :: low :: rest =>
    match hexByte? high low with
    | some b => b :: percentDecode rest
    | none => 0x25 :: percentDecode (high :: low :: rest)
  | b :: rest => b :: percentDecode rest
  | [] => []

/-- The bytes of a text with its percent escapes resolved. -/
def decodedBytes (cs : List Char) : List UInt8 :=
  percentDecode (Utf8.encode (String.ofList cs))

end Autostart.Url
