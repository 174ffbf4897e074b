import Tollgate.Text.Hex
import Tollgate.Text.Pieces
import Tollgate.Text.Utf8

/-! Named values in the form in which queries carry them, and octets escaped by their codes. -/

namespace Tollgate.Web

/-- The octets with each escape replaced by what it stands for; an escape without two digits of
base sixteen stands for itself. -/
def unescape : List UInt8 → List UInt8
  | octet :: high :: low :: rest =>
    if octet.toNat = '%'.toNat then
      match Text.hexValue? (Char.ofNat high.toNat), Text.hexValue? (Char.ofNat low.toNat) with
      | some high, some low => UInt8.ofNat (high * 16 + low) :: unescape rest
      | _, _ => octet :: unescape (high :: low :: rest)
    else octet :: unescape (high :: low :: rest)
  | short => short

/-- A plus sign stands for a space. -/
def plusToSpace (octet : UInt8) : UInt8 :=
  if octet.toNat = '+'.toNat then UInt8.ofNat ' '.toNat else octet

/-- The text a name or value of a form stands for. -/
def decodeForm (octets : List UInt8) : String :=
  Text.decodeLossy (unescape (octets.map plusToSpace))

/-- The name and the value of one piece of a form, the value being empty if there is no sign of
one. -/
def formPair (piece : List UInt8) : String × String :=
  let (name, value) := Text.cutAtFirst (UInt8.ofNat '='.toNat) piece
  (decodeForm name, decodeForm value)

/-- The names and values of a form in their order. -/
def formPairs (form : String) : List (String × String) :=
  let pieces := Text.pieces (UInt8.ofNat '&'.toNat) form.toUTF8.toList
  (pieces.filter (!·.isEmpty)).map formPair

end Tollgate.Web
