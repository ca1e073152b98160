import DialogueScript.Text.Basic
import DialogueScript.Decimal.Shortest

/-!
# Writing floating point numbers

Which numbers are written positionally and which with an exponent is a choice of the format that
is written, so it is a value, `FloatFormat`.
-/

namespace DialogueScript.Decimal

/-- The choices of a format for floating point numbers: the decimal exponents, first and last,
that are written positionally. Others are written with a signed exponent. -/
structure FloatFormat where
  positionalFrom : Int
  positionalTo : Int

/-- Digits with a point somewhere among them. A whole number keeps one zero after the point. -/
def positional (d : Digits) : Text :=
  let ds := Text.ofNat d.digits
  if 0 ≤ d.exponent then ds ++ List.replicate d.exponent.toNat '0' ++ ['.', '0']
  else
    let places := (-d.exponent).toNat
    if places < ds.length then
      ds.take (ds.length - places) ++ '.' :: ds.drop (ds.length - places)
    else '0' :: '.' :: (List.replicate (places - ds.length) '0' ++ ds)

/-- One digit, the others after a point, and the exponent with its sign. -/
def scientific (d : Digits) : Text :=
  let ds := Text.ofNat d.digits
  let exponent := d.exponent + ds.length - 1
  let point := if ds.length = 1 then [] else '.' :: ds.drop 1
  let sign := if exponent < 0 then '-' else '+'
  ds.take 1 ++ point ++ 'e' :: sign :: Text.ofNat exponent.natAbs

/-- The value of the bit that makes a number negative. -/
def signBit : Nat := Nat.pow 2 63

/-- A floating point number in this format, by its shortest digits. -/
def FloatFormat.write (format : FloatFormat) (x : Float) : Text :=
  let bits := x.toBits.toNat
  let sign : Text := if bits / signBit = 1 then ['-'] else []
  if bits % signBit = 0 then sign ++ "0.0".toList
  else
    let d := (Binary.ofBits (bits % signBit)).shortest
    let leading := d.exponent + (Text.ofNat d.digits).length - 1
    if format.positionalFrom ≤ leading ∧ leading ≤ format.positionalTo then sign ++ positional d
    else sign ++ scientific d

end DialogueScript.Decimal
