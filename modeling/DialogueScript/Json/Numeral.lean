import DialogueScript.Json.Fault

/-!
# JSON numerals

The grammar of a numeral, and its value. An integer that fits 64 bits is kept as it is. Any other
number is a double: its digits are gathered into a 64 bit significand as long as they fit, and
the significand is scaled by a power of ten. A number beyond the range of doubles is refused.
-/

namespace DialogueScript.Json

/-- A numeral without its sign. The exponent tells whether it is negative. -/
structure Numeral where
  whole : Text
  fraction : Option Text
  exponent : Option (Bool × Text)
deriving DecidableEq

/-- The digits at the front, at least one, and what follows them. -/
def readDigits (atEnd : Fault) (t : Text) : Except Fault (Text × Text) :=
  match t with
  | [] => .error atEnd
  | c :: _ =>
    if c.isDigit then .ok (t.takeWhile Char.isDigit, t.dropWhile Char.isDigit)
    else .error .malformed

/-- Reads the exponent of a numeral, if one follows. -/
def readExponent (atEnd : Fault) (t : Text) : Except Fault (Option (Bool × Text) × Text) :=
  let digits (negative : Bool) (t : Text) := do
    let (ds, t) ← readDigits atEnd t
    return (some (negative, ds), t)
  let signed (t : Text) := match t with
    | '-' :: t => digits true t
    | '+' :: t => digits false t
    | t => digits false t
  match t with
  | 'e' :: t => signed t
  | 'E' :: t => signed t
  | t => .ok (none, t)

/-- Reads a numeral after its sign. `atEnd` is the fault of a text that ends inside it. -/
def Numeral.read (atEnd : Fault) (t : Text) : Except Fault (Numeral × Text) := do
  let (whole, t) ← readDigits atEnd t
  if whole.length != 1 && whole.head? == some '0' then throw .malformed
  match t with
  | '.' :: t =>
    let (fraction, t) ← readDigits atEnd t
    let (exponent, t) ← readExponent atEnd t
    return (⟨whole, some fraction, exponent⟩, t)
  | t =>
    let (exponent, t) ← readExponent atEnd t
    return (⟨whole, none, exponent⟩, t)

/-- Appends digits to a significand until one does not fit 64 bits; also counts the digits from
that one on. -/
def gather (significand : Nat) : Text → Nat × Nat
  | [] => (significand, 0)
  | c :: ds =>
    let next := significand * 10 + Text.digitValue c
    if next < Nat.pow 2 64 then gather next ds else (significand, ds.length + 1)

/-- The power of ten nearest to `10 ^ n`, for `n` up to 308. -/
def powerOfTen (n : Nat) : Float := .ofScientific 1 false n

/-- A double scaled by a power of ten, unless that leaves the range of doubles. A power below the
table of powers is reached in steps. -/
def scale? (f : Float) (exponent : Int) : Option Float :=
  if 308 < exponent then
    if f == 0 then some f else none
  else if exponent < -308 then
    if f == 0 then some f else scale? (f / powerOfTen 308) (exponent + 308)
  else if 0 ≤ exponent then
    let scaled := f * powerOfTen exponent.toNat
    if scaled.isInf then none else some scaled
  else some (f / powerOfTen (-exponent).toNat)
termination_by (-exponent).toNat
decreasing_by omega

/-- The integer with this sign and magnitude. There is no negative zero among integers, and the
range is that of 64 bits. -/
def integer? (negative : Bool) (magnitude : Nat) : Option Int :=
  if negative then
    if 0 < magnitude ∧ magnitude ≤ Nat.pow 2 63 then some (-magnitude) else none
  else some magnitude

/-- The largest exponent that is told apart from larger ones. -/
def exponentLimit : Nat := 2147483647

/-- The double of a numeral, unless it is out of range. -/
def Numeral.float? (n : Numeral) : Option Float :=
  let (whole, dropped) := gather 0 n.whole
  let fraction := n.fraction.getD []
  let (significand, unused) := gather whole fraction
  let exponent : Int := (dropped : Int) - (fraction.length - unused : Nat)
  let f := significand.toUInt64.toFloat
  match n.exponent with
  | none => scale? f exponent
  | some (negative, digits) =>
    let given := Text.decimalValue digits
    if exponentLimit < given then
      if significand != 0 && !negative then none else some 0
    else scale? f (if negative then exponent - given else exponent + given)

/-- The value of a numeral with its sign. -/
def Numeral.value? (negative : Bool) (n : Numeral) : Option Number :=
  let float := n.float?.map fun f => Number.float (if negative then -f else f)
  match n.fraction, n.exponent, gather 0 n.whole with
  | none, none, (magnitude, 0) =>
    match integer? negative magnitude with
    | some i => some (.int i)
    | none => float
  | _, _, _ => float

end DialogueScript.Json
