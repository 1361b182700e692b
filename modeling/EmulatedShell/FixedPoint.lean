import EmulatedShell.Text.Pad

namespace EmulatedShell

/-- The quotient of two numbers rounded to the nearest whole number, a half to the even one. -/
def roundQuotient (num den : Nat) : Nat :=
  let quotient := num / den
  let twice := 2 * (num % den)
  if twice < den then quotient
  else if twice > den then quotient + 1
  else quotient + quotient % 2

/-- A floating-point number taken apart: a sign, and the value `mantissa * 2 ^ exponent`. -/
structure Dyadic where
  negative : Bool
  mantissa : Nat
  exponent : Int
  deriving Repr, DecidableEq

/-- The sign bit of a double. -/
def isNegative (x : Float) : Bool := x.toBits >>> 63 == 1

/-- The exact value of a finite double, read off its bits. -/
def dyadicOf (x : Float) : Dyadic :=
  let bits := x.toBits.toNat
  let exponent : Nat := bits / Nat.pow 2 52 % Nat.pow 2 11
  let fraction := bits % Nat.pow 2 52
  if exponent = 0 then ⟨isNegative x, fraction, -1074⟩
  else ⟨isNegative x, Nat.pow 2 52 + fraction, (exponent : Int) - 1075⟩

/-- The whole number nearest to `scale` times the magnitude, a half to the even one. -/
def Dyadic.scaledBy (d : Dyadic) (scale : Nat) : Nat :=
  match d.exponent with
  | .ofNat k => d.mantissa * Nat.pow 2 k * scale
  | .negSucc k => roundQuotient (d.mantissa * scale) (Nat.pow 2 (k + 1))

/-- The part of the value before the binary point, with its sign. -/
def Dyadic.truncate (d : Dyadic) : Int :=
  let whole :=
    match d.exponent with
    | .ofNat k => d.mantissa * Nat.pow 2 k
    | .negSucc k => d.mantissa / Nat.pow 2 (k + 1)
  if d.negative then -(whole : Int) else whole

/-- A double without its fraction. -/
def truncate (x : Float) : Int := (dyadicOf x).truncate

/-- A number of units of the last place, written with a point before that many places. -/
def placeText (places units : Nat) : String :=
  toString (units / Nat.pow 10 places) ++ "." ++ zeroPadded places (units % Nat.pow 10 places)

/-- A double with a fixed number of places, at least one. The exact binary value is rounded, and
the sign of a zero is kept. -/
def fixedPoint (places : Nat) (x : Float) : String :=
  if x.isNaN then "nan"
  else
    let sign := if isNegative x then "-" else ""
    if x.isInf then sign ++ "inf"
    else sign ++ placeText places ((dyadicOf x).scaledBy (Nat.pow 10 places))

end EmulatedShell
