set_option autoImplicit false

/-!
# Shortest decimals of binary fractions

A binary floating-point number stands for a small interval of reals: all those that round to it.
Its shortest decimal is the one with the fewest digits in that interval and, of those, the one
nearest to the number itself. Everything is computed in exact integer arithmetic.

## Main definitions

* `Decimal.Binary` — a positive number `mantissa · 2 ^ exponent` with its rounding interval.
* `Decimal.Digits` — a decimal number `digits · 10 ^ exponent`.
* `Decimal.Binary.shortest` — the shortest decimal of a binary number.
* `Decimal.Digits.positional` — a decimal written out in full, without an exponent.

## Implementation notes

Numbers are compared as fractions of naturals with a common scale, so that no rounding occurs. At
most seventeen digits are ever needed to tell two 64-bit numbers apart.
-/

namespace CodeIndex

namespace Decimal

/-- A decimal number `digits · 10 ^ exponent`. -/
structure Digits where
  digits : Nat
  exponent : Int
deriving DecidableEq, Repr

/-- A positive binary number `mantissa · 2 ^ exponent`. `narrow` says that the gap to the next
smaller number is half of the gap to the next larger one. -/
structure Binary where
  mantissa : Nat
  exponent : Int
  narrow : Bool
deriving DecidableEq, Repr

/-- The numerator of `n · b ^ e` over the denominator `scaleDown b e`. -/
def scaleUp (n b : Nat) (e : Int) : Nat := n * b.pow e.toNat

/-- The denominator of `n · b ^ e` for a negative `e`, and one otherwise. -/
def scaleDown (b : Nat) (e : Int) : Nat := b.pow (-e).toNat

namespace Binary

/-- Four times the number, as a fraction: the ends of its interval have integral numerators on this
scale. -/
def quarter (x : Binary) : Int := x.exponent - 2

/-- The lower end of the interval, in quarters of the last binary place. -/
def lower (x : Binary) : Nat := if x.narrow then 4 * x.mantissa - 1 else 4 * x.mantissa - 2

/-- The upper end of the interval, in quarters of the last binary place. -/
def upper (x : Binary) : Nat := 4 * x.mantissa + 2

/-- Compare `n · 2 ^ e` with the decimal `d · 10 ^ k`: both brought to one denominator. -/
def common (n : Nat) (e : Int) (d : Nat) (k : Int) : Nat × Nat :=
  (scaleUp n 2 e * scaleDown 10 k, scaleUp d 10 k * scaleDown 2 e)

/-- Whether a decimal rounds to the number. The ends of the interval count when the mantissa is
even. -/
def accepts (x : Binary) (d : Nat) (k : Int) : Bool :=
  let (lo, a) := common x.lower x.quarter d k
  let (hi, b) := common x.upper x.quarter d k
  if x.mantissa % 2 = 0 then decide (lo ≤ a) && decide (b ≤ hi)
  else decide (lo < a) && decide (b < hi)

/-- The largest `d` such that `d · 10 ^ k` does not exceed the number. -/
def floorAt (x : Binary) (k : Int) : Nat :=
  (scaleUp x.mantissa 2 x.exponent * scaleDown 10 k) /
    (scaleDown 2 x.exponent * scaleUp 1 10 k)

/-- Whether `d · 10 ^ k` is at least as near to the number as `(d + 1) · 10 ^ k`. -/
def nearerBelow (x : Binary) (d : Nat) (k : Int) : Bool :=
  let (v, w) := common (2 * x.mantissa) x.exponent (2 * d + 1) k
  decide (v ≤ w)

/-- The nearest decimal with last place `10 ^ k` that rounds to the number, if there is one. -/
def atPlace? (x : Binary) (k : Int) : Option Digits :=
  let d := x.floorAt k
  let below := decide (0 < d) && x.accepts d k
  let above := x.accepts (d + 1) k
  if below && (!above || x.nearerBelow d k) then some ⟨d, k⟩
  else if above then some ⟨d + 1, k⟩
  else none

/-- The decimal place of the leading digit. `n` bounds the places that are tried. -/
def leadingPlace (x : Binary) : (n : Nat) → Int → Int
  | 0, k => k
  | n + 1, k => if x.floorAt k = 0 then leadingPlace x n (k - 1) else k

/-- Try one digit, then two, and so on. -/
def search (x : Binary) : (n : Nat) → Int → Digits
  | 0, k => ⟨x.floorAt k, k⟩
  | n + 1, k => (x.atPlace? k).getD (search x n (k - 1))

/-- The shortest decimal that rounds to the number, the nearest one among those. -/
def shortest (x : Binary) : Digits := search x 17 (x.leadingPlace 640 310)

end Binary

/-- A decimal without trailing zeros among its digits. `n` bounds their number. -/
def Digits.reduced : (n : Nat) → Digits → Digits
  | 0, x => x
  | n + 1, x => if x.digits % 10 = 0 then reduced n ⟨x.digits / 10, x.exponent + 1⟩ else x

/-- The decimal written out in full, without an exponent and without a useless point. -/
def Digits.positional (x : Digits) : String :=
  let ds := Nat.toDigits 10 x.digits
  if 0 ≤ x.exponent then String.ofList (ds ++ List.replicate x.exponent.toNat '0')
  else
    let places := (-x.exponent).toNat
    if places < ds.length then
      String.ofList (ds.take (ds.length - places) ++ '.' :: ds.drop (ds.length - places))
    else String.ofList ('0' :: '.' :: (List.replicate (places - ds.length) '0' ++ ds))

/-! ## 64-bit numbers -/

/-- What the bits of a 64-bit number stand for. -/
inductive Double where
  | nan
  | infinite (negative : Bool)
  | zero (negative : Bool)
  | finite (negative : Bool) (magnitude : Binary)
deriving DecidableEq, Repr

/-- Read the sign, the biased exponent and the fraction. -/
def Double.ofBits (bits : UInt64) : Double :=
  let n := bits.toNat
  let negative := decide (Nat.pow 2 63 ≤ n)
  let biased : Nat := n / Nat.pow 2 52 % Nat.pow 2 11
  let fraction : Nat := n % Nat.pow 2 52
  if biased = Nat.pow 2 11 - 1 then (if fraction = 0 then .infinite negative else .nan)
  else if biased = 0 then
    if fraction = 0 then .zero negative else .finite negative ⟨fraction, -1074, false⟩
  else
    .finite negative
      ⟨Nat.pow 2 52 + fraction, Int.ofNat biased - 1075,
        decide (fraction = 0) && decide (1 < biased)⟩

/-- A number as text: the shortest digits that read back, never an exponent, no trailing point. -/
def Double.text : Double → String
  | .nan => "NaN"
  | .infinite negative => if negative then "-inf" else "inf"
  | .zero negative => if negative then "-0" else "0"
  | .finite negative x =>
    let digits := (x.shortest.reduced 17).positional
    if negative then "-" ++ digits else digits

end Decimal

end CodeIndex
