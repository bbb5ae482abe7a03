/-
Decimal numbers and the 64-bit binary format:

* `Decimal`: a number as digits and a power of ten;
* `Decimal.nearest`: the nearest number of the binary format;
* `Binary64.shortest`: the fewest digits that read back as a number of the binary format, and of
  those the nearest, the greater of two that are equally near;
* `Decimal.positional`: a number without an exponent.
-/
import ExternalCompiler.Number.Binary64

namespace ExternalCompiler

/-- The number `digits * 10 ^ exponent`. -/
structure Decimal where
  digits : Nat
  exponent : Int
deriving DecidableEq

/-- How many decimal digits a number has. -/
def digitCount (n : Nat) : Nat :=
  (Nat.toDigits 10 n).length

namespace Decimal

/-- The exact value. -/
def ratio (d : Decimal) : Ratio :=
  (Ratio.ofNat d.digits).scaleTen d.exponent

/-- The nearest number of the binary format, if that is finite.  Far beyond both ends of the
format the answer is known without any arithmetic. -/
def nearest (d : Decimal) : Option Binary64 :=
  let size : Int := d.exponent + digitCount d.digits
  if d.digits = 0 ∨ size < -400 then some ⟨0, Binary64.leastExponent⟩
  else if 400 < size then none
  else
    let b := Binary64.ofRatio d.ratio
    if b.isOverflow then none else some b

/-- The number without an exponent and with at least one decimal. -/
def positional (d : Decimal) : String :=
  let digits := Nat.toDigits 10 d.digits
  let zeros (n : Nat) := List.replicate n '0'
  let point : Int := digits.length + d.exponent
  if 0 ≤ d.exponent then String.ofList (digits ++ zeros d.exponent.toNat ++ ['.', '0'])
  else if 0 < point then
    String.ofList (digits.take point.toNat ++ '.' :: digits.drop point.toNat)
  else String.ofList ('0' :: '.' :: (zeros (-point).toNat ++ digits))

end Decimal

namespace Binary64

/-- The lower end of the numbers that round to `b`: halfway to the neighbour below, which is
nearer when `b` is a power of two. -/
def lowerEnd (b : Binary64) : Ratio :=
  let below := if b.mantissa = leadingBit ∧ leastExponent < b.exponent then 1 else 2
  (Ratio.ofNat (4 * b.mantissa - below)).scaleTwo (b.exponent - 2)

/-- The upper end of the numbers that round to `b`. -/
def upperEnd (b : Binary64) : Ratio :=
  (Ratio.ofNat (4 * b.mantissa + 2)).scaleTwo (b.exponent - 2)

/-- Whether a number rounds to `b`: the ends do so when the mantissa is even. -/
def covers (b : Binary64) (r : Ratio) : Bool :=
  if b.mantissa % 2 = 0 then b.lowerEnd.le r && r.le b.upperEnd
  else b.lowerEnd.lt r && r.lt b.upperEnd

/-- The place of the first digit: `10 ^ (firstPlace - 1) ≤ b < 10 ^ firstPlace`. -/
def firstPlace (b : Binary64) : Int :=
  let whole := b.ratio.floor
  if 0 < whole then digitCount whole
  else
    match (List.range 400).find? fun j : Nat => decide (0 < (b.ratio.scaleTen j).floor) with
    | some j => 1 - (j : Int)
    | none => 0

/-- The number nearest to `b` on the grid of the multiples of `10 ^ k` that rounds to `b`, if there
is one; of two that are equally near it is the greater. -/
def onGrid (b : Binary64) (k : Int) : Option Decimal :=
  let d := b.ratio.scaleTen (-k)
  let near : Decimal := ⟨d.roundHalfUp, k⟩
  let low : Decimal := ⟨d.floor, k⟩
  let high : Decimal := ⟨d.floor + 1, k⟩
  [near, low, high].find? fun c => b.covers c.ratio

/-- The fewest digits that read back as `b`, for a positive `b`. -/
def shortest (b : Binary64) : Decimal :=
  let first := b.firstPlace
  ((List.range 18).findSome? fun n : Nat => b.onGrid (first - n)).getD ⟨0, 0⟩

end Binary64

end ExternalCompiler
