/-
Non-negative numbers in the 64-bit binary floating-point format:

* `Binary64`: a mantissa and a power of two;
* `Binary64.ofRatio`: the nearest such number, a tie going to the even mantissa;
* `Binary64.fixed`: a number with a fixed count of decimal places, rounded from its exact value.
-/
import ExternalCompiler.Number.Rounding

namespace ExternalCompiler

/-- The number `mantissa * 2 ^ exponent`. -/
structure Binary64 where
  mantissa : Nat
  exponent : Int
deriving DecidableEq

namespace Binary64

/-- The exponent of the least positive number, `2 ^ (-1074)`. -/
def leastExponent : Int := -1074

/-- The exponent of the largest finite numbers. -/
def greatestExponent : Int := 971

/-- The mantissa of the powers of two: `2 ^ 52`. -/
def leadingBit : Nat := Nat.pow 2 52

/-- The exact value. -/
def ratio (b : Binary64) : Ratio :=
  (Ratio.ofNat b.mantissa).scaleTwo b.exponent

/-- The exponent at which a number has 53 bits before the point, or the least exponent. -/
def unit (a : Ratio) : Int :=
  let guess : Int := (Nat.log2 a.num : Int) - (Nat.log2 a.den : Int) - 53
  let fits := ((Ratio.ofNat (2 * leadingBit)).scaleTwo guess)
  max leastExponent (if a.lt fits then guess else guess + 1)

/-- The nearest number of the format, a tie going to the even mantissa. -/
def ofRatio (a : Ratio) : Binary64 :=
  if a.num = 0 then ⟨0, leastExponent⟩
  else
    let e := unit a
    let m := (a.scaleTwo (-e)).round
    if m = 2 * leadingBit then ⟨leadingBit, e + 1⟩ else ⟨m, e⟩

/-- The nearest number to a natural number. -/
def ofNat (n : Nat) : Binary64 :=
  ofRatio (.ofNat n)

/-- Whether the number is too large to be finite. -/
def isOverflow (b : Binary64) : Bool :=
  decide (greatestExponent < b.exponent)

/-- The rounded quotient of two natural numbers. -/
def quotient (n d : Nat) : Binary64 :=
  ofRatio ⟨n, d⟩

/-- The rounded sum. -/
def add (a b : Binary64) : Binary64 :=
  ofRatio (a.ratio.add b.ratio)

/-- The number in units of `10 ^ (-places)`, rounded from the exact value. -/
def inUnits (b : Binary64) (places : Nat) : Nat :=
  (b.ratio.scaleTen places).round

/-- The number with the given count of decimal places. -/
def fixed (b : Binary64) (places : Nat) : String :=
  let units := b.inUnits places
  let fraction := toString (units % Nat.pow 10 places)
  toString (units / Nat.pow 10 places) ++ "."
    ++ String.ofList (List.replicate (places - fraction.length) '0') ++ fraction

end Binary64

end ExternalCompiler
