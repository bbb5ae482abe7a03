/-
Rounding of quotients of natural numbers:

* `roundEven n d`: the natural number nearest to `n / d`, a half going to the even neighbour;
* `roundUp n d`: the same, a half going to the greater neighbour;
* `Ratio`: a non-negative rational number as a pair, with the arithmetic that exact printing needs.
-/

namespace ExternalCompiler

/-- The natural number nearest to `n / d`; a half goes to the even neighbour. -/
def roundEven (n d : Nat) : Nat :=
  let q := n / d
  let r := n % d
  if 2 * r < d then q
  else if d < 2 * r then q + 1
  else q + q % 2

/-- The natural number nearest to `n / d`; a half goes to the greater neighbour. -/
def roundUp (n d : Nat) : Nat :=
  (2 * n + d) / (2 * d)

/-- A non-negative rational number. -/
structure Ratio where
  num : Nat
  den : Nat

namespace Ratio

/-- A whole number. -/
def ofNat (n : Nat) : Ratio := ⟨n, 1⟩

/-- The sum. -/
def add (a b : Ratio) : Ratio :=
  ⟨a.num * b.den + b.num * a.den, a.den * b.den⟩

/-- The product with the power `2 ^ k`. -/
def scaleTwo (a : Ratio) (k : Int) : Ratio :=
  ⟨a.num * Nat.pow 2 k.toNat, a.den * Nat.pow 2 (-k).toNat⟩

/-- The product with the power `10 ^ k`. -/
def scaleTen (a : Ratio) (k : Int) : Ratio :=
  ⟨a.num * Nat.pow 10 k.toNat, a.den * Nat.pow 10 (-k).toNat⟩

/-- The nearest natural number, a half going to the even one. -/
def round (a : Ratio) : Nat :=
  roundEven a.num a.den

/-- The nearest natural number, a half going to the greater one. -/
def roundHalfUp (a : Ratio) : Nat :=
  roundUp a.num a.den

/-- The largest natural number that is not above. -/
def floor (a : Ratio) : Nat :=
  a.num / a.den

/-- Whether `a ≤ b`. -/
def le (a b : Ratio) : Bool :=
  decide (a.num * b.den ≤ b.num * a.den)

/-- Whether `a < b`. -/
def lt (a b : Ratio) : Bool :=
  decide (a.num * b.den < b.num * a.den)

end Ratio

end ExternalCompiler
