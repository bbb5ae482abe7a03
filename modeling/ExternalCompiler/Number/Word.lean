/-
Whole numbers as people type them:

* `natural?`: decimal digits, at least one;
* `unsignedWord?`, `signedWord?`: digits with a sign in front that may be missing, as a word.

There is no blank, no separator between digits and no other sign.
-/

namespace ExternalCompiler

/-- The number that decimal digits stand for. -/
def natural? (digits : List Char) : Option Nat :=
  if digits.isEmpty || !digits.all Char.isDigit then none
  else some (digits.foldl (fun n d => 10 * n + (d.toNat - '0'.toNat)) 0)

/-- A word without a sign; only a plus may stand in front. -/
def unsignedWord? (text : String) : Option UInt64 := do
  let n ← match text.toList with
    | '+' :: digits => natural? digits
    | digits => natural? digits
  if n < UInt64.size then some (UInt64.ofNat n) else none

/-- A word with a sign. -/
def signedWord? (text : String) : Option Int64 := do
  let n : Int ← match text.toList with
    | '+' :: digits => (natural? digits).map Int.ofNat
    | '-' :: digits => (natural? digits).map fun n => -Int.ofNat n
    | digits => (natural? digits).map Int.ofNat
  if Int64.minValue.toInt ≤ n ∧ n ≤ Int64.maxValue.toInt then some (Int64.ofInt n) else none

end ExternalCompiler
