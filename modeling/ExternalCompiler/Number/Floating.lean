/-
Floating-point values of documents:

* `Floating`: a signed number of the 64-bit binary format, an infinity or no number;
* `Floating.text`: the shortest text that reads back, never with an exponent.
-/
import ExternalCompiler.Number.Decimal

namespace ExternalCompiler

/-- A floating-point value. -/
inductive Floating
  | finite (negative : Bool) (size : Binary64)
  | infinite (negative : Bool)
  | notANumber
deriving DecidableEq

/-- The shortest text that reads back, never with an exponent. -/
def Floating.text : Floating → String
  | finite negative size =>
    (if negative then "-" else "")
      ++ (if size.mantissa = 0 then "0.0" else size.shortest.positional)
  | infinite negative => if negative then "-inf" else "inf"
  | notANumber => "NaN"

end ExternalCompiler
