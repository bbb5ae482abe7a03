/-
Lengths of time:

* `Duration`: whole seconds and a rest of nanoseconds below one second;
* `Duration.saturatedNanos`: the nanoseconds in one word, the largest word standing for all that
  is longer;
* `Duration.secondsText`: seconds with three decimals, at least seven characters wide;
* `millisText`: a number of milliseconds in its largest unit, as diagnostics show it.
-/
import ExternalCompiler.Number.Binary64

namespace ExternalCompiler

/-- A length of time. -/
structure Duration where
  secs : Nat
  nanos : Nat
deriving DecidableEq

/-- Nanoseconds in a second. -/
def nanosPerSecond : Nat := 1000000000

/-- The text with blanks on its left up to a width. -/
def padLeft (width : Nat) (text : String) : String :=
  String.ofList (List.replicate (width - text.length) ' ') ++ text

namespace Duration

/-- The duration of a number of nanoseconds. -/
def ofNanos (n : Nat) : Duration :=
  ⟨n / nanosPerSecond, n % nanosPerSecond⟩

/-- The duration of a number of milliseconds. -/
def ofMillis (n : Nat) : Duration :=
  ofNanos (n * 1000000)

/-- All of it in nanoseconds. -/
def toNanos (d : Duration) : Nat :=
  d.secs * nanosPerSecond + d.nanos

/-- The nanoseconds as a word; what does not fit counts as the largest word. -/
def saturatedNanos (d : Duration) : UInt64 :=
  UInt64.ofNat (min d.toNanos (UInt64.size - 1))

/-- The seconds as a floating-point number: the rounded sum of the rounded whole seconds and
the rounded fraction. -/
def seconds (d : Duration) : Binary64 :=
  (Binary64.ofNat d.secs).add (Binary64.quotient d.nanos nanosPerSecond)

/-- The seconds as reports show them. -/
def secondsText (d : Duration) : String :=
  padLeft 7 (d.seconds.fixed 3)

end Duration

/-- A digit string without the zeros at its end. -/
def dropEndZeros (text : String) : String :=
  String.ofList (text.toList.reverse.dropWhile (· == '0')).reverse

/-- A number of milliseconds in its largest unit: nothing is `0ns`, less than a second is shown
in `ms`, all else in `s` with the decimals that are needed. -/
def millisText (n : Nat) : String :=
  if n = 0 then "0ns"
  else if n < 1000 then toString n ++ "ms"
  else
    let rest := toString (n % 1000)
    let decimals := dropEndZeros (String.ofList (List.replicate (3 - rest.length) '0') ++ rest)
    toString (n / 1000) ++ (if decimals.isEmpty then "" else "." ++ decimals) ++ "s"

end ExternalCompiler
