/-
Numbers and moments of a document:

* `number`: integers in base ten, sixteen, eight and two, and floating-point numbers;
* `moment`: dates, times of day, and both together.
-/
import ExternalCompiler.Toml.Node
import ExternalCompiler.Toml.Text

namespace ExternalCompiler.Toml

/-! ### Digits -/

/-- The value of a digit of a base. -/
def digitValue? (base : Nat) (c : Char) : Option Nat :=
  (hexValue? c).filter (· < base)

/-- Digits after a first one; an underscore may stand between two of them. -/
def moreDigits (base : Nat) : List Char → Option (List Nat × List Char)
  | [] => some ([], [])
  | '_' :: c :: rest => do
    let d ← digitValue? base c
    let (ds, rest) ← moreDigits base rest
    some (d :: ds, rest)
  | c :: rest =>
    match digitValue? base c with
    | some d => do
      let (ds, rest) ← moreDigits base rest
      some (d :: ds, rest)
    | none => if c = '_' then none else some ([], c :: rest)

/-- One digit or more; an underscore may stand between two of them. -/
def digits (base : Nat) : List Char → Option (List Nat × List Char)
  | [] => none
  | c :: rest => do
    let d ← digitValue? base c
    let (ds, rest) ← moreDigits base rest
    some (d :: ds, rest)

/-- The number that digits stand for. -/
def digitsValue (base : Nat) (ds : List Nat) : Nat :=
  ds.foldl (fun n d => base * n + d) 0

/-- Digits in base ten that do not start with a superfluous zero. -/
def wholePart : List Char → Option (List Nat × List Char)
  | '0' :: rest => some ([0], rest)
  | cs => digits 10 cs

/-! ### Numbers -/

/-- An optional sign: whether it is a minus. -/
def sign : List Char → Bool × List Char
  | '-' :: rest => (true, rest)
  | '+' :: rest => (false, rest)
  | cs => (false, cs)

/-- The integers of a document are signed words. -/
def integerNode (value : Int) : Option Node :=
  if Int64.minValue.toInt ≤ value ∧ value ≤ Int64.maxValue.toInt then some (.integer value)
  else none

/-- A signed number. -/
def signed (negative : Bool) (n : Nat) : Int :=
  if negative then -(n : Int) else n

/-- A floating-point number.  One that is too large and positive is refused. -/
def floatNode (negative : Bool) (size : Decimal) : Option Node :=
  match size.nearest with
  | some b => some (.float (.finite negative b))
  | none => if negative then some (.float (.infinite true)) else none

/-- The exponent of a floating-point number, if there is one. -/
def exponentPart : List Char → Option (Option Int × List Char)
  | c :: rest =>
    if c = 'e' ∨ c = 'E' then do
      let (negative, rest) := sign rest
      let (ds, rest) ← digits 10 rest
      some (some (signed negative (digitsValue 10 ds)), rest)
    else some (none, c :: rest)
  | [] => some (none, [])

/-- The decimals of a floating-point number, if there are any. -/
def fractionPart : List Char → Option (Option (List Nat) × List Char)
  | '.' :: rest => do
    let (ds, rest) ← digits 10 rest
    some (some ds, rest)
  | cs => some (none, cs)

/-- An integer in base ten or a floating-point number, behind its sign. -/
def decimalNumber (negative : Bool) (cs : List Char) : Option (Node × List Char) := do
  let (whole, rest) ← wholePart cs
  let (fraction, rest) ← fractionPart rest
  let (exponent, rest) ← exponentPart rest
  if fraction.isNone && exponent.isNone then do
    let node ← integerNode (signed negative (digitsValue 10 whole))
    some (node, rest)
  else do
    let decimals := fraction.getD []
    let node ← floatNode negative
      ⟨digitsValue 10 (whole ++ decimals), exponent.getD 0 - decimals.length⟩
    some (node, rest)

/-- An integer in another base, behind the two characters that announce it. -/
def basedInteger (base : Nat) (cs : List Char) : Option (Node × List Char) := do
  let (ds, rest) ← digits base cs
  let node ← integerNode (digitsValue base ds)
  some (node, rest)

/-- A number. -/
def number (cs : List Char) : Option (Node × List Char) :=
  match cs with
  | '0' :: 'x' :: rest => basedInteger 16 rest
  | '0' :: 'o' :: rest => basedInteger 8 rest
  | '0' :: 'b' :: rest => basedInteger 2 rest
  | _ =>
    match sign cs with
    | (negative, 'i' :: 'n' :: 'f' :: rest) => some (.float (.infinite negative), rest)
    | (_, 'n' :: 'a' :: 'n' :: rest) => some (.float .notANumber, rest)
    | (negative, rest) => decimalNumber negative rest

/-! ### Moments -/

/-- Two digits that stand for a number within bounds. -/
def twoDigits (least greatest : Nat) : List Char → Option (Nat × List Char)
  | a :: b :: rest => do
    let a ← digitValue? 10 a
    let b ← digitValue? 10 b
    let n := 10 * a + b
    if least ≤ n ∧ n ≤ greatest then some (n, rest) else none
  | _ => none

/-- A given character. -/
def expect (c : Char) : List Char → Option (List Char)
  | x :: rest => if x = c then some rest else none
  | [] => none

/-- The number of days of a month. -/
def daysOf (year month : Nat) : Nat :=
  if month = 2 then
    if year % 4 = 0 ∧ (year % 100 ≠ 0 ∨ year % 400 = 0) then 29 else 28
  else if month = 4 ∨ month = 6 ∨ month = 9 ∨ month = 11 then 30
  else 31

/-- A year of four digits with a dash behind it: the start of a date. -/
def yearDash : List Char → Option (Nat × List Char)
  | a :: b :: c :: d :: '-' :: rest => do
    let ds ← [a, b, c, d].mapM (digitValue? 10)
    some (digitsValue 10 ds, rest)
  | _ => none

/-- Month and day of a date. -/
def monthDay (year : Nat) (cs : List Char) : Option (List Char) := do
  let (month, rest) ← twoDigits 1 12 cs
  let rest ← expect '-' rest
  let (_, rest) ← twoDigits 1 (daysOf year month) rest
  some rest

/-- An hour with a colon behind it: the start of a time of day. -/
def hourColon (cs : List Char) : Option (List Char) := do
  let (_, rest) ← twoDigits 0 23 cs
  expect ':' rest

/-- Minute and second of a time of day, with a fraction if there is one; the second 60 exists. -/
def minuteSecond (cs : List Char) : Option (List Char) := do
  let (_, rest) ← twoDigits 0 59 cs
  let rest ← expect ':' rest
  let (_, rest) ← twoDigits 0 60 rest
  match rest with
  | '.' :: c :: more =>
    if (digitValue? 10 c).isSome then
      some (more.dropWhile fun c => (digitValue? 10 c).isSome)
    else some rest
  | _ => some rest

/-- The distance from universal time, if there is one. -/
def zone : List Char → Option (List Char)
  | c :: rest =>
    if c = 'Z' ∨ c = 'z' then some rest
    else if c = '+' ∨ c = '-' then do
      let rest ← hourColon rest
      let (_, rest) ← twoDigits 0 59 rest
      some rest
    else some (c :: rest)
  | [] => some []

/-- The time of day behind a date, if there is one. -/
def timeOfDate : List Char → Option (List Char)
  | c :: rest =>
    if c = 'T' ∨ c = 't' ∨ c = ' ' then
      match hourColon rest with
      | some rest => (minuteSecond rest).bind zone
      | none => some (c :: rest)
    else some (c :: rest)
  | [] => some []

/-- A date, a time of day, or both: nothing when the characters start neither, and otherwise what
is left if they are well formed. -/
def moment (cs : List Char) : Option (Option (List Char)) :=
  match yearDash cs with
  | some (year, rest) => some ((monthDay year rest).bind timeOfDate)
  | none =>
    match hourColon cs with
    | some rest => some (minuteSecond rest)
    | none => none

/-- A number or a moment. -/
def numberOrMoment (cs : List Char) : Option (Node × List Char) :=
  match moment cs with
  | some rest => rest.map fun rest => (.moment, rest)
  | none => number cs

end ExternalCompiler.Toml
