/-
The smallest parts of a document:

* `skipBlanks`, `lineEnd`, `restOfLine`, `skipLines`: blanks, comments and line ends;
* `basicString`, `literalString` and their forms of several lines;
* `keyPath`: a key, or several joined by dots.

A reader takes the characters that are left and returns what it read and what is left then; it
returns nothing when the document is malformed there.
-/

namespace ExternalCompiler.Toml

/-! ### Blanks and line ends -/

/-- Blanks within a line. -/
def isBlank (c : Char) : Bool :=
  c == ' ' || c == '\t'

/-- The characters that texts and comments may hold as they are: all but the control characters
other than the tab. -/
def isPlain (c : Char) : Bool :=
  c == '\t' || decide (32 ≤ c.toNat) && c.toNat != 127

/-- Goes on behind the blanks. -/
def skipBlanks (cs : List Char) : List Char :=
  cs.dropWhile isBlank

/-- The end of a line, or of the document. -/
def lineEnd : List Char → Option (List Char)
  | [] => some []
  | '\n' :: rest => some rest
  | '\r' :: '\n' :: rest => some rest
  | _ => none

/-- Goes on behind a comment, if there is one. -/
def skipComment : List Char → List Char
  | '#' :: rest => rest.dropWhile isPlain
  | cs => cs

/-- The rest of a line that may hold a comment and nothing else. -/
def restOfLine (cs : List Char) : Option (List Char) :=
  lineEnd (skipComment (skipBlanks cs))

/-- Goes on behind blanks, line ends and comments; a comment has to end with its line.  The flag
says whether the characters belong to a comment. -/
def skipLines : Bool → List Char → Option (List Char)
  | true, '\n' :: rest => skipLines false rest
  | true, '\r' :: '\n' :: rest => skipLines false rest
  | true, c :: rest => if isPlain c then skipLines true rest else none
  | true, [] => none
  | false, '\r' :: '\n' :: rest => skipLines false rest
  | false, '\r' :: _ => none
  | false, '\n' :: rest => skipLines false rest
  | false, '#' :: rest => skipLines true rest
  | false, c :: rest => if isBlank c then skipLines false rest else some (c :: rest)
  | false, [] => some []

/-! ### Texts -/

/-- The value of a digit in base sixteen. -/
def hexValue? (c : Char) : Option Nat :=
  if '0' ≤ c ∧ c ≤ '9' then some (c.toNat - '0'.toNat)
  else if 'a' ≤ c ∧ c ≤ 'f' then some (c.toNat - 'a'.toNat + 10)
  else if 'A' ≤ c ∧ c ≤ 'F' then some (c.toNat - 'A'.toNat + 10)
  else none

/-- The character with a code in base sixteen, if that is the code of a character. -/
def charOfHex? (digits : List Char) : Option Char := do
  let values ← digits.mapM hexValue?
  let code := values.foldl (fun n d => 16 * n + d) 0
  if code.isValidChar then some (Char.ofNat code) else none

/-- The character that a backslash and a letter stand for. -/
def escaped? : Char → Option Char
  | 'b' => some '\x08'
  | 't' => some '\t'
  | 'n' => some '\n'
  | 'f' => some '\x0c'
  | 'r' => some '\r'
  | '"' => some '"'
  | '\\' => some '\\'
  | _ => none

/-- Puts a character in front of a text that was read. -/
def Read.cons (c : Char) (r : List Char × List Char) : List Char × List Char :=
  (c :: r.1, r.2)

/-- The rest of a text between double quotes on one line. -/
def basicString : List Char → Option (List Char × List Char)
  | [] => none
  | '"' :: rest => some ([], rest)
  | '\\' :: 'u' :: a :: b :: c :: d :: rest => do
    let x ← charOfHex? [a, b, c, d]
    (basicString rest).map (Read.cons x)
  | '\\' :: 'U' :: a :: b :: c :: d :: e :: f :: g :: h :: rest => do
    let x ← charOfHex? [a, b, c, d, e, f, g, h]
    (basicString rest).map (Read.cons x)
  | '\\' :: x :: rest => do
    let x ← escaped? x
    (basicString rest).map (Read.cons x)
  | x :: rest =>
    if isPlain x && x != '\\' then (basicString rest).map (Read.cons x) else none

/-- The rest of a text between single quotes on one line. -/
def literalString : List Char → Option (List Char × List Char)
  | [] => none
  | '\'' :: rest => some ([], rest)
  | x :: rest => if isPlain x then (literalString rest).map (Read.cons x) else none

/-- What stands behind three quotes that end a text: up to two more quotes belong to it. -/
def closing (quote : Char) : List Char → List Char × List Char
  | x :: y :: rest =>
    if x = quote then if y = quote then ([quote, quote], rest) else ([quote], y :: rest)
    else ([], x :: y :: rest)
  | [x] => if x = quote then ([quote], []) else ([], [x])
  | [] => ([], [])

/-- Whether only blanks stand before the end of the line. -/
def blankLine (cs : List Char) : Bool :=
  match skipBlanks cs with
  | '\n' :: _ => true
  | '\r' :: '\n' :: _ => true
  | _ => false

/-- The rest of a text between three double quotes.  A backslash at the end of a line joins it to
the next character that is neither a blank nor a line end; the flag says that such a join is
under way. -/
def longBasicString : Bool → List Char → Option (List Char × List Char)
  | _, [] => none
  | _, '"' :: '"' :: '"' :: rest => some (closing '"' rest)
  | _, '\\' :: 'u' :: a :: b :: c :: d :: rest => do
    let x ← charOfHex? [a, b, c, d]
    (longBasicString false rest).map (Read.cons x)
  | _, '\\' :: 'U' :: a :: b :: c :: d :: e :: f :: g :: h :: rest => do
    let x ← charOfHex? [a, b, c, d, e, f, g, h]
    (longBasicString false rest).map (Read.cons x)
  | _, '\\' :: x :: rest =>
    if blankLine (x :: rest) then longBasicString true (x :: rest)
    else do
      let x ← escaped? x
      (longBasicString false rest).map (Read.cons x)
  | joining, '\r' :: '\n' :: rest =>
    if joining then longBasicString true rest
    else (longBasicString false rest).map (Read.cons '\n')
  | joining, x :: rest =>
    if x = '\n' then
      if joining then longBasicString true rest
      else (longBasicString false rest).map (Read.cons '\n')
    else if joining && isBlank x then longBasicString true rest
    else if isPlain x && x != '\\' then (longBasicString false rest).map (Read.cons x)
    else none

/-- The rest of a text between three single quotes. -/
def longLiteralString : List Char → Option (List Char × List Char)
  | [] => none
  | '\'' :: '\'' :: '\'' :: rest => some (closing '\'' rest)
  | '\r' :: '\n' :: rest => (longLiteralString rest).map (Read.cons '\n')
  | x :: rest =>
    if isPlain x || x == '\n' then (longLiteralString rest).map (Read.cons x) else none

/-- A line end right behind the three quotes that start a text does not belong to it. -/
def skipFirstLineEnd : List Char → List Char
  | '\n' :: rest => rest
  | '\r' :: '\n' :: rest => rest
  | cs => cs

/-- A text in any of its four forms. -/
def text : List Char → Option (List Char × List Char)
  | '"' :: '"' :: '"' :: rest => longBasicString false (skipFirstLineEnd rest)
  | '"' :: rest => basicString rest
  | '\'' :: '\'' :: '\'' :: rest => longLiteralString (skipFirstLineEnd rest)
  | '\'' :: rest => literalString rest
  | _ => none

/-! ### Keys -/

/-- The characters of a key without quotes. -/
def isBare (c : Char) : Bool :=
  c.isAlphanum || c == '-' || c == '_'

/-- A key: a text on one line, or characters without quotes. -/
def simpleKey : List Char → Option (String × List Char)
  | '"' :: rest => (basicString rest).map fun r => (String.ofList r.1, r.2)
  | '\'' :: rest => (literalString rest).map fun r => (String.ofList r.1, r.2)
  | cs =>
    let bare := cs.takeWhile isBare
    if bare.isEmpty then none else some (String.ofList bare, cs.dropWhile isBare)

/-- The number of keys that dots must not join. -/
def keyPathLimit : Nat := 80

/-- Keys joined by dots, with blanks around each; at most as many as the first argument. -/
def keysUpTo : Nat → List Char → Option (List String × List Char)
  | 0, _ => none
  | n + 1, cs => do
    let (key, rest) ← simpleKey (skipBlanks cs)
    match skipBlanks rest with
    | '.' :: rest => do
      let (keys, rest) ← keysUpTo n rest
      some (key :: keys, rest)
    | rest => some ([key], rest)

/-- A key, or several joined by dots: fewer than the limit. -/
def keyPath (cs : List Char) : Option (List String × List Char) :=
  keysUpTo (keyPathLimit - 1) cs

end ExternalCompiler.Toml
