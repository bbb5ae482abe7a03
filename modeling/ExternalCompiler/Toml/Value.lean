/-
Values of a document:

* `value`: any value; arrays and tables between braces hold others, up to a depth;
* `keyValue`: a key with its value.
-/
import ExternalCompiler.Toml.Number

namespace ExternalCompiler.Toml

/-- A reader of values. -/
abbrev Reader := List Char → Option (Node × List Char)

/-- How deep values may be nested. -/
def depthLimit : Nat := 79

/-- The rest of an array: values with commas behind them, the last comma being optional. -/
def items (item : Reader) : Nat → List Char → Option (List Node × List Char)
  | 0, _ => none
  | n + 1, cs => do
    match ← skipLines false cs with
    | ']' :: rest => some ([], rest)
    | cs =>
      let (node, rest) ← item cs
      match ← skipLines false rest with
      | ',' :: rest => do
        let (nodes, rest) ← items item n rest
        some (node :: nodes, rest)
      | ']' :: rest => some ([node], rest)
      | _ => none

/-- A key, an equals sign and a value. -/
def keyValue (item : Reader) (cs : List Char) : Option ((List String × Node) × List Char) := do
  let (path, rest) ← keyPath cs
  let rest ← expect '=' rest
  let (node, rest) ← item (skipBlanks rest)
  some ((path, node), skipBlanks rest)

/-- The rest of a table between braces, behind its first key or a comma. -/
def members (item : Reader) : Nat → List Char → Option (List (List String × Node) × List Char)
  | 0, _ => none
  | n + 1, cs => do
    let (member, rest) ← keyValue item cs
    match rest with
    | ',' :: rest => do
      let (rest', rest) ← members item n rest
      some (member :: rest', rest)
    | '}' :: rest => some ([member], rest)
    | _ => none

/-- Gives the last key of a path its value. -/
def addMember (form : Form) (es : Entries) (member : List String × Node) : Option Entries := do
  let key ← member.1.getLast?
  addKey member.1.dropLast key member.2 form es

/-- A table between braces. -/
def bracedTable (item : Reader) (cs : List Char) : Option (Node × List Char) :=
  match skipBlanks cs with
  | '}' :: rest => some (.table .braced [], rest)
  | cs => do
    let (found, rest) ← members item cs.length cs
    let entries ← found.foldlM (addMember .braced) []
    some (.table .braced entries, rest)

/-- Any value, nested at most as deep as the first argument. -/
def valueTo : Nat → Reader
  | depth, cs =>
    match cs with
    | [] => none
    | '[' :: rest =>
      match depth with
      | 0 => none
      | d + 1 => (items (valueTo d) (rest.length + 1) rest).map fun r => (.array r.1, r.2)
    | '{' :: rest =>
      match depth with
      | 0 => none
      | d + 1 => bracedTable (valueTo d) rest
    | 't' :: 'r' :: 'u' :: 'e' :: rest => some (.boolean true, rest)
    | 'f' :: 'a' :: 'l' :: 's' :: 'e' :: rest => some (.boolean false, rest)
    | c :: rest =>
      if c = '"' ∨ c = '\'' then
        (text (c :: rest)).map fun r => (.string (String.ofList r.1), r.2)
      else numberOrMoment (c :: rest)

/-- Any value. -/
def value : Reader :=
  valueTo depthLimit

end ExternalCompiler.Toml
