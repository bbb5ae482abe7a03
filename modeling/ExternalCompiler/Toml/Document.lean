/-
Whole documents:

* `Draft`: the part of a document that was read, with the table that is being filled;
* `Draft.openTable`, `Draft.openElement`, `Draft.addKey`: headers and keys;
* `document`: the keys of a document, if it is well formed.
-/
import ExternalCompiler.Toml.Value

namespace ExternalCompiler.Toml

/-- The part of a document that was read: its finished tables, the path of the table that is being
filled (empty for the keys before the first header), whether that is an element of an array of
tables, and its keys. -/
structure Draft where
  finished : Entries := []
  path : List String := []
  isElement : Bool := false
  current : Entries := []

namespace Draft

/-- Puts the table that was being filled into its place. -/
def close (d : Draft) : Option Entries :=
  match d.path.getLast? with
  | none => some d.current
  | some key =>
    (alterAt false (fun _ es =>
      match es.value? key with
      | some (.tables elements) =>
        if d.isElement then some ((), es.replace key (.tables (elements ++ [d.current]))) else none
      | some _ => none
      | none =>
        if d.isElement then none else some ((), es ++ [(key, .table .header d.current)]))
      d.path.dropLast .header d.finished).map (·.2)

/-- The header of a table: it may have been mentioned on the way to others, and it then keeps
what it has. -/
def openTable (d : Draft) (path : List String) : Option Draft := do
  let finished ← d.close
  let key ← path.getLast?
  let (kept, finished) ← alterAt false (fun _ es =>
    match es.value? key with
    | none => some ([], es)
    | some (.table .implied sub) => some (sub, es.erase key)
    | some _ => none) path.dropLast .header finished
  some { finished, path, isElement := false, current := kept }

/-- The header of the next table of an array of tables. -/
def openElement (d : Draft) (path : List String) : Option Draft := do
  let finished ← d.close
  let key ← path.getLast?
  let (_, finished) ← alterAt false (fun _ es =>
    match es.value? key with
    | none => some ((), es ++ [(key, .tables [])])
    | some (.tables _) => some ((), es)
    | some _ => none) path.dropLast .header finished
  some { finished, path, isElement := true, current := [] }

/-- A key with its value. -/
def addKey (d : Draft) (member : List String × Node) : Option Draft := do
  let current ← addMember .header d.current member
  some { d with current }

end Draft

/-- The lines of a document: each is empty, a header, or a key with its value. -/
def lines : Nat → Draft → List Char → Option Draft
  | 0, _, _ => none
  | n + 1, d, cs =>
    match skipBlanks cs with
    | [] => some d
    | '\n' :: rest => lines n d rest
    | '\r' :: '\n' :: rest => lines n d rest
    | '#' :: rest => do lines n d (← lineEnd (rest.dropWhile isPlain))
    | '[' :: '[' :: rest => do
      let (path, rest) ← keyPath rest
      let rest ← (expect ']' rest).bind (expect ']')
      let d ← d.openElement path
      lines n d (← restOfLine rest)
    | '[' :: rest => do
      let (path, rest) ← keyPath rest
      let rest ← expect ']' rest
      let d ← d.openTable path
      lines n d (← restOfLine rest)
    | cs => do
      let (member, rest) ← keyValue value cs
      let d ← d.addKey member
      lines n d (← restOfLine rest)

/-- The mark that some editors put at the start of a text is no part of it. -/
def skipMark : List Char → List Char
  | '\uFEFF' :: rest => rest
  | cs => cs

/-- The keys of a document in their order, if it is well formed. -/
def document (source : String) : Option Entries := do
  let cs := skipMark source.toList
  let d ← lines (cs.length + 1) {} cs
  d.close

end ExternalCompiler.Toml
