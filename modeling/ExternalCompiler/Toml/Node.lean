/-
Documents of the configuration format as trees:

* `Node`: a value or a table; the entries of a table keep the order of the document;
* `alterAt`: changes the table at the end of a path of keys, which may make the tables on the way;
* `addKey`: gives a key its value, at most once.
-/
import ExternalCompiler.Number.Floating

namespace ExternalCompiler.Toml

/-- How a table came to be: by a header of its own, as a step on the path of another header, as a
step of a dotted key, or between braces. -/
inductive Form
  | header
  | implied
  | dotted
  | braced
deriving DecidableEq

/-- Tables that were only mentioned on the way to another one may be given more keys. -/
def Form.isOpen : Form → Bool
  | implied => true
  | dotted => true
  | header => false
  | braced => false

/-- A value of a document, a table, or an array of tables that headers fill. -/
inductive Node
  | string (text : String)
  | integer (value : Int)
  | float (value : Floating)
  | boolean (value : Bool)
  | moment
  | array (items : List Node)
  | table (form : Form) (entries : List (String × Node))
  | tables (elements : List (List (String × Node)))

/-- The keys of a table with their values, in the order of the document. -/
abbrev Entries := List (String × Node)

namespace Entries

/-- The value of a key. -/
def value? (es : Entries) (key : String) : Option Node :=
  es.lookup key

/-- Gives a key that is there another value, at its old place. -/
def replace (es : Entries) (key : String) (node : Node) : Entries :=
  es.map fun e => if e.1 == key then (key, node) else e

/-- Takes a key away. -/
def erase (es : Entries) (key : String) : Entries :=
  es.filter fun e => e.1 != key

end Entries

/-- Changes the table at the end of a path, and returns what `f` says beside.  Tables that are
missing on the way are made.  Dotted keys do not lead into tables that are complete, nothing
leads into a value, and a path through an array of tables leads into its last table. -/
def alterAt {α : Type} (byDots : Bool) (f : Form → Entries → Option (α × Entries)) :
    List String → Form → Entries → Option (α × Entries)
  | [], form, es => f form es
  | key :: path, _, es =>
    match es.value? key with
    | none => do
      let form := if byDots then Form.dotted else Form.implied
      let (a, sub) ← alterAt byDots f path form []
      some (a, es ++ [(key, .table form sub)])
    | some (.table form sub) =>
      if form = .braced ∨ (byDots = true ∧ form.isOpen = false) then none
      else do
        let (a, sub) ← alterAt byDots f path form sub
        some (a, es.replace key (.table form sub))
    | some (.tables elements) => do
      let last ← elements.getLast?
      let (a, sub) ← alterAt byDots f path .header last
      some (a, es.replace key (.tables (elements.dropLast ++ [sub])))
    | some _ => none

/-- Gives the key at the end of a path its value.  The key must be new, and a table that is
reached by a path must itself have been made by a dotted key. -/
def addKey (path : List String) (key : String) (node : Node) (form : Form) (es : Entries) :
    Option Entries :=
  (alterAt true (fun form es =>
    if decide (form = .dotted) == path.isEmpty then none
    else if (es.value? key).isSome then none
    else some ((), es ++ [(key, node)])) path form es).map (·.2)

end ExternalCompiler.Toml
