/-
Sinks for diagnostic output:

* `Sink`: a sink that takes a limited number of bytes and may refuse to be flushed;
* `Sink.write`: takes the bytes that fit and fails if that is not all of them;
* `Writing`: something that is written to a sink; `Writing.inTurn`: one thing after the other up to
  the first failure, and `Sink.writeAll`: one text after the other.
-/

namespace ExternalCompiler

/-- Why a sink failed: it took all that it takes, it refused to be flushed, or something else
of which only the text is known. -/
inductive SinkError
  | full
  | flushRefused
  | other (text : String)
deriving DecidableEq

/-- The text of a sink's failure. -/
def SinkError.message : SinkError → String
  | full => "sink full"
  | flushRefused => "flush refused"
  | other text => text

/-- A sink: how many bytes it takes in total, whether it refuses to be flushed, and what it got. -/
structure Sink where
  limit : Option Nat := none
  refusesFlush : Bool := false
  received : List UInt8 := []

/-- The bytes of a text. -/
def utf8Bytes (text : String) : List UInt8 :=
  text.toUTF8.data.toList

namespace Sink

/-- The bytes among `bytes` that the sink still takes. -/
def accepted (k : Sink) (bytes : List UInt8) : List UInt8 :=
  match k.limit with
  | none => bytes
  | some limit => bytes.take (limit - k.received.length)

/-- Writes a text: the sink takes the bytes that fit, and the write fails if some do not. -/
def write (k : Sink) (text : String) : Sink × Except SinkError Unit :=
  let bytes := utf8Bytes text
  let taken := k.accepted bytes
  ({ k with received := k.received ++ taken },
    if taken.length < bytes.length then .error .full else .ok ())

/-- Flushes the sink. -/
def flush (k : Sink) : Except SinkError Unit :=
  if k.refusesFlush then .error .flushRefused else .ok ()

/-- The characters that a byte string starts with, as far as it is well formed; a character that
is cut off or malformed shows as the replacement character. -/
def decode (bytes : List UInt8) : String :=
  let whole (n : Nat) := String.fromUTF8? ⟨(bytes.take (bytes.length - n)).toArray⟩
  match whole 0 with
  | some text => text
  | none =>
    match [1, 2, 3].findSome? whole with
    | some text => text ++ "\uFFFD"
    | none => "\uFFFD"

/-- What the sink got, as text. -/
def text (k : Sink) : String :=
  decode k.received

end Sink

/-! ### Writing -/

/-- Something that is written: how it leaves a sink, and whether the sink took all of it. -/
abbrev Writing := Sink → Sink × Except SinkError Unit

/-- One thing after the other, up to the first failure. -/
def Writing.inTurn : List Writing → Writing
  | [], k => (k, .ok ())
  | w :: rest, k =>
    match w k with
    | (k', .ok ()) => inTurn rest k'
    | (k', .error e) => (k', .error e)

/-- Writes one text after the other up to the first failure. -/
def Sink.writeAll (k : Sink) (texts : List String) : Sink × Except SinkError Unit :=
  Writing.inTurn (texts.map fun text k => k.write text) k

end ExternalCompiler
