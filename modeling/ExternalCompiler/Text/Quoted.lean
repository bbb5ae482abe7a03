/-
Quoted texts in messages:

* `quoted`: a text between double quotes, on one line and without invisible characters.
-/
import ExternalCompiler.Text.Hidden

namespace ExternalCompiler

/-- A number in base sixteen, with small letters. -/
def hexText (n : Nat) : String :=
  String.ofList (Nat.toDigits 16 n)

/-- A character by its code. -/
def codeText (c : Char) : String :=
  "\\u\x7b" ++ hexText c.toNat ++ "\x7d"

/-- A character between quotes: quotes and backslashes get a backslash, a few control characters
have names of their own, and other invisible characters are shown by their code. -/
def quotedChar (c : Char) : String :=
  if c = '"' then "\\\""
  else if c = '\\' then "\\\\"
  else if c = '\n' then "\\n"
  else if c = '\r' then "\\r"
  else if c = '\t' then "\\t"
  else if c.toNat = 0 then "\\0"
  else if c.toNat < 32 ∨ c.toNat = 127 then codeText c
  else if 128 ≤ c.toNat ∧ isHidden c then codeText c
  else c.toString

/-- A text between double quotes. -/
def quoted (text : String) : String :=
  "\"" ++ String.join (text.toList.map quotedChar) ++ "\""

end ExternalCompiler
