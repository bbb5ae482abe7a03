/-
A directory of files:

* `Files`: the files below a directory, each with the names on the way to it;
* `Files.write`: writes a file;
* `Files.walk`: goes along the parts of a path;
* `Files.read`: what a path leads to.
-/
import ExternalCompiler.Config.Read

namespace ExternalCompiler

/-- The files below a directory: the names on the way to each, and its bytes. -/
abbrev Files := List (List String × ByteArray)

namespace Files

/-- The names on the way to a file. -/
def names (path : String) : List String :=
  (path.splitOn "/").filter fun n => n != "" && n != "."

/-- The files after one was written; a file that was there before is replaced. -/
def write (fs : Files) (way : List String) (bytes : ByteArray) : Files :=
  (way, bytes) :: fs.filter fun f => f.1 != way

/-- The bytes of the file with these names on its way. -/
def file? (fs : Files) (way : List String) : Option ByteArray :=
  (fs.find? fun f => f.1 == way).map (·.2)

/-- Whether there is a directory with these names on its way. -/
def hasDirectory (fs : Files) (way : List String) : Bool :=
  way.isEmpty || fs.any fun f => way.isPrefixOf f.1 && f.1 != way

/-- The most bytes that a name may have. -/
def longestName : Nat := 255

/-- The most bytes that a path may have. -/
def longestPath : Nat := 4095

/-- Whether a part of a path only leads to another directory or stays in one. -/
def isDots (part : String) : Bool :=
  part == "" || part == "." || part == ".."

/-- What the parts of a path lead to where nothing but directories is known, whose names are
not. -/
def walkOutside (parts : List String) : Config.FileContent :=
  match parts.find? fun part => !isDots part with
  | none => .error .isADirectory
  | some name => .error (if longestName < name.utf8ByteSize then .nameTooLong else .notFound)

/-- Goes along the parts of a path from a directory, whose names are given. Empty parts and single
dots stay in a directory, two dots lead to the one above. -/
def walk (fs : Files) : List String → List String → Config.FileContent
  | _, [] => .error .isADirectory
  | here, part :: rest =>
    if part = "" ∨ part = "." then fs.walk here rest
    else if part = ".." then
      if here.isEmpty then walkOutside rest else fs.walk here.dropLast rest
    else if longestName < part.utf8ByteSize then .error .nameTooLong
    else
      match fs.file? (here ++ [part]) with
      | some bytes => if rest.isEmpty then .ok bytes else .error .notADirectory
      | none =>
        if fs.hasDirectory (here ++ [part]) then fs.walk (here ++ [part]) rest
        else .error .notFound

/-- What a path leads to; outside of the directory there are no files. -/
def read (fs : Files) (path : String) : Config.FileContent :=
  if path.toList.any (· == '\x00') then .error .zeroByteInName
  else if path.isEmpty then .error .notFound
  else if longestPath < path.utf8ByteSize then .error .nameTooLong
  else if path.startsWith "/" then walkOutside (path.splitOn "/")
  else fs.walk [] (path.splitOn "/")

end Files

end ExternalCompiler
