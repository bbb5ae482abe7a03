/-
What can go wrong with a configuration:

* `ReadFailure`: why a file could not be read;
* `FormatError`: why a text is not a configuration;
* `ConfigError`: either of them, or a combination of settings that cannot be started.
-/
import ExternalCompiler.Config.Basic

namespace ExternalCompiler

/-- Why a file could not be read. -/
inductive ReadFailure
  | notFound
  | notADirectory
  | isADirectory
  | nameTooLong
  | zeroByteInName
  | notUtf8
  | other (text : String)
deriving DecidableEq

/-- The text of a failure to read. -/
def ReadFailure.message : ReadFailure → String
  | notFound => "No such file or directory (os error 2)"
  | notADirectory => "Not a directory (os error 20)"
  | isADirectory => "Is a directory (os error 21)"
  | nameTooLong => "File name too long (os error 36)"
  | zeroByteInName => "file name contained an unexpected NUL byte"
  | notUtf8 => "stream did not contain valid UTF-8"
  | other text => text

/-- The type that a setting has in a configuration file. -/
inductive SettingType
  | boolean
  | signed
  | unsigned
deriving DecidableEq

/-- The name of a type in messages. -/
def SettingType.name : SettingType → String
  | boolean => "a boolean"
  | signed => "i64"
  | unsigned => "u64"

/-- Why a text is not a configuration: it is no TOML document, a setting has a value of another
type (`found` describes it), an integer that is out of range, an unknown execution mode, or a
value that cannot name an execution mode. -/
inductive FormatError
  | malformed
  | wrongType (found : String) (expected : SettingType)
  | outOfRange (value : Int) (expected : SettingType)
  | unknownMode (name : String)
  | notAMode
deriving DecidableEq

/-- The text of an error about a well-formed document with an unsuitable value. -/
def FormatError.detail : FormatError → Option String
  | malformed => none
  | wrongType found expected => some ("invalid type: " ++ found ++ ", expected " ++ expected.name)
  | outOfRange value expected =>
    some ("invalid value: integer `" ++ toString value ++ "`, expected " ++ expected.name)
  | unknownMode name =>
    some ("unknown variant `" ++ name ++ "`, expected one of "
      ++ ", ".intercalate (ExecutionMode.all.map fun m => "`" ++ m.name ++ "`"))
  | notAMode => none

/-- What can go wrong with a configuration. -/
inductive ConfigError
  | read (path : String) (cause : ReadFailure)
  | format (cause : FormatError)
  | invalid (reason : String)
deriving DecidableEq

namespace ConfigError

/-- Hosted mode without the external compiler cannot be started. -/
def hostedWithoutCompiler : ConfigError :=
  .invalid "use_native_library_compiler requires external_compiler_enabled"

/-- The text of an error; a malformed document is only said to be one. -/
def message : ConfigError → String
  | read path cause => "failed to read config file " ++ path ++ ": " ++ cause.message
  | format cause => "failed to parse config: " ++ cause.detail.getD "malformed document"
  | invalid reason => "invalid config: " ++ reason

end ConfigError

/-- Accepts a configuration that can be started. -/
def Config.validate (c : Config) : Except ConfigError Unit :=
  if c.isValid then .ok () else .error .hostedWithoutCompiler

end ExternalCompiler
