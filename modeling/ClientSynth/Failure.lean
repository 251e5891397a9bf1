/-! # Failures

What stops a run or a single operation.  A failing file operation carries the
system's error; a text that its format's reader refuses has no wording of its
own here. -/
namespace ClientSynth

/-- Why a file operation fails. -/
inductive SystemError where
  | notFound
  | alreadyExists
  | notADirectory
  | isADirectory
  | directoryNotEmpty
  /-- The path holds the character zero. -/
  | nulInPath
  | fileNameTooLong
  /-- The bytes of a file are no text. -/
  | notText
  /-- Anything else, in the system's words. -/
  | other (message : String)
  deriving Repr, DecidableEq

/-- The system's wording of an error. -/
def SystemError.message : SystemError → String
  | notFound => "No such file or directory (os error 2)"
  | alreadyExists => "File exists (os error 17)"
  | notADirectory => "Not a directory (os error 20)"
  | isADirectory => "Is a directory (os error 21)"
  | directoryNotEmpty => "Directory not empty (os error 39)"
  | nulInPath => "file name contained an unexpected NUL byte"
  | fileNameTooLong => "File name too long (os error 36)"
  | notText => "stream did not contain valid UTF-8"
  | other m => m

/-- What stops an operation. -/
inductive Failure where
  /-- A file operation or a hook command. -/
  | io (message : String)
  /-- A text that is no YAML, or not of the expected shape. -/
  | yaml
  /-- A text that is no JSON, or not of the expected shape. -/
  | json
  /-- A text that is no TOML, or not of the expected shape. -/
  | toml
  /-- A value that cannot be written as TOML. -/
  | tomlWriting
  /-- A transfer. -/
  | http
  /-- A contract document. -/
  | contract (message : String)
  /-- A member that cannot be resolved. -/
  | resolution (symbol message : String)
  /-- A set of templates. -/
  | template (message : String)
  /-- A template that cannot be read or rendered. -/
  | engine (message : String)
  /-- A configuration. -/
  | config (message : String)
  /-- The units of one declaration. -/
  | generation (declaration message : String)
  deriving Repr, DecidableEq

namespace Failure

/-- The failure of a file operation. -/
def ofSystem (e : SystemError) : Failure := .io e.message

/-- The name of the kind of failure. -/
def kind : Failure → String
  | io _ => "Io"
  | yaml => "Yaml"
  | json => "Json"
  | toml => "Toml"
  | tomlWriting => "TomlSer"
  | http => "Http"
  | contract _ => "Contract"
  | resolution _ _ => "Resolution"
  | template _ => "Template"
  | engine _ => "Tera"
  | config _ => "Config"
  | generation _ _ => "Generation"

/-- The wording of a failure, where it has one. -/
def message : Failure → Option String
  | io m => some ("I/O error: " ++ m)
  | contract m => some ("Contract error: " ++ m)
  | resolution symbol m => some ("Cannot resolve " ++ symbol ++ ": " ++ m)
  | template m => some ("Template error: " ++ m)
  | engine m => some ("Template engine error: " ++ m)
  | config m => some ("Configuration error: " ++ m)
  | generation declaration m => some ("Generation of " ++ declaration ++ " failed: " ++ m)
  | yaml | json | toml | tomlWriting | http => none

/-- The wording of a failure, empty where it has none. -/
def display (f : Failure) : String := f.message.getD ""

end Failure
end ClientSynth
