import CosmacVip.HostKey
import CosmacVip.Machine.Fault

/-!
What ends the program with an error: a fault of the machine, a file that cannot be read, or a
configuration that cannot be used.

* `Failure.message`: the sentence that is shown;
* `Failure.diagnostic`: the name and the fields.
-/

namespace CosmacVip

/-- Why the operating system did not read a file. -/
structure FileError where
  code : Nat
  kind : String
  message : String
deriving DecidableEq, Repr

namespace FileError

/-- There is no such file. -/
def notFound : FileError := ⟨2, "NotFound", "No such file or directory"⟩

/-- The file may not be read. -/
def permissionDenied : FileError := ⟨13, "PermissionDenied", "Permission denied"⟩

/-- The file is a directory. -/
def isDirectory : FileError := ⟨21, "IsADirectory", "Is a directory"⟩

/-- The sentence that is shown, with the system's number for the error. -/
def text (e : FileError) : String := e.message ++ " (os error " ++ e.code.repr ++ ")"

/-- The name and the fields. -/
def diagnostic (e : FileError) : String :=
  Record.text "Os" [("code", e.code.repr), ("kind", e.kind), ("message", Quoted.text e.message)]

end FileError

/-- Why a configuration cannot be used. -/
inductive ConfigError where
  /-- The text is not of the format. -/
  | malformed
  /-- A value has the wrong type, or a number is out of range. -/
  | badValue
  /-- A field is given twice. -/
  | repeated (field : String)
  /-- A required field has no value. -/
  | missing (field : String)
  /-- No host key has the name. -/
  | unknownKey (name : String)
deriving DecidableEq, Repr

namespace ConfigError

/-- The sentence that is shown. -/
def message : ConfigError → String
  | malformed => "not a well-formed document"
  | badValue => "a value has the wrong type"
  | repeated field => "field " ++ field ++ " is given twice"
  | missing field => "field " ++ field ++ " has no value"
  | unknownKey name => HostKey.unknownText name

end ConfigError

/-- An error that ends the program. -/
inductive Failure where
  | machine (fault : Fault)
  | file (error : FileError)
  | config (error : ConfigError)
deriving DecidableEq, Repr

namespace Failure

/-- The sentence that is shown. -/
def message (f : Failure) : String :=
  "application error: " ++
    match f with
    | machine fault => fault.message
    | file error => error.text
    | config error => "invalid config: " ++ error.message

/-- The name and the fields; the fields of a configuration error are left out. -/
def diagnostic (f : Failure) : String :=
  let kind := match f with
    | machine fault => Record.wrapped "Chip8" fault.diagnostic
    | file error => Record.wrapped "Io" error.diagnostic
    | config _ => Record.wrapped "Config" "..."
  Record.text "AppError" [("kind", kind)]

end Failure

end CosmacVip
