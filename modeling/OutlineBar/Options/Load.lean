/-
Options from a text and from a file.

`Files` is what the file system answers when a path is read: bytes, or the reason
why there are none.  Bytes that are no UTF-8 are a failure of reading too.
-/
import OutlineBar.Options.Decode
import OutlineBar.Toml.Reading

namespace OutlineBar

namespace Options

def ofText (text : String) : Except OptionsError Options :=
  match Toml.Value.ofText? text with
  | none => .error .malformed
  | some fields => ofTree fields

end Options

/-- Why a file gives no text. -/
inductive ReadFailure where
  | notFound
  | isADirectory
  | notUtf8
  deriving DecidableEq, Repr

def ReadFailure.message : ReadFailure → String
  | .notFound => "No such file or directory (os error 2)"
  | .isADirectory => "Is a directory (os error 21)"
  | .notUtf8 => "stream did not contain valid UTF-8"

/-- The contents of the files that can be read, by path. -/
abbrev Files := String → Except ReadFailure ByteArray

inductive LoadError where
  | unreadable (path : String) (failure : ReadFailure)
  | options (error : OptionsError)
  deriving DecidableEq, Repr

/-- The text of a failure to read a file. -/
def ReadFailure.messageAt (failure : ReadFailure) (path : String) : String :=
  "I/O error reading " ++ path ++ ": " ++ failure.message

def Files.readText (files : Files) (path : String) : Except ReadFailure String :=
  match files path with
  | .error failure => .error failure
  | .ok bytes =>
    match String.fromUTF8? bytes with
    | some text => .ok text
    | none => .error .notUtf8

def Options.load (files : Files) (path : String) : Except LoadError Options :=
  match files.readText path with
  | .error failure => .error (.unreadable path failure)
  | .ok text =>
    match Options.ofText text with
    | .error error => .error (.options error)
    | .ok options => .ok options

end OutlineBar
