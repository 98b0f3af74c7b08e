/-
Finding the outliner of a buffer.

A resolver owns one language.  A buffer whose content type is that language, up to
the case of ASCII letters, must bring an outliner of its own; any other buffer gets
a new service with the resolver's grammar.
-/
import OutlineBar.Outline.Grammar

namespace OutlineBar

/-- Why no new outliner can be created for a buffer. -/
inductive CreationError where
  /-- There is no grammar. -/
  | noGrammar (contentType : String)
  /-- The new outliner could not be started.  Only a host answers so; a service of this
  library always starts. -/
  | notStarted (contentType reason : String)
  deriving DecidableEq, Repr

def CreationError.message : CreationError → String
  | .noGrammar contentType =>
    "no parser available to create a tokenizer for content type \x27" ++ contentType ++ "\x27"
  | .notStarted contentType reason =>
    "failed to start a tokenizer for content type \x27" ++ contentType ++ "\x27: " ++ reason

/-- Why a buffer has no outliner. -/
inductive ResolveError where
  /-- A buffer of the owned language brings no outliner. -/
  | missing (contentType : String)
  /-- Another buffer needs a new outliner, which cannot be created. -/
  | unavailable (cause : CreationError)
  deriving DecidableEq, Repr

def ResolveError.message : ResolveError → String
  | .missing contentType =>
    "buffer of content type \x27" ++ contentType ++ "\x27 has no installed tokenizer"
  | .unavailable cause => cause.message

/-- A resolver: the language it owns, and the grammar for buffers of other content
types. -/
structure Resolver where
  language : String
  grammar : Option Grammar := none

/-- Where the outliner of a buffer comes from. -/
inductive Resolution (α : Type) where
  | installed (outliner : α)
  | create (grammar : Grammar)

namespace Resolver

/-- A text with its ASCII letters in lower case. -/
def foldCase (text : String) : List Char := text.toList.map Char.toLower

/-- Whether a content type is the owned language. -/
def owns (r : Resolver) (contentType : String) : Bool := foldCase contentType == foldCase r.language

/-- Finds the outliner of a buffer that brings `installed`. -/
def resolve {α : Type} (r : Resolver) (contentType : String) (installed : Option α) :
    Except ResolveError (Resolution α) :=
  if r.owns contentType then
    match installed with
    | some outliner => .ok (.installed outliner)
    | none => .error (.missing contentType)
  else
    match r.grammar with
    | some grammar => .ok (.create grammar)
    | none => .error (.unavailable (.noGrammar contentType))

end Resolver

end OutlineBar
