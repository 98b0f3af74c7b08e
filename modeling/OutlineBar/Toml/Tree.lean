/-
The tables of a document while it is being read.

A table remembers how it came to be, because that decides who may still add to
it: a header writes a table once, a path through an unwritten table leaves it open
for a header, and a dotted key goes through unwritten tables only and takes them
for dotted keys, so that no header can write them any more.  `within` walks along
a path and makes what is missing, `assign` stores one key, `openTable` and
`openElement` are the two kinds of header.  All of them answer nothing when a key is
already taken.
-/
import OutlineBar.Toml.Value

namespace OutlineBar.Toml

inductive Origin where
  /-- A header wrote it. -/
  | written
  /-- A longer header passed through it. -/
  | passed
  /-- A dotted key passed through it, whatever had before. -/
  | dotted
  deriving DecidableEq, Repr

/-- What a key stands for: a finished value, a table that may still grow, or the
elements of an array of tables, the last one first. -/
inductive Node where
  | value (v : Value)
  | table (origin : Origin) (fields : List (String × Node))
  | elements (last : List (String × Node)) (earlier : List (List (String × Node)))

/-- The keys of a table in the order in which they were made. -/
abbrev Fields := List (String × Node)

namespace Fields

def find? (key : String) : Fields → Option Node
  | [] => none
  | (key', node) :: rest => if key' = key then some node else find? key rest

/-- The fields with another node for a key that is there. -/
def replace (key : String) (node : Node) : Fields → Fields
  | [] => []
  | (key', node') :: rest =>
    if key' = key then (key', node) :: rest else (key', node') :: replace key node rest

def push (key : String) (node : Node) (fields : Fields) : Fields := fields ++ [(key, node)]

/-- Changes the table at the end of a path.  Tables that are missing on the way are
made with the origin `made`.  A dotted key makes every table on its way a dotted one
and cannot pass through a written one.  An array of tables stands for its last
element.  The change is told how the table it reached came to be. -/
def within (made : Origin) (change : Origin → Fields → Option Fields) :
    (path : List String) → Origin → Fields → Option Fields
  | [], origin, fields => change origin fields
  | key :: path, _, fields =>
    match fields.find? key with
    | none => (within made change path made []).map fun sub => fields.push key (.table made sub)
    | some (.value _) => none
    | some (.elements last earlier) =>
      (within made change path .written last).map fun sub =>
        fields.replace key (.elements sub earlier)
    | some (.table origin sub) =>
      if made = .dotted ∧ origin = .written then none
      else
        let origin := if made = .dotted then .dotted else origin
        (within made change path origin sub).map fun sub =>
          fields.replace key (.table origin sub)

def store (key : String) (v : Value) (fields : Fields) : Option Fields :=
  match fields.find? key with
  | none => some (fields.push key (.value v))
  | some _ => none

/-- Stores a value under a dotted key.  A table that a path leads to belongs to dotted
keys then; an element of an array of tables, which a header wrote, never does. -/
def assign (path : List String) (key : String) (v : Value) (fields : Fields) : Option Fields :=
  within .dotted
    (fun origin fields => if origin = .dotted ↔ path ≠ [] then store key v fields else none)
    path .written fields

/-- Opens a table by its header.  Only a table that longer headers passed through may
be there already. -/
def openTable (path : List String) (key : String) (fields : Fields) : Option Fields :=
  within .passed
    (fun _ fields =>
      match fields.find? key with
      | none => some (fields.push key (.table .written []))
      | some (.table .passed sub) => some (fields.replace key (.table .written sub))
      | some _ => none)
    path .written fields

/-- Opens one more element of an array of tables by its header. -/
def openElement (path : List String) (key : String) (fields : Fields) : Option Fields :=
  within .passed
    (fun _ fields =>
      match fields.find? key with
      | none => some (fields.push key (.elements [] []))
      | some (.elements last earlier) => some (fields.replace key (.elements [] (last :: earlier)))
      | some _ => none)
    path .written fields

/-- Stores a value under a dotted key in the table that a header opened. -/
def assignUnder (header path : List String) (key : String) (v : Value) (fields : Fields) :
    Option Fields :=
  within .passed (fun _ fields => assign path key v fields) header .written fields

end Fields

/-! ## Finished tables -/

mutual
/-- The value of a node when nothing more is added to it. -/
def Node.finish : Node → Value
  | .value v => v
  | .table _ fields => .table (finishFields fields)
  | .elements last earlier => .array (finishElements earlier [.table (finishFields last)])

def finishFields : List (String × Node) → List (String × Value)
  | [] => []
  | (key, node) :: rest => (key, node.finish) :: finishFields rest

/-- The elements of an array of tables, of which `earlier` lists the first ones from
the last to the first and `later` the rest. -/
def finishElements (earlier : List (List (String × Node))) (later : List Value) : List Value :=
  match earlier with
  | [] => later
  | fields :: earlier => finishElements earlier (.table (finishFields fields) :: later)
end

end OutlineBar.Toml
