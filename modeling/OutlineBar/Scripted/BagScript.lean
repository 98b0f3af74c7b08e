/-
Scripts over one bag of properties.

The values are of four types.  Each value that is put into the bag is an object
with an identity of its own; a script can also give names to objects and put a
named object in again.  A value that comes out of the bag is reported with the
names that the very same object has by then.
-/
import OutlineBar.Bag

namespace OutlineBar

inductive SampleType where
  | number | text | flag | numbers
  deriving DecidableEq, Repr, Inhabited

@[reducible] def SampleType.Carrier : SampleType → Type
  | .number => Int
  | .text => String
  | .flag => Bool
  | .numbers => List Int

/-- An object: a value and the identity that tells it from an equal one. -/
structure Shared (type : SampleType) where
  identity : Nat
  value : type.Carrier

abbrev SampleObject := Tagged SampleType Shared

inductive BagStep where
  | insert (type : SampleType) (value : type.Carrier)
  | insertNamed (name : String) (type : SampleType) (value : type.Carrier)
  | get (type : SampleType)
  | remove (type : SampleType)
  | contains (type : SampleType)
  | describe
  | other

inductive BagReply where
  | nothing
  | object (found : Option (SampleObject × List String))
  | answer (yes : Bool)
  | text (shown : String)

/-- A bag under a script, with the names given so far. -/
structure BagScript where
  bag : Bag SampleType Shared := .empty
  names : List (String × SampleObject) := []
  nextIdentity : Nat := 0

namespace BagScript

def insertName (name : String) (object : SampleObject) :
    List (String × SampleObject) → List (String × SampleObject)
  | [] => [(name, object)]
  | (name', object') :: rest =>
    if name < name' then (name, object) :: (name', object') :: rest
    else if name = name' then (name, object) :: rest
    else (name', object') :: insertName name object rest

def namesOf (script : BagScript) (object : SampleObject) : List String :=
  (script.names.filter fun (_, other) => other.value.identity == object.value.identity).map Prod.fst

/-- The object that a name stands for, if it is of the given type. -/
def named? (script : BagScript) (name : String) (type : SampleType) : Option (Shared type) :=
  (script.names.lookup name).bind (Tagged.cast? type)

def fresh (script : BagScript) (type : SampleType) (value : type.Carrier) :
    Shared type × BagScript :=
  (⟨script.nextIdentity, value⟩, { script with nextIdentity := script.nextIdentity + 1 })

/-- Puts an object into the bag; also answers the one it replaces. -/
def put (script : BagScript) {type : SampleType} (object : Shared type) :
    Option (Shared type) × BagScript :=
  let (previous, bag) := script.bag.insert type object
  (previous, { script with bag })

/-- The report of an object, with the names it has now. -/
def report (script : BagScript) {type : SampleType} (object : Option (Shared type)) : BagReply :=
  .object (object.map fun object => (⟨type, object⟩, script.namesOf ⟨type, object⟩))

def step (script : BagScript) : BagStep → BagReply × BagScript
  | .insert type value =>
    let (object, script) := script.fresh type value
    let (previous, script) := script.put object
    (script.report previous, script)
  | .insertNamed name type value =>
    let (object, script) :=
      match script.named? name type with
      | some object => (object, script)
      | none =>
        let (object, script) := script.fresh type value
        (object, { script with names := insertName name ⟨type, object⟩ script.names })
    let (previous, script) := script.put object
    (script.report previous, script)
  | .get type => (script.report (script.bag.get? type), script)
  | .remove type =>
    let (previous, bag) := script.bag.remove type
    let script := { script with bag }
    (script.report previous, script)
  | .contains type => (.answer (script.bag.contains type), script)
  | .describe => (.text script.bag.description, script)
  | .other => (.nothing, script)

/-- Performs the steps in order.  Each reply comes with the size of the bag after its
step. -/
def run (script : BagScript) : List BagStep → List (BagReply × Nat)
  | [] => []
  | s :: rest =>
    let (reply, script) := script.step s
    (reply, script.bag.size) :: script.run rest

end BagScript

end OutlineBar
