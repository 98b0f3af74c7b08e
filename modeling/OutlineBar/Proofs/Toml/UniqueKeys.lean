/-
Keys of a document that is read are unique.

`Value.UniqueKeys` says that no table anywhere in a value has a key twice, and
`Fields.UniqueKeys` says it of the tables of a document that is still being read.  Whatever
is done to such a document looks a key up before it adds it, so every line keeps the keys
unique, and so does the end of the document.
-/
import OutlineBar.Toml.Reading
import Mathlib.Data.List.Nodup

namespace OutlineBar.Toml

/-! ## Values with unique keys -/

/-- Whether a value stands somewhere in another one. -/
inductive Value.PartOf : Value → Value → Prop
  | whole (v : Value) : PartOf v v
  | item {v item : Value} {items : List Value} (mem : item ∈ items) (part : PartOf v item) :
      PartOf v (.array items)
  | field {v : Value} {f : String × Value} {fields : List (String × Value)} (mem : f ∈ fields)
      (part : PartOf v f.2) : PartOf v (.table fields)

/-- Whether no table in a value has two fields of one key. -/
def Value.UniqueKeys (v : Value) : Prop :=
  ∀ fields, PartOf (.table fields) v → (fields.map Prod.fst).Nodup

namespace Value

theorem uniqueKeys_array {items : List Value} :
    (Value.array items).UniqueKeys ↔ ∀ v ∈ items, v.UniqueKeys := by
  refine ⟨fun unique v mem fields part => unique fields (.item mem part),
    fun each fields part => ?_⟩
  cases part with
  | item mem part => exact each _ mem fields part

theorem uniqueKeys_table {fields : List (String × Value)} :
    (Value.table fields).UniqueKeys ↔
      (fields.map Prod.fst).Nodup ∧ ∀ f ∈ fields, f.2.UniqueKeys := by
  refine ⟨fun unique => ⟨unique _ (.whole _), fun f mem inner part =>
    unique inner (.field mem part)⟩, fun ⟨nodup, each⟩ inner part => ?_⟩
  cases part with
  | whole => exact nodup
  | field mem part => exact each _ mem inner part

/-- Whether a value is of a kind that holds no other values. -/
def isScalar : Value → Bool
  | .array _ => false
  | .table _ => false
  | _ => true

theorem uniqueKeys_of_isScalar {v : Value} (scalar : v.isScalar = true) : v.UniqueKeys := by
  intro fields part
  cases part <;> cases scalar

end Value

/-! ## Tables of a document that is being read -/

/-- Whether the keys of a table are unique, and those of every table in it. -/
inductive Node.UniqueKeys : Node → Prop
  | value {v : Value} (unique : v.UniqueKeys) : UniqueKeys (.value v)
  | table (origin : Origin) {fields : Fields} (nodup : (fields.map Prod.fst).Nodup)
      (each : ∀ f ∈ fields, UniqueKeys f.2) : UniqueKeys (.table origin fields)
  | elements {last : Fields} {earlier : List Fields}
      (nodup : ∀ fields ∈ last :: earlier, (fields.map Prod.fst).Nodup)
      (each : ∀ fields ∈ last :: earlier, ∀ f ∈ fields, UniqueKeys f.2) :
      UniqueKeys (.elements last earlier)

namespace Fields

structure UniqueKeys (fields : Fields) : Prop where
  nodup : (fields.map Prod.fst).Nodup
  each : ∀ f ∈ fields, f.2.UniqueKeys

variable {fields : Fields} {key : String} {node : Node}

theorem uniqueKeys_nil : UniqueKeys [] := ⟨List.nodup_nil, nofun⟩

theorem find?_eq_none : fields.find? key = none ↔ key ∉ fields.map Prod.fst := by
  induction fields with
  | nil => simp [find?]
  | cons f rest ih => grind [find?]

theorem mem_of_find? (found : fields.find? key = some node) : (key, node) ∈ fields := by
  induction fields with
  | nil => cases found
  | cons f rest ih => grind [find?]

theorem keys_replace : (fields.replace key node).map Prod.fst = fields.map Prod.fst := by
  induction fields with
  | nil => rfl
  | cons f rest ih => grind [replace]

theorem mem_replace {f : String × Node} (mem : f ∈ fields.replace key node) :
    f.2 = node ∨ f ∈ fields := by
  induction fields with
  | nil => cases mem
  | cons f rest ih => grind [replace]

namespace UniqueKeys

theorem push (unique : fields.UniqueKeys) (new : fields.find? key = none)
    (inner : node.UniqueKeys) : (fields.push key node).UniqueKeys := by
  refine ⟨?_, fun f mem => ?_⟩
  · unfold Fields.push
    rw [List.map_append]
    refine unique.nodup.append (List.nodup_singleton key) fun k mem mem' => ?_
    obtain rfl : k = key := List.mem_singleton.mp mem'
    exact find?_eq_none.mp new mem
  · rcases List.mem_append.mp mem with mem | mem
    · exact unique.each f mem
    · rw [List.mem_singleton.mp mem]
      exact inner

theorem replace (unique : fields.UniqueKeys) (inner : node.UniqueKeys) :
    (fields.replace key node).UniqueKeys := by
  refine ⟨keys_replace.symm ▸ unique.nodup, fun f mem => ?_⟩
  rcases mem_replace mem with e | mem
  · exact e ▸ inner
  · exact unique.each f mem

theorem table (unique : fields.UniqueKeys) (origin : Origin) :
    (Node.table origin fields).UniqueKeys := .table origin unique.nodup unique.each

theorem elements {earlier : List Fields} (unique : ∀ f ∈ fields :: earlier, f.UniqueKeys) :
    (Node.elements fields earlier).UniqueKeys :=
  .elements (fun f mem => (unique f mem).nodup) fun f mem => (unique f mem).each

/-- What is found under a key has unique keys too. -/
theorem found (unique : fields.UniqueKeys) (found : fields.find? key = some node) :
    node.UniqueKeys := unique.each _ (mem_of_find? found)

end UniqueKeys

theorem uniqueKeys_of_table {origin : Origin} (h : (Node.table origin fields).UniqueKeys) :
    fields.UniqueKeys := by
  cases h with
  | table _ nodup each => exact ⟨nodup, each⟩

theorem uniqueKeys_of_elements {earlier : List Fields}
    (h : (Node.elements fields earlier).UniqueKeys) : ∀ f ∈ fields :: earlier, f.UniqueKeys := by
  cases h with
  | elements nodup each => exact fun f mem => ⟨nodup f mem, each f mem⟩

/-! ## What lines do -/

/-- Whether a change of a table keeps its keys unique. -/
def Keeps (change : Origin → Fields → Option Fields) : Prop :=
  ∀ origin fields changed, change origin fields = some changed → fields.UniqueKeys →
    changed.UniqueKeys

theorem keeps_within {change : Origin → Fields → Option Fields} (keeps : Keeps change)
    (made : Origin) (path : List String) : Keeps (within made change path) := by
  induction path with
  | nil => exact keeps
  | cons key path ih =>
    intro origin fields changed done unique
    unfold within at done
    cases found : fields.find? key with
    | none =>
      rw [found] at done
      obtain ⟨sub, reached, rfl⟩ := Option.map_eq_some_iff.mp done
      exact unique.push found ((ih _ _ _ reached uniqueKeys_nil).table made)
    | some node =>
      rw [found] at done
      have inner := unique.found found
      cases node with
      | value v => cases done
      | elements last earlier =>
        obtain ⟨sub, reached, rfl⟩ := Option.map_eq_some_iff.mp done
        have each := uniqueKeys_of_elements inner
        have sub_unique := ih _ _ _ reached (each last List.mem_cons_self)
        refine unique.replace (UniqueKeys.elements fun f mem => ?_)
        rcases List.mem_cons.mp mem with rfl | mem
        · exact sub_unique
        · exact each f (List.mem_cons_of_mem _ mem)
      | table origin sub =>
        dsimp only at done
        split at done
        · cases done
        · obtain ⟨sub', reached, rfl⟩ := Option.map_eq_some_iff.mp done
          exact unique.replace ((ih _ _ _ reached (uniqueKeys_of_table inner)).table _)

theorem UniqueKeys.assign {path : List String} {v : Value} {changed : Fields}
    (unique : fields.UniqueKeys) (inner : v.UniqueKeys)
    (done : fields.assign path key v = some changed) : changed.UniqueKeys := by
  refine keeps_within (fun origin fields changed done unique => ?_) _ _ _ _ _ done unique
  split at done
  · unfold store at done
    cases found : fields.find? key with
    | none =>
      rw [found] at done
      cases done
      exact unique.push found (.value inner)
    | some node =>
      rw [found] at done
      cases done
  · cases done

theorem UniqueKeys.assignUnder {header path : List String} {v : Value} {changed : Fields}
    (unique : fields.UniqueKeys) (inner : v.UniqueKeys)
    (done : fields.assignUnder header path key v = some changed) : changed.UniqueKeys :=
  keeps_within (fun _ _ _ done unique => unique.assign inner done) _ _ _ _ _ done unique

theorem UniqueKeys.openTable {path : List String} {changed : Fields} (unique : fields.UniqueKeys)
    (done : fields.openTable path key = some changed) : changed.UniqueKeys := by
  refine keeps_within (fun origin fields changed done unique => ?_) _ _ _ _ _ done unique
  split at done
  · rename_i new
    cases done
    exact unique.push new (uniqueKeys_nil.table _)
  · rename_i sub found
    cases done
    exact unique.replace ((uniqueKeys_of_table (unique.found found)).table _)
  · cases done

theorem UniqueKeys.openElement {path : List String} {changed : Fields}
    (unique : fields.UniqueKeys) (done : fields.openElement path key = some changed) :
    changed.UniqueKeys := by
  refine keeps_within (fun origin fields changed done unique => ?_) _ _ _ _ _ done unique
  split at done
  · rename_i new
    cases done
    exact unique.push new
      (UniqueKeys.elements fun f mem => (List.mem_singleton.mp mem).symm ▸ uniqueKeys_nil)
  · rename_i last earlier found
    cases done
    have each := uniqueKeys_of_elements (unique.found found)
    refine unique.replace (UniqueKeys.elements fun f mem => ?_)
    rcases List.mem_cons.mp mem with rfl | mem
    · exact uniqueKeys_nil
    · exact each f mem
  · cases done

end Fields

/-! ## Finished tables -/

theorem finishFields_eq_map (fields : Fields) :
    finishFields fields = fields.map fun f => (f.1, f.2.finish) := by
  induction fields with
  | nil => rfl
  | cons f rest ih =>
    unfold finishFields
    rw [ih]
    rfl

theorem mem_finishElements {v : Value} {earlier : List Fields} {later : List Value}
    (mem : v ∈ finishElements earlier later) :
    v ∈ later ∨ ∃ fields ∈ earlier, v = .table (finishFields fields) := by
  induction earlier generalizing later with
  | nil => exact .inl mem
  | cons fields earlier ih =>
    unfold finishElements at mem
    rcases ih mem with mem | ⟨fields', mem, e⟩
    · rcases List.mem_cons.mp mem with e | mem
      · exact .inr ⟨fields, List.mem_cons_self, e⟩
      · exact .inl mem
    · exact .inr ⟨fields', List.mem_cons_of_mem _ mem, e⟩

theorem uniqueKeys_finishFields_of_each {fields : Fields} (nodup : (fields.map Prod.fst).Nodup)
    (each : ∀ f ∈ fields, f.2.finish.UniqueKeys) :
    (Value.table (finishFields fields)).UniqueKeys := by
  rw [finishFields_eq_map, Value.uniqueKeys_table, List.map_map]
  refine ⟨nodup, fun f mem => ?_⟩
  obtain ⟨f', mem', rfl⟩ := List.mem_map.mp mem
  exact each f' mem'

theorem Node.UniqueKeys.finish {node : Node} (unique : node.UniqueKeys) :
    node.finish.UniqueKeys := by
  induction unique with
  | value unique => exact unique
  | table origin nodup _ ih => exact uniqueKeys_finishFields_of_each nodup ih
  | @elements last earlier nodup _ ih =>
    refine Value.uniqueKeys_array.mpr fun v mem => ?_
    have finished : ∃ fields ∈ last :: earlier, v = .table (finishFields fields) := by
      rcases mem_finishElements mem with mem | ⟨fields, mem, e⟩
      · exact ⟨last, List.mem_cons_self, List.mem_singleton.mp mem⟩
      · exact ⟨fields, List.mem_cons_of_mem _ mem, e⟩
    obtain ⟨fields, mem', rfl⟩ := finished
    exact uniqueKeys_finishFields_of_each (nodup fields mem') (ih fields mem')

theorem Fields.UniqueKeys.finish {fields : Fields} (unique : fields.UniqueKeys) :
    (Value.table (finishFields fields)).UniqueKeys :=
  uniqueKeys_finishFields_of_each unique.nodup fun f mem => (unique.each f mem).finish

/-! ## What is read -/

theorem isScalar_integerValue (sign : Signed) (radix : Nat) :
    (integerValue sign radix).isScalar = true := by
  unfold integerValue
  dsimp only
  split <;> rfl

theorem isScalar_of_decimal? {sign : Signed} {v : Value} (read : decimal? sign = some v) :
    v.isScalar = true := by
  unfold decimal? at read
  split at read
  · cases read
  · cases read
    rfl
  · cases read
  · split at read
    · cases read
      exact isScalar_integerValue sign 10
    · cases read

theorem isScalar_of_inRadix? {radix : Nat} {digits : List Char} {v : Value}
    (read : inRadix? radix digits = some v) : v.isScalar = true := by
  unfold inRadix? at read
  split at read
  · cases read
    exact isScalar_integerValue _ radix
  · cases read

theorem isScalar_of_number? {text : List Char} {v : Value} (read : number? text = some v) :
    v.isScalar = true := by
  unfold number? at read
  dsimp only at read
  split at read
  · exact isScalar_of_decimal? read
  · split at read
    · split at read
      · cases read
        rfl
      · cases read
    · split at read
      · cases read
      · split at read
        · obtain ⟨x, -, rfl⟩ := Option.map_eq_some_iff.mp read
          rfl
        · split at read
          · exact isScalar_of_decimal? read
          · cases read

theorem isScalar_of_scalar? {text : List Char} {v : Value} (read : scalar? text = some v) :
    v.isScalar = true := by
  unfold scalar? at read
  split at read
  · cases read
    rfl
  · split at read
    · cases read
      rfl
    · split at read
      · cases read
        rfl
      · exact isScalar_of_inRadix? read
      · exact isScalar_of_inRadix? read
      · exact isScalar_of_inRadix? read
      · exact isScalar_of_number? read

theorem isScalar_of_simpleValue {text rest : List Char} {v : Value}
    (read : simpleValue text = some (v, rest)) : v.isScalar = true := by
  unfold simpleValue scalar at read
  dsimp only at read
  split at read
  · cases read
  · split at read
    · obtain ⟨body, -, e⟩ := Option.map_eq_some_iff.mp read
      cases e
      rfl
    · obtain ⟨v', word, e⟩ := Option.map_eq_some_iff.mp read
      cases e
      exact isScalar_of_scalar? word

/-- Whether all values that a reader gives have unique keys. -/
def Reader.KeepsUnique (reader : Reader Value) : Prop :=
  ∀ text v rest, reader text = some (v, rest) → v.UniqueKeys

variable {item : Reader Value}

theorem uniqueKeys_of_items (keeps : item.KeepsUnique) {bound : Nat} {text rest : List Char}
    {vs : List Value} (read : items item bound text = some (vs, rest)) :
    ∀ v ∈ vs, v.UniqueKeys := by
  induction bound generalizing text vs with
  | zero => cases read
  | succ bound ih =>
    unfold items at read
    split at read
    · cases read
    · cases read
      exact nofun
    · split at read
      · cases read
      · rename_i v after first
        split at read
        · obtain ⟨others, further, e⟩ := Option.map_eq_some_iff.mp read
          cases e
          exact List.forall_mem_cons.mpr ⟨keeps _ _ _ first, ih further⟩
        · cases read
          exact List.forall_mem_cons.mpr ⟨keeps _ _ _ first, nofun⟩
        · cases read

theorem uniqueKeys_of_assignment (keeps : item.KeepsUnique)
    {gap : List Char → Option (List Char)} {text rest : List Char} {path : List String}
    {key : String} {v : Value}
    (read : assignment gap item text = some ((path, key, v), rest)) : v.UniqueKeys := by
  unfold assignment at read
  obtain ⟨⟨path', key', after⟩, -, read⟩ := Option.bind_eq_some_iff.mp read
  obtain ⟨gone, -, read⟩ := Option.bind_eq_some_iff.mp read
  split at read
  · obtain ⟨after, -, read⟩ := Option.bind_eq_some_iff.mp read
    obtain ⟨⟨v', rest'⟩, found, e⟩ := Option.bind_eq_some_iff.mp read
    cases e
    exact keeps _ _ _ found
  · cases read

theorem uniqueKeys_of_inlineFields (keeps : item.KeepsUnique) {bound : Nat}
    {fields fields' : Fields} {text rest : List Char} (unique : fields.UniqueKeys)
    (read : inlineFields item bound fields text = some (fields', rest)) : fields'.UniqueKeys := by
  induction bound generalizing fields text with
  | zero => cases read
  | succ bound ih =>
    unfold inlineFields at read
    split at read
    · cases read
    · cases read
      exact unique
    · split at read
      · cases read
      · rename_i path key v after assigned
        have inner := uniqueKeys_of_assignment keeps assigned
        split at read
        · rename_i added _
          exact ih (unique.assign inner added) read
        · rename_i added _
          cases read
          exact unique.assign inner added
        · cases read

theorem keepsUnique_simpleValue : Reader.KeepsUnique simpleValue := fun _ _ _ read =>
  Value.uniqueKeys_of_isScalar (isScalar_of_simpleValue read)

theorem keepsUnique_value (depth : Nat) : Reader.KeepsUnique (value depth) := by
  induction depth with
  | zero => exact keepsUnique_simpleValue
  | succ depth ih =>
    intro text v rest read
    unfold value at read
    split at read
    · obtain ⟨⟨vs, rest⟩, read, e⟩ := Option.map_eq_some_iff.mp read
      cases e
      exact Value.uniqueKeys_array.mpr (uniqueKeys_of_items ih read)
    · obtain ⟨⟨fields, rest⟩, read, e⟩ := Option.map_eq_some_iff.mp read
      cases e
      exact (uniqueKeys_of_inlineFields ih Fields.uniqueKeys_nil read).finish
    · exact keepsUnique_simpleValue _ _ _ read

namespace Reading

variable {reading after : Reading} {text rest : List Char}

theorem uniqueKeys_readHeader (unique : reading.fields.UniqueKeys)
    (read : reading.readHeader text = some (after, rest)) : after.fields.UniqueKeys := by
  unfold readHeader at read
  split at read
  · split at read
    · obtain ⟨fields, opened, read⟩ := Option.bind_eq_some_iff.mp read
      obtain ⟨rest, -, e⟩ := Option.bind_eq_some_iff.mp read
      cases e
      exact unique.openElement opened
    · cases read
  · split at read
    · obtain ⟨fields, opened, read⟩ := Option.bind_eq_some_iff.mp read
      obtain ⟨rest, -, e⟩ := Option.bind_eq_some_iff.mp read
      cases e
      exact unique.openTable opened
    · cases read
  · cases read

theorem uniqueKeys_readAssignment (unique : reading.fields.UniqueKeys)
    (read : reading.readAssignment text = some (after, rest)) : after.fields.UniqueKeys := by
  unfold readAssignment at read
  obtain ⟨⟨⟨path, key, v⟩, rest⟩, assigned, read⟩ := Option.bind_eq_some_iff.mp read
  obtain ⟨fields, added, read⟩ := Option.bind_eq_some_iff.mp read
  obtain ⟨rest, -, e⟩ := Option.bind_eq_some_iff.mp read
  cases e
  exact unique.assignUnder (uniqueKeys_of_assignment (keepsUnique_value maxDepth) assigned) added

theorem uniqueKeys_readLines {bound : Nat} (unique : reading.fields.UniqueKeys)
    (read : readLines bound reading text = some after) : after.fields.UniqueKeys := by
  induction bound generalizing reading text with
  | zero => cases read
  | succ bound ih =>
    unfold readLines at read
    split at read
    · cases read
    · cases read
      exact unique
    · rename_i c text _
      dsimp only at read
      split at read
      · rename_i next rest line
        refine ih ?_ read
        split at line
        · exact uniqueKeys_readHeader unique line
        · exact uniqueKeys_readAssignment unique line
      · cases read

end Reading

/-- A document that is read has unique keys in all its tables. -/
theorem Value.uniqueKeys_of_ofText? {text : String} {fields : List (String × Value)}
    (read : Value.ofText? text = some fields) : (Value.table fields).UniqueKeys := by
  obtain ⟨reading, lines, rfl⟩ := Option.map_eq_some_iff.mp read
  exact (Reading.uniqueKeys_readLines Fields.uniqueKeys_nil lines).finish

end OutlineBar.Toml
