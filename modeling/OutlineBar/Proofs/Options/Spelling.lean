/-
Options and the spelling of their document.

Two documents with one tree differ in the order of their fields only, and perhaps in how a
float is written; `Value.Alike` says so.  Decoding puts the fields of a table in ascending
order, so it cannot tell such documents apart, and it finds the same problem in both.

`options_of_documented_shape` is all that can be said of reading options: which documents give
options and which options these are, which problem is the answer otherwise, and that the
spelling does not matter.
-/
import OutlineBar.Proofs.Options.Shape

namespace OutlineBar

open Toml (Value)

/-! ## Values that differ in spelling -/

/-- Whether two values are the same up to the order of fields, and up to the digits of floats
that denote the same number. -/
inductive Toml.Value.Alike : Value → Value → Prop
  | same (v : Value) : Alike v v
  | float (negative : Bool) {digits digits' : Nat} {exponent exponent' : Int}
      (number : Binary.nearest? digits exponent = Binary.nearest? digits' exponent') :
      Alike (.float (.decimal negative digits exponent))
        (.float (.decimal negative digits' exponent'))
  | array {items items' : List Value} (each : List.Forall₂ Alike items items') :
      Alike (.array items) (.array items')
  | table {fields middle fields' : List (String × Value)}
      (keys : fields.map Prod.fst = middle.map Prod.fst)
      (each : List.Forall₂ Alike (fields.map Prod.snd) (middle.map Prod.snd))
      (perm : middle.Perm fields') : Alike (.table fields) (.table fields')

namespace Shape

variable {v w : Value}

theorem mismatch_alike (alike : v.Alike w) (expected : Expectation) :
    mismatch expected v = mismatch expected w := by
  cases alike with
  | same => rfl
  | float negative number =>
    unfold mismatch
    dsimp only
    rw [number]
  | array => rfl
  | table => rfl

/-- What takes only values without parts does not see how a value is spelled. -/
theorem boolean_alike (alike : v.Alike w) : boolean v = boolean w := by
  have same := mismatch_alike alike .boolean
  cases alike with
  | same => rfl
  | _ => exact congrArg Except.error same

theorem signed32_alike (alike : v.Alike w) : signed32 v = signed32 w := by
  have same := mismatch_alike alike .signed32
  cases alike with
  | same => rfl
  | _ => exact congrArg Except.error same

theorem string_alike (alike : v.Alike w) : string v = string w := by
  have same := mismatch_alike alike .string
  cases alike with
  | same => rfl
  | _ => exact congrArg Except.error same

theorem unsigned64_alike (alike : v.Alike w) : unsigned64 v = unsigned64 w := by
  have same := mismatch_alike alike .unsigned64
  cases alike with
  | same => rfl
  | _ => exact congrArg Except.error same

/-! ## Fields that differ in spelling -/

/-- Whether two fields have one key and values that differ in spelling only. -/
def FieldAlike (f g : String × Value) : Prop := f.1 = g.1 ∧ f.2.Alike g.2

variable {fields fields' : List (String × Value)}

theorem forall₂_fieldAlike (keys : fields.map Prod.fst = fields'.map Prod.fst)
    (each : List.Forall₂ Value.Alike (fields.map Prod.snd) (fields'.map Prod.snd)) :
    List.Forall₂ FieldAlike fields fields' := by
  induction fields generalizing fields' with
  | nil =>
    cases fields' with
    | nil => exact .nil
    | cons g rest' => cases keys
  | cons f rest ih =>
    cases fields' with
    | nil => cases keys
    | cons g rest' =>
      obtain ⟨key, keys⟩ := List.cons.inj keys
      cases each with
      | cons first others => exact .cons ⟨key, first⟩ (ih keys others)

theorem insertField_alike {f g : String × Value} (first : FieldAlike f g)
    (others : List.Forall₂ FieldAlike fields fields') :
    List.Forall₂ FieldAlike (insertField f fields) (insertField g fields') := by
  induction others with
  | nil => exact .cons first .nil
  | @cons f' g' rest rest' next others ih =>
    unfold insertField
    rw [first.1, next.1]
    split
    · exact .cons first (.cons next others)
    · exact .cons next ih

theorem ascendingFields_alike (each : List.Forall₂ FieldAlike fields fields') :
    List.Forall₂ FieldAlike (ascendingFields fields) (ascendingFields fields') := by
  induction each with
  | nil => exact .nil
  | cons first _ ih => exact insertField_alike first ih

/-- Two fields with different keys can be put in place in either order. -/
theorem insertField_comm {f g : String × Value} (ne : f.1 ≠ g.1)
    (fields : List (String × Value)) :
    insertField f (insertField g fields) = insertField g (insertField f fields) := by
  have total := Std.lt_trichotomy f.1 g.1
  induction fields with
  | nil => grind [insertField, String.lt_asymm]
  | cons h rest ih => grind [insertField, String.lt_asymm, String.lt_trans]

theorem ascendingFields_of_perm (perm : fields.Perm fields')
    (nodup : (fields.map Prod.fst).Nodup) : ascendingFields fields = ascendingFields fields' := by
  induction perm with
  | nil => rfl
  | cons f _ ih => exact congrArg (insertField f) (ih (List.nodup_cons.mp nodup).2)
  | swap f g rest =>
    refine insertField_comm (fun e => (List.nodup_cons.mp nodup).1 ?_) _
    exact e ▸ List.mem_cons_self
  | trans first _ ih ih' =>
    exact (ih nodup).trans (ih' ((first.map Prod.fst).nodup_iff.mp nodup))

/-! ## Decoding -/

theorem foldlM_alike {α : Type} {step : α → String × Value → Except ShapeError α}
    (each : List.Forall₂ FieldAlike fields fields')
    (blind : ∀ f ∈ fields, ∀ g, FieldAlike f g → ∀ o, step o f = step o g) (o : α) :
    fields.foldlM step o = fields'.foldlM step o := by
  induction each generalizing o with
  | nil => rfl
  | cons first _ ih =>
    obtain ⟨here, others⟩ := List.forall_mem_cons.mp blind
    rw [List.foldlM_cons, List.foldlM_cons, here _ first]
    exact bind_congr fun o => ih others o

/-- Documents with one tree are folded over with the same result, if the step does not see how
the values in the first one are spelled. -/
theorem foldlM_ascendingFields_alike {α : Type} {step : α → String × Value → Except ShapeError α}
    (nodup : (fields.map Prod.fst).Nodup)
    (alike : (Value.table fields).Alike (.table fields'))
    (blind : ∀ f ∈ fields, ∀ g, FieldAlike f g → ∀ o, step o f = step o g) (o : α) :
    (ascendingFields fields).foldlM step o = (ascendingFields fields').foldlM step o := by
  cases alike with
  | same => rfl
  | @table _ middle _ keys each perm =>
    rw [← ascendingFields_of_perm perm (keys ▸ nodup)]
    refine foldlM_alike (ascendingFields_alike (forall₂_fieldAlike keys each)) (fun f mem => ?_) o
    exact blind f ((ascendingFields_perm fields).mem_iff.mp mem)

namespace Section

variable {α : Type} {sec : Section α}

/-- Whether no field of a section sees how its value is spelled. -/
def Blind (sec : Section α) : Prop :=
  ∀ known ∈ sec.fields, ∀ v w : Value, v.Alike w → known.2 v = known.2 w

theorem setNamed_alike (blind : sec.Blind) {f g : String × Value} (alike : FieldAlike f g)
    (o : α) : sec.setNamed o f = sec.setNamed o g := by
  unfold setNamed
  rw [← alike.1]
  split
  · rename_i name set found
    exact congrFun (blind _ (List.mem_of_find?_eq_some found) _ _ alike.2) o
  · rfl

theorem setPositional_alike {known : List (String × (Value → α → Except ShapeError α))}
    (blind : ∀ f ∈ known, ∀ v w : Value, v.Alike w → f.2 v = f.2 w) {values values' : List Value}
    (each : List.Forall₂ Value.Alike values values') (o : α) :
    setPositional known values o = setPositional known values' o := by
  induction each generalizing known o with
  | nil => rfl
  | cons first _ ih =>
    cases known with
    | nil => rfl
    | cons f rest =>
      obtain ⟨here, others⟩ := List.forall_mem_cons.mp blind
      unfold setPositional
      rw [here _ _ first]
      exact bind_congr fun o => ih others o

theorem decode_alike (blind : sec.Blind) (unique : v.UniqueKeys) (alike : v.Alike w) (o : α) :
    sec.decode o v = sec.decode o w := by
  have seen := mismatch_alike alike sec.expectation
  cases v with
  | table fields =>
    have nodup := (Value.uniqueKeys_table.mp unique).1
    cases w with
    | table fields' =>
      exact foldlM_ascendingFields_alike nodup alike
        (fun f _ g alike o => setNamed_alike blind alike o) o
    | _ => cases alike
  | array items =>
    cases alike with
    | same => rfl
    | array each => exact setPositional_alike blind each o
  | _ =>
    cases alike with
    | same => rfl
    | _ => exact congrArg Except.error seen

end Section

theorem blind_barSection : barSection.Blind := by
  intro known mem v w alike
  simp only [barSection, List.mem_cons, List.not_mem_nil, or_false] at mem
  obtain rfl | rfl | rfl := mem
  · dsimp only
    rw [boolean_alike alike]
  · dsimp only
    rw [signed32_alike alike]
  · dsimp only
    rw [string_alike alike]

theorem blind_idleSection : idleSection.Blind := by
  intro known mem v w alike
  obtain rfl := List.mem_singleton.mp mem
  dsimp only
  rw [unsigned64_alike alike]

theorem setSection_alike {f g : String × Value} (unique : f.2.UniqueKeys) (alike : FieldAlike f g)
    (o : Options) : setSection o f = setSection o g := by
  unfold setSection
  rw [alike.1, Section.decode_alike blind_barSection unique alike.2,
    Section.decode_alike blind_idleSection unique alike.2]

/-- Documents with one tree are decoded to the same options, or have the same problem. -/
theorem options_alike (unique : (Value.table fields).UniqueKeys)
    (alike : (Value.table fields).Alike (.table fields')) :
    Shape.options fields = Shape.options fields' := by
  obtain ⟨nodup, each⟩ := Value.uniqueKeys_table.mp unique
  exact foldlM_ascendingFields_alike nodup alike
    (fun f mem g alike o => setSection_alike (each f mem) alike o) {}

end Shape

/-! ## Options that are read -/

namespace Options

variable {fields fields' : List (String × Value)} {o : Options}

theorem isAllWhiteSpace_eq_false {text : String} :
    Text.isAllWhiteSpace text = false ↔ ∃ c ∈ text.toList, Text.isWhiteSpace c = false := by
  unfold Text.isAllWhiteSpace
  rw [List.all_eq_false]
  simp

/-- What becomes of a document of the right shape.  The priority is looked at before the
language. -/
theorem ofTree_cases (decoded : Shape.options fields = .ok o) :
    (o.bar.priority < 0 ∧
        ofTree fields = .error (.invalid (.negativePriority o.bar.priority))) ∨
      (0 ≤ o.bar.priority ∧ Text.isAllWhiteSpace o.bar.language = true ∧
        ofTree fields = .error (.invalid .blankLanguage)) ∨
      (0 ≤ o.bar.priority ∧ Text.isAllWhiteSpace o.bar.language = false ∧
        ofTree fields = .ok o) := by
  unfold ofTree validate
  rw [decoded]
  by_cases negative : o.bar.priority < 0
  · simp [negative]
  · cases blank : Text.isAllWhiteSpace o.bar.language <;>
      simp [negative, blank, Int.not_lt.mp negative]

/-- A problem with the shape is the answer, whatever the values that have the right shape. -/
theorem ofTree_of_error {e : ShapeError} (failed : Shape.options fields = .error e) :
    ofTree fields = .error (.shape e) := by
  unfold ofTree
  rw [failed]

theorem ofTree_shape_iff :
    (∃ e, ofTree fields = .error (.shape e)) ↔ ∀ o, Shape.options fields ≠ .ok o := by
  cases decoded : Shape.options fields with
  | error e => exact ⟨fun _ => nofun, fun _ => ⟨e, ofTree_of_error decoded⟩⟩
  | ok o =>
    refine ⟨fun ⟨e, failed⟩ => ?_, fun none => absurd rfl (none o)⟩
    obtain ⟨-, done⟩ | ⟨-, -, done⟩ | ⟨-, -, done⟩ := ofTree_cases decoded <;>
      cases failed.symm.trans done

theorem ofTree_eq_ok_iff : ofTree fields = .ok o ↔
    Shape.options fields = .ok o ∧ 0 ≤ o.bar.priority ∧
      Text.isAllWhiteSpace o.bar.language = false := by
  constructor
  · intro read
    cases decoded : Shape.options fields with
    | error e => cases read.symm.trans (ofTree_of_error decoded)
    | ok o' =>
      obtain ⟨-, done⟩ | ⟨-, -, done⟩ | ⟨natural, shown, done⟩ := ofTree_cases decoded <;>
        cases read.symm.trans done
      exact ⟨rfl, natural, shown⟩
  · rintro ⟨decoded, natural, shown⟩
    obtain ⟨negative, -⟩ | ⟨-, blank, -⟩ | ⟨-, -, done⟩ := ofTree_cases decoded
    · exact absurd natural (Int.not_le.mpr negative)
    · cases shown.symm.trans blank
    · exact done

end Options

/-- Options are read from a document exactly if it has the documented shape, the priority is not
negative and something of the language can be seen; then they are what the shape says.  A wrong
shape is reported whatever the values are, a negative priority before a blank language, and
documents that differ only in spelling have one answer.  Tables of a document that was read have
unique keys. -/
theorem options_of_documented_shape :
    (∀ text fields, Toml.Value.ofText? text = some fields →
      (Value.table fields).UniqueKeys ∧ Options.ofText text = Options.ofTree fields) ∧
    ∀ fields, (Value.table fields).UniqueKeys →
      (∀ o, Options.ofTree fields = .ok o ↔ Documented fields o ∧ 0 ≤ o.bar.priority ∧
        ∃ c ∈ o.bar.language.toList, Text.isWhiteSpace c = false) ∧
      ((∃ e, Options.ofTree fields = .error (.shape e)) ↔ ∀ o, ¬ Documented fields o) ∧
      (∀ o, Documented fields o → o.bar.priority < 0 →
        Options.ofTree fields = .error (.invalid (.negativePriority o.bar.priority))) ∧
      (∀ o, Documented fields o → 0 ≤ o.bar.priority →
        (∀ c ∈ o.bar.language.toList, Text.isWhiteSpace c = true) →
        Options.ofTree fields = .error (.invalid .blankLanguage)) ∧
      ∀ fields', (Value.table fields).Alike (.table fields') →
        Options.ofTree fields' = Options.ofTree fields := by
  refine ⟨fun text fields read => ⟨Value.uniqueKeys_of_ofText? read, ?_⟩, fun fields unique => ?_⟩
  · unfold Options.ofText
    rw [read]
  have documented {o : Options} : Shape.options fields = .ok o ↔ Documented fields o :=
    Shape.options_eq_ok_iff unique
  refine ⟨fun o => ?_, ?_, fun o shape negative => ?_, fun o shape natural blank => ?_,
    fun fields' alike => ?_⟩
  · rw [Options.ofTree_eq_ok_iff, documented, Options.isAllWhiteSpace_eq_false]
  · rw [Options.ofTree_shape_iff]
    exact forall_congr' fun o => not_congr documented
  · obtain ⟨-, done⟩ | ⟨natural, -⟩ | ⟨natural, -⟩ := Options.ofTree_cases (documented.mpr shape)
    · exact done
    · exact absurd natural (Int.not_le.mpr negative)
    · exact absurd natural (Int.not_le.mpr negative)
  · obtain ⟨negative, -⟩ | ⟨-, -, done⟩ | ⟨-, shown, -⟩ :=
      Options.ofTree_cases (documented.mpr shape)
    · exact absurd natural (Int.not_le.mpr negative)
    · exact done
    · exact absurd (List.all_eq_true.mpr blank) (Bool.eq_false_iff.mp shown)
  · unfold Options.ofTree
    rw [Shape.options_alike unique alike]

/-- A document that gives the bar section by position and leaves the language at its default.
The order of the sections does not matter.  With a negative priority the document is refused
for that, and with a key that no document has it is refused for the key. -/
theorem options_of_documented_shape_by_position :
    let text := "idle.max-windows-per-tick = 3\nnavigation = [false, 7]"
    let idle : String × Value := ("idle", .table [("max-windows-per-tick", .integer 3)])
    let bar (priority : Int) : String × Value :=
      ("navigation", .array [.boolean false, .integer priority])
    let theme : String × Value := ("theme", .string "dark")
    let options (priority : Int) : Options :=
      { bar := { enabled := false, priority }, idle := { maxWindows := 3 } }
    (∃ fields, Toml.Value.ofText? text = some fields ∧ Documented fields (options 7)) ∧
    Options.ofTree [idle, bar 7] = .ok (options 7) ∧
    Options.ofTree [bar 7, idle] = .ok (options 7) ∧
    Options.ofTree [idle, bar (-7)] = .error (.invalid (.negativePriority (-7))) ∧
    ∃ e, Options.ofTree [idle, bar (-7), theme] = .error (.shape e) := by
  intro text idle bar theme options
  obtain ⟨reads, shapes⟩ := options_of_documented_shape
  have shape (priority : Int) (small : -2147483648 ≤ priority ∧ priority ≤ 2147483647) :
      Documented [idle, bar priority] (options priority) :=
    { known := by simp [idle, bar]
      bar := by
        rintro _ ⟨⟩
        exact ⟨_, rfl, by simp [barNames]⟩
      idle := by
        rintro _ ⟨⟩
        exact ⟨_, rfl, by simp [idleNames]⟩
      enabled := rfl
      priority := ⟨rfl, small⟩
      language := rfl
      maxWindows := ⟨rfl, show 3 ≤ 18446744073709551615 by decide⟩ }
  have boolean (b : Bool) : (Value.boolean b).UniqueKeys := Value.uniqueKeys_of_isScalar rfl
  have integer (n : Int) : (Value.integer n).UniqueKeys := Value.uniqueKeys_of_isScalar rfl
  have string (s : String) : (Value.string s).UniqueKeys := Value.uniqueKeys_of_isScalar rfl
  have unique (priority : Int) : (Value.table [idle, bar priority, theme]).UniqueKeys ∧
      (Value.table [idle, bar priority]).UniqueKeys := by
    simp [idle, bar, theme, Value.uniqueKeys_table, Value.uniqueKeys_array, boolean, integer,
      string]
  have isRead : ∃ fields, Toml.Value.ofText? text = some fields ∧
      Documented fields (options 7) := by
    obtain ⟨fields, tree⟩ := Option.isSome_iff_exists.mp
      (show (Toml.Value.ofText? text).isSome by decide +kernel)
    obtain ⟨uniqueKeys, same⟩ := reads text fields tree
    have read : Options.ofText text = .ok (options 7) := by decide +kernel
    rw [same] at read
    exact ⟨fields, tree, (((shapes fields uniqueKeys).1 _).mp read).1⟩
  obtain ⟨ok, -, -, -, spelling⟩ := shapes _ (unique 7).2
  obtain ⟨-, -, negative, -⟩ := shapes _ (unique (-7)).2
  obtain ⟨-, refused, -⟩ := shapes _ (unique (-7)).1
  have accepted := (ok (options 7)).mpr ⟨shape 7 (by decide), by decide, 'p', by decide, by decide⟩
  refine ⟨isRead, accepted, ?_, negative _ (shape (-7) (by decide)) (by decide), ?_⟩
  · have swapped := spelling [bar 7, idle]
      (.table rfl (List.forall₂_same.mpr fun v _ => .same v) (.swap _ _ _))
    exact swapped.trans accepted
  · refine refused.mpr fun o documented => ?_
    have known := documented.known theme (by simp)
    exact absurd known (by decide)

end OutlineBar
