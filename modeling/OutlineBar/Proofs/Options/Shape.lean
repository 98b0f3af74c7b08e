/-
The shape that options have.

`Documented` says which options a document has when it is well shaped, without a word on how it
is decoded: every key is known, every value has the type of its field, and a field without a
value has its default.  `Shape.options_eq_ok_iff` shows that decoding answers just these.

All three tables, the document itself and its two sections, are gone through field by field in
ascending order.  What that leaves in one place depends only on the field with the name of that
place (`Places.foldlM`), so the order does not matter as long as there is no problem.
-/
import OutlineBar.Options.Load
import OutlineBar.Proofs.Toml.UniqueKeys

namespace OutlineBar

open Toml (Value)

/-! ## Documents of the right shape -/

/-- The values that a section gives, by name.  An array names them by their position, and has
no name for those after the last field. -/
def Toml.Value.named? (names : List String) : Value → Option (List (String × Value))
  | .table fields => some fields
  | .array items => some (names.zip items)
  | _ => none

/-- Whether a value is a section with no other fields than these. -/
def Toml.Value.IsSection (names : List String) (v : Value) : Prop :=
  ∃ given, v.named? names = some given ∧ ∀ f ∈ given, f.1 ∈ names

def barNames : List String := ["enabled", "bar-priority", "language"]

def idleNames : List String := ["max-windows-per-tick"]

/-- The value that a section gives for a field, if there is a section and it gives one. -/
def Toml.Value.given? (names : List String) (name : String) (sec : Option Value) : Option Value :=
  sec.bind fun v => (v.named? names).bind (List.lookup name)

/-- Whether a document has the documented shape, and means these options. -/
structure Documented (fields : List (String × Value)) (options : Options) : Prop where
  known : ∀ f ∈ fields, f.1 = "navigation" ∨ f.1 = "idle"
  bar : ∀ v, fields.lookup "navigation" = some v → v.IsSection barNames
  idle : ∀ v, fields.lookup "idle" = some v → v.IsSection idleNames
  enabled : (Value.given? barNames "enabled" (fields.lookup "navigation")).elim
    (options.bar.enabled = true) fun v => v = .boolean options.bar.enabled
  priority : (Value.given? barNames "bar-priority" (fields.lookup "navigation")).elim
    (options.bar.priority = 2) fun v => v = .integer options.bar.priority ∧
      -2147483648 ≤ options.bar.priority ∧ options.bar.priority ≤ 2147483647
  language : (Value.given? barNames "language" (fields.lookup "navigation")).elim
    (options.bar.language = "powershell") fun v => v = .string options.bar.language
  maxWindows : (Value.given? idleNames "max-windows-per-tick" (fields.lookup "idle")).elim
    (options.idle.maxWindows = 0) fun v => v = .integer options.idle.maxWindows ∧
      options.idle.maxWindows ≤ 18446744073709551615

namespace Shape

/-! ## Values of one type -/

variable {v : Value}

theorem boolean_eq_ok_iff {b : Bool} : boolean v = .ok b ↔ v = .boolean b := by
  cases v <;> simp [boolean]

theorem string_eq_ok_iff {s : String} : string v = .ok s ↔ v = .string s := by
  cases v <;> simp [string]

theorem fitsSigned_32 {n : Int} :
    WordRange.fitsSigned 32 n = true ↔ -2147483648 ≤ n ∧ n ≤ 2147483647 := by
  have bound : ((Nat.pow 2 (32 - 1) : Nat) : Int) = 2147483648 := rfl
  unfold WordRange.fitsSigned
  rw [Bool.and_eq_true, decide_eq_true_eq, decide_eq_true_eq, bound]
  omega

theorem fitsUnsigned_64 {n : Int} :
    WordRange.fitsUnsigned 64 n = true ↔ 0 ≤ n ∧ n ≤ 18446744073709551615 := by
  have bound : ((Nat.pow 2 64 : Nat) : Int) = 18446744073709551616 := rfl
  unfold WordRange.fitsUnsigned
  rw [Bool.and_eq_true, decide_eq_true_eq, decide_eq_true_eq, bound]
  omega

theorem signed32_eq_ok_iff {n : Int} :
    signed32 v = .ok n ↔ v = .integer n ∧ -2147483648 ≤ n ∧ n ≤ 2147483647 := by
  rw [← fitsSigned_32]
  cases v with
  | integer m =>
    unfold signed32
    dsimp only
    split
    · rename_i fit
      rw [Except.ok.injEq, Value.integer.injEq]
      exact ⟨fun e => ⟨e, e ▸ fit⟩, And.left⟩
    · rename_i unfit
      refine ⟨fun done => ?_, fun ⟨e, fit⟩ => absurd (Value.integer.inj e ▸ fit) unfit⟩
      split at done <;> cases done
  | _ => simp [signed32]

theorem unsigned64_eq_ok_iff {n : Nat} :
    unsigned64 v = .ok n ↔ v = .integer n ∧ n ≤ 18446744073709551615 := by
  cases v with
  | integer m =>
    unfold unsigned64
    dsimp only
    split
    · rename_i fit
      have bounds := fitsUnsigned_64.mp fit
      rw [Except.ok.injEq, Value.integer.injEq]
      omega
    · rename_i unfit
      rw [fitsUnsigned_64] at unfit
      refine ⟨fun done => ?_, fun ⟨e, bound⟩ => ?_⟩
      · split at done <;> cases done
      · cases e
        omega
  | _ => simp [unsigned64]

/-! ## Fields in ascending order -/

variable {fields : List (String × Value)} {name : String}

theorem insertField_perm (f : String × Value) (fields : List (String × Value)) :
    (insertField f fields).Perm (f :: fields) := by
  induction fields with
  | nil => exact .refl _
  | cons g rest ih =>
    unfold insertField
    split
    · exact .refl _
    · exact (ih.cons g).trans (.swap f g rest)

theorem ascendingFields_perm (fields : List (String × Value)) :
    (ascendingFields fields).Perm fields := by
  induction fields with
  | nil => exact .refl _
  | cons f rest ih => exact (insertField_perm f _).trans (ih.cons f)

theorem lookup_eq_some_iff_mem (nodup : (fields.map Prod.fst).Nodup) :
    fields.lookup name = some v ↔ (name, v) ∈ fields := by
  induction fields with
  | nil => simp
  | cons f rest ih =>
    obtain ⟨new, nodup⟩ := List.nodup_cons.mp nodup
    have mem_keys : (name, v) ∈ rest → name ∈ rest.map Prod.fst :=
      List.mem_map_of_mem (f := Prod.fst)
    rw [List.lookup_cons]
    grind

/-- Where keys are unique, their order does not matter to who looks them up. -/
theorem lookup_perm {fields' : List (String × Value)} (nodup : (fields.map Prod.fst).Nodup)
    (perm : fields'.Perm fields) : fields'.lookup name = fields.lookup name := by
  have nodup' : (fields'.map Prod.fst).Nodup := (perm.map Prod.fst).nodup_iff.mpr nodup
  refine Option.ext fun v => ?_
  rw [lookup_eq_some_iff_mem nodup', lookup_eq_some_iff_mem nodup, perm.mem_iff]

/-! ## Folds over the fields of a table -/

theorem bind_eq_ok {ε α β : Type} {act : Except ε α} {rest : α → Except ε β} {b : β} :
    (act >>= rest) = .ok b ↔ ∃ a, act = .ok a ∧ rest a = .ok b := by
  cases act <;> simp [bind, Except.bind]

section Fold

variable {α β : Type} {step : α → String × Value → Except ShapeError α} {o o' : α} {get : α → β}
  {read : Value → Except ShapeError β}

/-- Whether a field puts what it reads in a place, which no other field changes. -/
structure Places (step : α → String × Value → Except ShapeError α) (name : String)
    (read : Value → Except ShapeError β) (get : α → β) : Prop where
  own : ∀ v o o', step o (name, v) = .ok o' → read v = .ok (get o')
  others : ∀ f o o', f.1 ≠ name → step o f = .ok o' → get o' = get o

/-- After a fold a place holds what the field with its name gives, and what it held before if
there is no such field. -/
theorem Places.foldlM (places : Places step name read get) (nodup : (fields.map Prod.fst).Nodup)
    (done : fields.foldlM step o = .ok o') :
    (fields.lookup name).elim (.ok (get o)) read = .ok (get o') := by
  induction fields generalizing o with
  | nil =>
    cases done
    rfl
  | cons f rest ih =>
    obtain ⟨key, v⟩ := f
    obtain ⟨new, nodup⟩ := List.nodup_cons.mp nodup
    rw [List.foldlM_cons] at done
    obtain ⟨o₁, first, done⟩ := bind_eq_ok.mp done
    have later := ih nodup done
    rw [List.lookup_cons]
    by_cases e : name = key
    · subst e
      have absent : rest.lookup name = none := by
        refine List.lookup_eq_none_iff.mpr fun g mem => bne_iff_ne.mpr fun e => new ?_
        exact List.mem_map.mpr ⟨g, mem, e.symm⟩
      rw [absent] at later
      rw [beq_self_eq_true]
      exact (places.own v o o₁ first).trans later
    · rw [beq_false_of_ne e, ← places.others (key, v) o o₁ (Ne.symm e) first]
      exact later

theorem forall_of_foldlM {p : String × Value → Prop}
    (each : ∀ f o o', step o f = .ok o' → p f) (done : fields.foldlM step o = .ok o') :
    ∀ f ∈ fields, p f := by
  induction fields generalizing o with
  | nil => exact nofun
  | cons f rest ih =>
    rw [List.foldlM_cons] at done
    obtain ⟨o₁, first, done⟩ := bind_eq_ok.mp done
    exact List.forall_mem_cons.mpr ⟨each f o o₁ first, ih done⟩

theorem foldlM_eq_ok (each : ∀ f ∈ fields, ∀ o, ∃ o', step o f = .ok o') (o : α) :
    ∃ o', fields.foldlM step o = .ok o' := by
  induction fields generalizing o with
  | nil => exact ⟨o, rfl⟩
  | cons f rest ih =>
    obtain ⟨first, others⟩ := List.forall_mem_cons.mp each
    obtain ⟨o₁, first⟩ := first o
    obtain ⟨o', done⟩ := ih others o₁
    refine ⟨o', ?_⟩
    rw [List.foldlM_cons]
    exact bind_eq_ok.mpr ⟨o₁, first, done⟩

end Fold

/-! ## Sections -/

theorem map_fst_zip_sublist {β γ : Type} (xs : List β) (ys : List γ) :
    ((xs.zip ys).map Prod.fst).Sublist xs := by
  induction xs generalizing ys with
  | nil => exact .refl _
  | cons x xs ih =>
    cases ys with
    | nil => exact List.nil_sublist _
    | cons y ys => exact (ih ys).cons_cons x

theorem nodup_named {names : List String} (nodup : names.Nodup) (unique : v.UniqueKeys)
    {given : List (String × Value)} (named : v.named? names = some given) :
    (given.map Prod.fst).Nodup := by
  cases v with
  | table fields =>
    cases named
    exact (Value.uniqueKeys_table.mp unique).1
  | array items =>
    cases named
    exact nodup.sublist (map_fst_zip_sublist names items)
  | _ => cases named

namespace Section

variable {α : Type} {sec : Section α} {o o' : α}

theorem find?_of_mem {β : Type} {known : List (String × β)} {x : β}
    (nodup : (known.map Prod.fst).Nodup) (mem : (name, x) ∈ known) :
    known.find? (fun f => f.1 == name) = some (name, x) := by
  induction known with
  | nil => cases mem
  | cons f rest ih => grind

theorem setNamed_of_mem (nodup : sec.names.Nodup) {set : Value → α → Except ShapeError α}
    (mem : (name, set) ∈ sec.fields) : sec.setNamed o (name, v) = set v o := by
  unfold setNamed
  rw [find?_of_mem nodup mem]

theorem setNamed_eq_ok {f : String × Value} (done : sec.setNamed o f = .ok o') :
    ∃ set, (f.1, set) ∈ sec.fields ∧ set f.2 o = .ok o' := by
  unfold setNamed at done
  split at done
  · rename_i known set found
    have named := List.find?_some found
    obtain rfl : known = f.1 := eq_of_beq named
    exact ⟨set, List.mem_of_find?_eq_some found, done⟩
  · cases done

/-- Setting fields by position is setting them by name, one after the other. -/
theorem setPositional_eq_foldlM (nodup : sec.names.Nodup)
    {known : List (String × (Value → α → Except ShapeError α))} (own : known ⊆ sec.fields)
    (values : List Value) (o : α) :
    setPositional known values o =
      ((known.map Prod.fst).zip values).foldlM sec.setNamed o := by
  induction known generalizing values o with
  | nil => rfl
  | cons f rest ih =>
    obtain ⟨name, set⟩ := f
    obtain ⟨first, own⟩ := List.cons_subset.mp own
    cases values with
    | nil => rfl
    | cons v values =>
      rw [List.map_cons, List.zip_cons_cons, List.foldlM_cons, setNamed_of_mem nodup first]
      exact bind_congr fun o => ih own values o

/-- Decoding a section goes through its named values, in some order. -/
theorem decode_eq_foldlM (nodup : sec.names.Nodup) {given : List (String × Value)}
    (named : v.named? sec.names = some given) : ∃ ordered : List (String × Value),
      ordered.Perm given ∧ ∀ o, sec.decode o v = ordered.foldlM sec.setNamed o := by
  cases v with
  | table fields =>
    cases named
    exact ⟨_, ascendingFields_perm _, fun _ => rfl⟩
  | array items =>
    cases named
    exact ⟨_, .refl _, setPositional_eq_foldlM nodup (List.Subset.refl _) items⟩
  | _ => cases named

/-- Nothing but a table or an array is decoded as a section. -/
theorem named_of_decode (plain : momentKey ∉ sec.names) (done : sec.decode o v = .ok o') :
    ∃ given, v.named? sec.names = some given := by
  cases v with
  | table fields => exact ⟨_, rfl⟩
  | array items => exact ⟨_, rfl⟩
  | moment =>
    obtain ⟨set, mem, -⟩ := setNamed_eq_ok done
    exact absurd (List.mem_map_of_mem (f := Prod.fst) mem) plain
  | _ => cases done

/-- If the result of a fold is told from its keys and from what is found under them, then the
result of decoding is told from the named values in the same way. -/
theorem decode_eq_ok_iff (result : (String → Option Value) → Prop) (nodup : sec.names.Nodup)
    (plain : momentKey ∉ sec.names) (unique : v.UniqueKeys)
    (fold : ∀ given : List (String × Value), (given.map Prod.fst).Nodup →
      (given.foldlM sec.setNamed o = .ok o' ↔
        (∀ f ∈ given, f.1 ∈ sec.names) ∧ result fun name => given.lookup name)) :
    sec.decode o v = .ok o' ↔
      v.IsSection sec.names ∧ result fun name => Value.given? sec.names name (some v) := by
  have named {given : List (String × Value)} (named : v.named? sec.names = some given) :
      sec.decode o v = .ok o' ↔
        (∀ f ∈ given, f.1 ∈ sec.names) ∧ result fun name => given.lookup name := by
    have keys := nodup_named nodup unique named
    obtain ⟨ordered, perm, decoded⟩ := decode_eq_foldlM nodup named
    have found : (fun name => ordered.lookup name) = fun name => given.lookup name :=
      funext fun name => lookup_perm keys perm
    have keys' := (perm.map Prod.fst).nodup_iff.mpr keys
    rw [decoded, fold ordered keys', found]
    exact and_congr_left fun _ => ⟨fun h f mem => h f (perm.mem_iff.mpr mem),
      fun h f mem => h f (perm.mem_iff.mp mem)⟩
  constructor
  · intro done
    obtain ⟨given, e⟩ := named_of_decode plain done
    obtain ⟨known, told⟩ := (named e).mp done
    refine ⟨⟨given, e, known⟩, ?_⟩
    unfold Value.given?
    simp only [Option.bind_some, e]
    exact told
  · rintro ⟨⟨given, e, known⟩, told⟩
    unfold Value.given? at told
    simp only [Option.bind_some, e] at told
    exact (named e).mpr ⟨known, told⟩

end Section

/-! ## The bar section -/

theorem setNamed_barSection_cases {f : String × Value} {bar bar' : BarOptions}
    (done : barSection.setNamed bar f = .ok bar') :
    (f.1 = "enabled" ∧ ∃ b, boolean f.2 = .ok b ∧ bar' = { bar with enabled := b }) ∨
      (f.1 = "bar-priority" ∧ ∃ n, signed32 f.2 = .ok n ∧ bar' = { bar with priority := n }) ∨
      (f.1 = "language" ∧ ∃ s, string f.2 = .ok s ∧ bar' = { bar with language := s }) := by
  obtain ⟨set, mem, done⟩ := Section.setNamed_eq_ok done
  simp only [barSection, List.mem_cons, Prod.mk.injEq, List.not_mem_nil, or_false] at mem
  obtain ⟨name, rfl⟩ | ⟨name, rfl⟩ | ⟨name, rfl⟩ := mem
  all_goals
    obtain ⟨x, read, e⟩ := bind_eq_ok.mp done
    cases e
  · exact .inl ⟨name, x, read, rfl⟩
  · exact .inr (.inl ⟨name, x, read, rfl⟩)
  · exact .inr (.inr ⟨name, x, read, rfl⟩)

theorem places_enabled : Places barSection.setNamed "enabled" boolean BarOptions.enabled where
  own v bar bar' done := by
    obtain ⟨-, b, read, rfl⟩ | ⟨e, -⟩ | ⟨e, -⟩ := setNamed_barSection_cases done
    · exact read
    · simp at e
    · simp at e
  others f bar bar' ne done := by
    obtain ⟨e, -⟩ | ⟨-, n, -, rfl⟩ | ⟨-, s, -, rfl⟩ := setNamed_barSection_cases done
    · exact absurd e ne
    · rfl
    · rfl

theorem places_priority :
    Places barSection.setNamed "bar-priority" signed32 BarOptions.priority where
  own v bar bar' done := by
    obtain ⟨e, -⟩ | ⟨-, n, read, rfl⟩ | ⟨e, -⟩ := setNamed_barSection_cases done
    · simp at e
    · exact read
    · simp at e
  others f bar bar' ne done := by
    obtain ⟨-, b, -, rfl⟩ | ⟨e, -⟩ | ⟨-, s, -, rfl⟩ := setNamed_barSection_cases done
    · rfl
    · exact absurd e ne
    · rfl

theorem places_language : Places barSection.setNamed "language" string BarOptions.language where
  own v bar bar' done := by
    obtain ⟨e, -⟩ | ⟨e, -⟩ | ⟨-, s, read, rfl⟩ := setNamed_barSection_cases done
    · simp at e
    · simp at e
    · exact read
  others f bar bar' ne done := by
    obtain ⟨-, b, -, rfl⟩ | ⟨-, n, -, rfl⟩ | ⟨e, -⟩ := setNamed_barSection_cases done
    · rfl
    · rfl
    · exact absurd e ne

/-- Which options the named values of a bar section give, in any order. -/
theorem foldlM_barSection {given : List (String × Value)} (nodup : (given.map Prod.fst).Nodup)
    {bar bar' : BarOptions} : given.foldlM barSection.setNamed bar = .ok bar' ↔
      (∀ f ∈ given, f.1 ∈ barNames) ∧
        (given.lookup "enabled").elim (.ok bar.enabled) boolean = .ok bar'.enabled ∧
        (given.lookup "bar-priority").elim (.ok bar.priority) signed32 = .ok bar'.priority ∧
        (given.lookup "language").elim (.ok bar.language) string = .ok bar'.language := by
  constructor
  · refine fun done => ⟨forall_of_foldlM (fun f bar bar' done => ?_) done,
      places_enabled.foldlM nodup done, places_priority.foldlM nodup done,
      places_language.foldlM nodup done⟩
    obtain ⟨e, -⟩ | ⟨e, -⟩ | ⟨e, -⟩ := setNamed_barSection_cases done
    all_goals rw [e]; decide
  · rintro ⟨known, enabled, priority, language⟩
    -- Every step takes its value, so there is a result, and it can only be this one.
    have each : ∀ f ∈ given, ∀ bar, ∃ bar', barSection.setNamed bar f = .ok bar' := by
      rintro ⟨key, v⟩ mem bar
      have found := (lookup_eq_some_iff_mem nodup).mpr mem
      have name := known _ mem
      simp only [barNames, List.mem_cons, List.not_mem_nil, or_false] at name
      obtain rfl | rfl | rfl := name
      · rw [found] at enabled
        exact ⟨_, bind_eq_ok.mpr ⟨_, enabled, rfl⟩⟩
      · rw [found] at priority
        exact ⟨_, bind_eq_ok.mpr ⟨_, priority, rfl⟩⟩
      · rw [found] at language
        exact ⟨_, bind_eq_ok.mpr ⟨_, language, rfl⟩⟩
    obtain ⟨bar'', done⟩ := foldlM_eq_ok each bar
    obtain ⟨b, n, s⟩ := bar'
    obtain ⟨b', n', s'⟩ := bar''
    cases Except.ok.inj (enabled.symm.trans (places_enabled.foldlM nodup done))
    cases Except.ok.inj (priority.symm.trans (places_priority.foldlM nodup done))
    cases Except.ok.inj (language.symm.trans (places_language.foldlM nodup done))
    exact done

theorem decode_barSection {bar : BarOptions} (unique : v.UniqueKeys) :
    barSection.decode {} v = .ok bar ↔ v.IsSection barNames ∧
      (Value.given? barNames "enabled" (some v)).elim (.ok true) boolean = .ok bar.enabled ∧
      (Value.given? barNames "bar-priority" (some v)).elim (.ok 2) signed32 = .ok bar.priority ∧
      (Value.given? barNames "language" (some v)).elim (.ok "powershell") string =
        .ok bar.language :=
  barSection.decode_eq_ok_iff
    (fun given => (given "enabled").elim (.ok true) boolean = .ok bar.enabled ∧
      (given "bar-priority").elim (.ok 2) signed32 = .ok bar.priority ∧
      (given "language").elim (.ok "powershell") string = .ok bar.language)
    (by decide) (by decide) unique fun _ nodup => foldlM_barSection nodup

/-! ## The idle section -/

theorem setNamed_idleSection_cases {f : String × Value} {idle idle' : IdleOptions}
    (done : idleSection.setNamed idle f = .ok idle') :
    f.1 = "max-windows-per-tick" ∧
      ∃ n, unsigned64 f.2 = .ok n ∧ idle' = { idle with maxWindows := n } := by
  obtain ⟨set, mem, done⟩ := Section.setNamed_eq_ok done
  simp only [idleSection, List.mem_cons, Prod.mk.injEq, List.not_mem_nil, or_false] at mem
  obtain ⟨name, rfl⟩ := mem
  obtain ⟨x, read, e⟩ := bind_eq_ok.mp done
  cases e
  exact ⟨name, x, read, rfl⟩

theorem places_maxWindows :
    Places idleSection.setNamed "max-windows-per-tick" unsigned64 IdleOptions.maxWindows where
  own v idle idle' done := by
    obtain ⟨-, n, read, rfl⟩ := setNamed_idleSection_cases done
    exact read
  others f idle idle' ne done := absurd (setNamed_idleSection_cases done).1 ne

/-- Which options the named values of an idle section give. -/
theorem foldlM_idleSection {given : List (String × Value)} (nodup : (given.map Prod.fst).Nodup)
    {idle idle' : IdleOptions} : given.foldlM idleSection.setNamed idle = .ok idle' ↔
      (∀ f ∈ given, f.1 ∈ idleNames) ∧
        (given.lookup "max-windows-per-tick").elim (.ok idle.maxWindows) unsigned64 =
          .ok idle'.maxWindows := by
  constructor
  · refine fun done => ⟨forall_of_foldlM (fun f idle idle' done => ?_) done,
      places_maxWindows.foldlM nodup done⟩
    rw [(setNamed_idleSection_cases done).1]
    decide
  · rintro ⟨known, maxWindows⟩
    have each : ∀ f ∈ given, ∀ idle, ∃ idle', idleSection.setNamed idle f = .ok idle' := by
      rintro ⟨key, v⟩ mem idle
      have found := (lookup_eq_some_iff_mem nodup).mpr mem
      obtain rfl : key = "max-windows-per-tick" := List.mem_singleton.mp (known _ mem)
      rw [found] at maxWindows
      exact ⟨_, bind_eq_ok.mpr ⟨_, maxWindows, rfl⟩⟩
    obtain ⟨idle'', done⟩ := foldlM_eq_ok each idle
    obtain ⟨n⟩ := idle'
    obtain ⟨n'⟩ := idle''
    cases Except.ok.inj (maxWindows.symm.trans (places_maxWindows.foldlM nodup done))
    exact done

theorem decode_idleSection {idle : IdleOptions} (unique : v.UniqueKeys) :
    idleSection.decode {} v = .ok idle ↔ v.IsSection idleNames ∧
      (Value.given? idleNames "max-windows-per-tick" (some v)).elim (.ok 0) unsigned64 =
        .ok idle.maxWindows :=
  idleSection.decode_eq_ok_iff
    (fun given => (given "max-windows-per-tick").elim (.ok 0) unsigned64 = .ok idle.maxWindows)
    (by decide) (by decide) unique fun _ nodup => foldlM_idleSection nodup

/-! ## The document -/

theorem setSection_cases {f : String × Value} {o o' : Options} (done : setSection o f = .ok o') :
    (f.1 = "navigation" ∧ ∃ bar, barSection.decode {} f.2 = .ok bar ∧ o' = { o with bar }) ∨
      (f.1 = "idle" ∧ ∃ idle, idleSection.decode {} f.2 = .ok idle ∧ o' = { o with idle }) := by
  unfold setSection at done
  split at done
  · rename_i name
    obtain ⟨bar, decoded, e⟩ := bind_eq_ok.mp done
    cases e
    exact .inl ⟨eq_of_beq name, bar, decoded, rfl⟩
  · split at done
    · rename_i name
      obtain ⟨idle, decoded, e⟩ := bind_eq_ok.mp done
      cases e
      exact .inr ⟨eq_of_beq name, idle, decoded, rfl⟩
    · cases done

theorem places_bar : Places setSection "navigation" (barSection.decode {}) Options.bar where
  own v o o' done := by
    obtain ⟨-, bar, read, rfl⟩ | ⟨e, -⟩ := setSection_cases done
    · exact read
    · simp at e
  others f o o' ne done := by
    obtain ⟨e, -⟩ | ⟨-, idle, -, rfl⟩ := setSection_cases done
    · exact absurd e ne
    · rfl

theorem places_idle : Places setSection "idle" (idleSection.decode {}) Options.idle where
  own v o o' done := by
    obtain ⟨e, -⟩ | ⟨-, idle, read, rfl⟩ := setSection_cases done
    · simp at e
    · exact read
  others f o o' ne done := by
    obtain ⟨-, bar, -, rfl⟩ | ⟨e, -⟩ := setSection_cases done
    · rfl
    · exact absurd e ne

theorem foldlM_setSection (nodup : (fields.map Prod.fst).Nodup) {o o' : Options} :
    fields.foldlM setSection o = .ok o' ↔
      (∀ f ∈ fields, f.1 = "navigation" ∨ f.1 = "idle") ∧
        (fields.lookup "navigation").elim (.ok o.bar) (barSection.decode {}) = .ok o'.bar ∧
        (fields.lookup "idle").elim (.ok o.idle) (idleSection.decode {}) = .ok o'.idle := by
  constructor
  · refine fun done => ⟨forall_of_foldlM (fun f o o' done => ?_) done,
      places_bar.foldlM nodup done, places_idle.foldlM nodup done⟩
    exact (setSection_cases done).imp And.left And.left
  · rintro ⟨known, bar, idle⟩
    have each : ∀ f ∈ fields, ∀ o, ∃ o', setSection o f = .ok o' := by
      rintro ⟨key, v⟩ mem o
      have found := (lookup_eq_some_iff_mem nodup).mpr mem
      obtain rfl | rfl := known _ mem
      · rw [found] at bar
        exact ⟨_, bind_eq_ok.mpr ⟨_, bar, rfl⟩⟩
      · rw [found] at idle
        exact ⟨_, bind_eq_ok.mpr ⟨_, idle, rfl⟩⟩
    obtain ⟨o'', done⟩ := foldlM_eq_ok each o
    obtain ⟨b, i⟩ := o'
    obtain ⟨b', i'⟩ := o''
    cases Except.ok.inj (bar.symm.trans (places_bar.foldlM nodup done))
    cases Except.ok.inj (idle.symm.trans (places_idle.foldlM nodup done))
    exact done

/-- A value that is read is of its type, and one that is not given is the default. -/
theorem elim_eq_ok_iff {β : Type} {read : Value → Except ShapeError β} {isOf : Value → β → Prop}
    (taken : ∀ {v x}, read v = .ok x ↔ isOf v x) {given : Option Value} {standard x : β} :
    given.elim (.ok standard) read = .ok x ↔ given.elim (x = standard) fun v => isOf v x := by
  cases given with
  | none => exact ⟨fun e => (Except.ok.inj e).symm, fun e => congrArg _ e.symm⟩
  | some v => exact taken

theorem elim_barSection {sec : Option Value} (unique : ∀ v, sec = some v → v.UniqueKeys)
    {bar : BarOptions} : sec.elim (.ok {}) (barSection.decode {}) = .ok bar ↔
      (∀ v, sec = some v → v.IsSection barNames) ∧
        (Value.given? barNames "enabled" sec).elim (.ok true) boolean = .ok bar.enabled ∧
        (Value.given? barNames "bar-priority" sec).elim (.ok 2) signed32 = .ok bar.priority ∧
        (Value.given? barNames "language" sec).elim (.ok "powershell") string =
          .ok bar.language := by
  cases sec with
  | none =>
    obtain ⟨enabled, priority, language⟩ := bar
    simp [Value.given?]
  | some v =>
    rw [Option.elim_some, decode_barSection (unique v rfl)]
    simp

theorem elim_idleSection {sec : Option Value} (unique : ∀ v, sec = some v → v.UniqueKeys)
    {idle : IdleOptions} : sec.elim (.ok {}) (idleSection.decode {}) = .ok idle ↔
      (∀ v, sec = some v → v.IsSection idleNames) ∧
        (Value.given? idleNames "max-windows-per-tick" sec).elim (.ok 0) unsigned64 =
          .ok idle.maxWindows := by
  cases sec with
  | none =>
    obtain ⟨maxWindows⟩ := idle
    simp [Value.given?]
  | some v =>
    rw [Option.elim_some, decode_idleSection (unique v rfl)]
    simp

/-- Decoding answers the options that a document has by its shape. -/
theorem options_eq_ok_iff (unique : (Value.table fields).UniqueKeys) {o : Options} :
    Shape.options fields = .ok o ↔ Documented fields o := by
  obtain ⟨nodup, each⟩ := Value.uniqueKeys_table.mp unique
  have perm := ascendingFields_perm fields
  have nodup' := (perm.map Prod.fst).nodup_iff.mpr nodup
  have inner (name : String) (v : Value) (found : fields.lookup name = some v) : v.UniqueKeys :=
    each _ ((lookup_eq_some_iff_mem nodup).mp found)
  unfold Shape.options
  rw [foldlM_setSection nodup', lookup_perm nodup perm, lookup_perm nodup perm,
    elim_barSection (inner _), elim_idleSection (inner _), elim_eq_ok_iff boolean_eq_ok_iff,
    elim_eq_ok_iff signed32_eq_ok_iff, elim_eq_ok_iff string_eq_ok_iff,
    elim_eq_ok_iff unsigned64_eq_ok_iff]
  constructor
  · rintro ⟨known, ⟨bar, enabled, priority, language⟩, idle, maxWindows⟩
    exact ⟨fun f mem => known f (perm.mem_iff.mpr mem), bar, idle, enabled, priority, language,
      maxWindows⟩
  · rintro ⟨known, bar, idle, enabled, priority, language, maxWindows⟩
    exact ⟨fun f mem => known f (perm.mem_iff.mp mem), ⟨bar, enabled, priority, language⟩, idle,
      maxWindows⟩

end Shape

end OutlineBar
