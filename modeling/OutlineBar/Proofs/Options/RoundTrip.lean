/-
Options that are written and read back.

`Options.written` is the document that sets all options, one key a line.  How the language is
spelled in it is left open: every spelling is read back.
-/
import OutlineBar.Proofs.Options.Spelling
import OutlineBar.Proofs.Toml.Written

namespace OutlineBar

open Toml

namespace Options

/-- The lines of a document that gives all options, with the language spelled in some way. -/
def lines (o : Options) (language : List Char) : List Char :=
  headerLine "navigation" ++
    (assignmentLine "enabled" (if o.bar.enabled then "true".toList else "false".toList) ++
      (assignmentLine "bar-priority" (Nat.toDigits 10 o.bar.priority.toNat) ++
        (assignmentLine "language" ('\x22' :: (language ++ ['\x22'])) ++
          ('\n' :: (headerLine "idle" ++
            assignmentLine "max-windows-per-tick" (Nat.toDigits 10 o.idle.maxWindows))))))

def written (o : Options) (language : List Char) : String := String.ofList (o.lines language)

example : ({} : Options).written "powershell".toList =
    "[navigation]\nenabled = true\nbar-priority = 2\nlanguage = \x22powershell\x22\n\n" ++
      "[idle]\nmax-windows-per-tick = 0\n" := by decide

/-- The tree of that document. -/
def tree (o : Options) : List (String × Value) :=
  [("navigation", .table [("enabled", .boolean o.bar.enabled),
      ("bar-priority", .integer o.bar.priority), ("language", .string o.bar.language)]),
    ("idle", .table [("max-windows-per-tick", .integer o.idle.maxWindows)])]

/-- The tables of the document, each with what has been read of it. -/
def tables (bar : Fields) (idle : Option Fields) : Fields :=
  ("navigation", .table .written bar) ::
    (idle.map fun idle => ("idle", Node.table .written idle)).toList

theorem assignUnder_bar {bar : Fields} {key : String} (new : bar.find? key = none) (v : Value) :
    Fields.assignUnder ["navigation"] [] key v (tables bar none) =
      some (tables (bar.push key (.value v)) none) := by
  simp [Fields.assignUnder, Fields.within, Fields.find?, tables, Fields.assign, Fields.store, new,
    Fields.replace]

theorem assignUnder_idle {bar idle : Fields} {key : String} (new : idle.find? key = none)
    (v : Value) : Fields.assignUnder ["idle"] [] key v (tables bar (some idle)) =
      some (tables bar (some (idle.push key (.value v)))) := by
  simp [Fields.assignUnder, Fields.within, Fields.find?, tables, Fields.assign, Fields.store, new,
    Fields.replace]

theorem openTable_idle (bar : Fields) :
    Fields.openTable [] "idle" (tables bar none) = some (tables bar (some [])) := by
  simp [Fields.openTable, Fields.within, Fields.find?, tables, Fields.push]

theorem readLines_lines {o : Options} (natural : 0 ≤ o.bar.priority) {language : List Char}
    (spells : Spells o.bar.language.toList language) (bound : Nat) :
    (Reading.readLines (bound + 7) {} (o.lines language)).map (finishFields ·.fields) =
      some o.tree := by
  obtain ⟨n, priority⟩ := Int.eq_ofNat_of_zero_le natural
  have word (b : Bool) := skipBlanks_word fun c mem => (inside_boolean b c mem).1
  have digits (n : Nat) := skipBlanks_word fun c mem => (inside_toDigits n c mem).1
  have string (rest : List Char) := value_string spells maxDepth rest
  rw [String.ofList_toList] at string
  have opened : Fields.openTable [] "navigation" ({} : Reading).fields = some (tables [] none) :=
    rfl
  unfold lines tree
  rw [priority, Int.toNat_natCast,
    Reading.readLines_headerLine (by decide) opened,
    Reading.readLines_assignmentLine (by decide) (word _)
      (value_boolean o.bar.enabled maxDepth) (assignUnder_bar rfl _),
    Reading.readLines_assignmentLine (by decide) (digits n)
      (value_toDigits n maxDepth) (assignUnder_bar (by simp [Fields.push, Fields.find?]) _),
    Reading.readLines_assignmentLine (by decide) (fun rest => rfl)
      (by simpa using string) (assignUnder_bar (by simp [Fields.push, Fields.find?]) _),
    Reading.readLines_blankLine,
    Reading.readLines_headerLine (by decide) (openTable_idle _),
    ← List.append_nil (assignmentLine "max-windows-per-tick" _),
    Reading.readLines_assignmentLine (by decide) (digits _)
      (value_toDigits o.idle.maxWindows maxDepth) (assignUnder_idle rfl _)]
  rfl

theorem ofText?_written {o : Options} (natural : 0 ≤ o.bar.priority) {language : List Char}
    (spells : Spells o.bar.language.toList language) :
    Value.ofText? (o.written language) = some o.tree := by
  have long : 6 ≤ (o.lines language).length := by
    unfold lines headerLine
    simp
  obtain ⟨bound, e⟩ := Nat.exists_eq_add_of_le' long
  have unmarked : dropMark (o.lines language) = o.lines language := rfl
  unfold written Value.ofText?
  rw [String.toList_ofList, unmarked]
  dsimp only
  rw [e]
  exact readLines_lines natural spells bound

/-! ## Reading the document -/

theorem lookup_bar (o : Options) : o.tree.lookup "navigation" = some (.table
    [("enabled", .boolean o.bar.enabled), ("bar-priority", .integer o.bar.priority),
      ("language", .string o.bar.language)]) := by
  simp [tree]

theorem lookup_idle (o : Options) : o.tree.lookup "idle" = some (.table
    [("max-windows-per-tick", .integer o.idle.maxWindows)]) := by
  simp [tree, List.lookup_cons]

theorem documented_tree {o : Options} (natural : 0 ≤ o.bar.priority)
    (small : o.bar.priority ≤ 2147483647) (few : o.idle.maxWindows ≤ 18446744073709551615) :
    Documented o.tree o where
  known := by simp [tree]
  bar v found := by
    obtain rfl := Option.some.inj (o.lookup_bar.symm.trans found)
    exact ⟨_, rfl, by simp [barNames]⟩
  idle v found := by
    obtain rfl := Option.some.inj (o.lookup_idle.symm.trans found)
    exact ⟨_, rfl, by simp [idleNames]⟩
  enabled := by simp [lookup_bar, Value.given?, Value.named?]
  priority := by
    have fits : -2147483648 ≤ o.bar.priority ∧ o.bar.priority ≤ 2147483647 := by omega
    simpa [lookup_bar, Value.given?, Value.named?, List.lookup_cons] using fits
  language := by simp [lookup_bar, Value.given?, Value.named?, List.lookup_cons]
  maxWindows := by simpa [lookup_idle, Value.given?, Value.named?] using few

end Options

theorem Files.readText_of_toUTF8 {files : Files} {path text : String}
    (stored : files path = .ok text.toUTF8) : files.readText path = .ok text := by
  have decoded : String.fromUTF8? text.toUTF8 = some text := by
    simp only [String.fromUTF8?, String.toUTF8_eq_toByteArray, dif_pos text.isValidUTF8]
    rfl
  unfold Files.readText
  rw [stored]
  dsimp only
  rw [decoded]

/-- Options whose numbers fit their words, and in whose language something can be seen, can be
written, and whichever spelling of the language is chosen, the document is read back to the very
same options, and so is a file with its bytes. -/
theorem options_written_and_read (o : Options) (natural : 0 ≤ o.bar.priority)
    (small : o.bar.priority ≤ 2147483647) (few : o.idle.maxWindows ≤ 18446744073709551615)
    (shown : ∃ c ∈ o.bar.language.toList, Text.isWhiteSpace c = false) :
    (∃ language, Spells o.bar.language.toList language) ∧
      ∀ language, Spells o.bar.language.toList language →
        Options.ofText (o.written language) = .ok o ∧
          ∀ (files : Files) (path : String), files path = .ok (o.written language).toUTF8 →
            Options.load files path = .ok o := by
  refine ⟨exists_spells _, fun language spells => ?_⟩
  have tree := Options.ofText?_written natural spells
  have decoded : Shape.options o.tree = .ok o :=
    (Shape.options_eq_ok_iff (Value.uniqueKeys_of_ofText? tree)).mpr
      (Options.documented_tree natural small few)
  have read : Options.ofText (o.written language) = .ok o := by
    unfold Options.ofText
    rw [tree]
    exact Options.ofTree_eq_ok_iff.mpr
      ⟨decoded, natural, Options.isAllWhiteSpace_eq_false.mpr shown⟩
  refine ⟨read, fun files path stored => ?_⟩
  unfold Options.load
  rw [Files.readText_of_toUTF8 stored]
  dsimp only
  rw [read]

/-- Numbers that just fit, and a language with a quote and a control character. -/
def demanding : Options where
  bar := { enabled := false, priority := 2147483647, language := "a\x22\x07" }
  idle := { maxWindows := 18446744073709551615 }

theorem options_written_and_read_at_bounds :
    let language := ['a', '\\', '\x22', '\\', 'u', '0', '0', '0', '7']
    demanding.written language =
        "[navigation]\nenabled = false\nbar-priority = 2147483647\n" ++
          "language = \x22a\\\x22\\u0007\x22\n\n" ++
          "[idle]\nmax-windows-per-tick = 18446744073709551615\n" ∧
      Options.ofText (demanding.written language) = .ok demanding := by
  have digits : List.Forall₂ (fun d e => d = e ∨ d = e.toUpper) ['0', '0', '0', '7']
      (paddedHex 4 7) := List.forall₂_same.mpr fun _ _ => .inl rfl
  have control : Spells ['\x07'] ['\\', 'u', '0', '0', '0', '7'] :=
    .code (show ('u', 4) ∈ codeMarks by decide) (show '\x07'.toNat < 16 ^ 4 by decide) digits .nil
  have spells : Spells demanding.bar.language.toList
      ['a', '\\', '\x22', '\\', 'u', '0', '0', '0', '7'] :=
    .plain (by decide) (by decide) (.letter (by decide) control)
  obtain ⟨-, read⟩ := options_written_and_read demanding (by decide) (by decide) (by decide)
    ⟨'a', by decide, by decide⟩
  exact ⟨by decide +kernel, (read _ spells).1⟩

end OutlineBar
