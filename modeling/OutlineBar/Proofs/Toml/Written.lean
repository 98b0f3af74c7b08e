/-
Texts that are written and read back.

Decimal numbers, strings in double quotes, and lines with one header or one assignment.  Each
is written in front of any other text, and reading it leaves that text.

A character of a string may stand for itself or be escaped; `Spells` lists all the ways, and
quotes, backslashes and control characters have only the escaped ones.
-/
import OutlineBar.Toml.Reading
import Mathlib.Data.List.Forall2
import Mathlib.Data.List.TakeWhile
import Mathlib.Tactic.IntervalCases

namespace OutlineBar.Toml

/-! ## Digits -/

theorem isDigit_eq (c : Char) : isDigit c = c.isDigit := by
  unfold isDigit Char.isDigit
  rfl

theorem hexDigit?_digitChar {d : Nat} (less : d < 16) : hexDigit? d.digitChar = some d := by
  have all : ∀ d : Fin 16, hexDigit? (Nat.digitChar d) = some d.val := by decide
  exact all ⟨d, less⟩

theorem hexDigit?_of_isDigit {c : Char} (digit : c.isDigit = true) :
    ∃ d < 10, hexDigit? c = some d := by
  rw [← isDigit_eq] at digit
  obtain ⟨low, high⟩ := Bool.and_eq_true_iff.mp digit
  have bounds := And.intro (of_decide_eq_true low) (of_decide_eq_true high)
  refine ⟨c.toNat - '0'.toNat, ?_, if_pos bounds⟩
  have high : c.toNat ≤ '9'.toNat := UInt32.le_iff_toNat_le.mp bounds.2
  exact Nat.lt_succ_of_le (Nat.sub_le_sub_right high '0'.toNat)

theorem isDigit_of_mem_toDigits {n : Nat} {c : Char} (mem : c ∈ Nat.toDigits 10 n) :
    c.isDigit = true := Nat.isDigit_of_mem_toDigits (by decide) (by decide) mem

theorem digit_of_mem_toDigits {radix n : Nat} {e : Char} (low : 1 < radix)
    (mem : e ∈ Nat.toDigits radix n) : ∃ d < radix, e = Nat.digitChar d := by
  induction n using Nat.strong_induction_on with
  | _ n ih =>
    rw [Nat.toDigits_eq_if low] at mem
    split at mem
    · rename_i less
      exact ⟨n, less, List.mem_singleton.mp mem⟩
    · rcases List.mem_append.mp mem with mem | mem
      · exact ih (n / radix) (Nat.div_lt_self (by omega) low) mem
      · exact ⟨n % radix, Nat.mod_lt n (Nat.zero_lt_of_lt low), List.mem_singleton.mp mem⟩

theorem digitsValue_toDigits {radix : Nat} (low : 1 < radix) (high : radix ≤ 16) (n : Nat) :
    digitsValue radix (Nat.toDigits radix n) = n := by
  induction n using Nat.strong_induction_on with
  | _ n ih =>
    rw [Nat.toDigits_eq_if low]
    unfold digitsValue at ih ⊢
    split
    · rename_i less
      simp [hexDigit?_digitChar (Nat.lt_of_lt_of_le less high)]
    · have last := Nat.mod_lt n (Nat.zero_lt_of_lt low)
      rw [List.foldl_append, ih (n / radix) (Nat.div_lt_self (by omega) low)]
      simp [hexDigit?_digitChar (Nat.lt_of_lt_of_le last high), Nat.div_add_mod]

/-- A number that is not zero is written without a leading zero. -/
theorem head?_toDigits {n : Nat} (pos : 0 < n) : (Nat.toDigits 10 n).head? ≠ some '0' := by
  induction n using Nat.strong_induction_on with
  | _ n ih =>
    rw [Nat.toDigits_eq_if (by decide)]
    split
    · rename_i less
      interval_cases n <;> decide
    · rename_i more
      have first := List.head?_eq_some_head (Nat.toDigits_ne_nil (b := 10) (n := n / 10))
      rw [List.head?_append, first, Option.some_or, ← first]
      exact ih (n / 10) (by omega) (by omega)

theorem underscoresFit_of_forall {digit : Char → Bool} {text : List Char}
    (none : ∀ c ∈ text, c ≠ '_') (afterDigit : Bool) :
    underscoresFit digit afterDigit text = true := by
  induction text generalizing afterDigit with
  | nil => rfl
  | cons c rest ih =>
    obtain ⟨here, others⟩ := List.forall_mem_cons.mp none
    unfold underscoresFit
    split <;> grind

theorem integerValue_of_isDigit {digits : List Char} (ne : digits ≠ [])
    (all : ∀ c ∈ digits, c.isDigit = true) :
    integerValue ⟨false, digits⟩ 10 = .integer (digitsValue 10 digits) := by
  have kept : digits.filter (· != '_') = digits := by
    refine List.filter_eq_self.mpr fun c mem => bne_iff_ne.mpr fun e => ?_
    have digit := all c mem
    rw [e] at digit
    cases digit
  have known : digits.all (isDigitOf 10) = true := by
    refine List.all_eq_true.mpr fun c mem => ?_
    obtain ⟨d, less, value⟩ := hexDigit?_of_isDigit (all c mem)
    unfold isDigitOf
    rw [value]
    exact decide_eq_true less
  unfold integerValue
  dsimp only
  rw [kept, known]
  simp [ne, Signed.apply]

theorem decimal?_toDigits (n : Nat) :
    decimal? ⟨false, Nat.toDigits 10 n⟩ = some (.integer n) := by
  have all (c : Char) (mem : c ∈ Nat.toDigits 10 n) : c.isDigit = true :=
    isDigit_of_mem_toDigits mem
  have fit : underscoresFit (isDigitOf 16) false (Nat.toDigits 10 n) = true := by
    refine underscoresFit_of_forall (fun c mem e => ?_) false
    have digit := all c mem
    rw [e] at digit
    cases digit
  rcases Nat.eq_zero_or_pos n with rfl | pos
  · rfl
  have head := head?_toDigits pos
  have read := integerValue_of_isDigit Nat.toDigits_ne_nil all
  rw [digitsValue_toDigits (by decide) (by decide)] at read
  unfold decimal?
  dsimp only
  split
  · rename_i nil
    exact absurd nil Nat.toDigits_ne_nil
  · rename_i zero
    rw [zero] at head
    exact absurd rfl head
  · rename_i rest zero
    rw [zero] at head
    exact absurd rfl head
  · rw [if_pos fit, read]

/-- Digits alone are no word of another kind. -/
theorem scalar?_of_isDigit {digits : List Char} (ne : digits ≠ [])
    (all : ∀ c ∈ digits, c.isDigit = true) : scalar? digits = decimal? ⟨false, digits⟩ := by
  have other {word : List Char} {c : Char} (mem : c ∈ word) (letter : c.isDigit = false) :
      digits ≠ word := fun e => Bool.eq_false_iff.mp letter (all c (e ▸ mem))
  have unsigned : Signed.ofText digits = ⟨false, digits⟩ := by
    unfold Signed.ofText
    split
    · exact absurd rfl (other List.mem_cons_self (by decide))
    · exact absurd rfl (other List.mem_cons_self (by decide))
    · rfl
  have noRest : digits.dropWhile isDigit = [] :=
    List.dropWhile_eq_nil_iff.mpr fun c mem => isDigit_eq c ▸ all c mem
  have unnamed : named? ⟨false, digits⟩ = none := by
    unfold named?
    rw [if_neg (other (c := 'n') (by decide) (by decide)),
      if_neg (other (c := 'n') (by decide) (by decide))]
  unfold scalar?
  rw [if_neg (other (c := 't') (by decide) (by decide)),
    if_neg (other (c := 'f') (by decide) (by decide)), unsigned, unnamed]
  split
  · rename_i named
    cases named
  · exact absurd rfl (other (c := 'x') (.tail _ (.head _)) (by decide))
  · exact absurd rfl (other (c := 'o') (.tail _ (.head _)) (by decide))
  · exact absurd rfl (other (c := 'b') (.tail _ (.head _)) (by decide))
  · unfold number?
    dsimp only
    rw [unsigned]
    dsimp only
    rw [noRest]

theorem scalar?_toDigits (n : Nat) : scalar? (Nat.toDigits 10 n) = some (.integer n) :=
  (scalar?_of_isDigit Nat.toDigits_ne_nil fun _ => isDigit_of_mem_toDigits).trans
    (decimal?_toDigits n)

/-! ## Strings -/

/-- A number in hexadecimal, filled up with zeros. -/
def paddedHex (width n : Nat) : List Char := (Nat.toDigits 16 n).leftpad width '0'

/-- The letters that stand for a character after a backslash. -/
def letters : List (Char × Char) :=
  [('b', '\x08'), ('t', '\t'), ('n', '\n'), ('f', '\x0c'), ('r', '\r'), ('e', '\x1b'),
    ('\x22', '\x22'), ('\\', '\\')]

/-- The marks of the escapes by code, and how many digits they have. -/
def codeMarks : List (Char × Nat) := [('x', 2), ('u', 4), ('U', 8)]

/-- Whether a text is written like this between double quotes. -/
inductive Spells : (text body : List Char) → Prop
  | nil : Spells [] []
  | plain {c : Char} {text body : List Char} (open_ : c ≠ '\x22' ∧ c ≠ '\\')
      (shown : c = '\t' ∨ 0x20 ≤ c.toNat ∧ c.toNat ≠ 0x7f) (others : Spells text body) :
      Spells (c :: text) (c :: body)
  | letter {letter c : Char} {text body : List Char} (mem : (letter, c) ∈ letters)
      (others : Spells text body) : Spells (c :: text) ('\\' :: letter :: body)
  | code {mark c : Char} {width : Nat} {digits text body : List Char}
      (mem : (mark, width) ∈ codeMarks) (fits : c.toNat < 16 ^ width)
      (either : List.Forall₂ (fun d e => d = e ∨ d = e.toUpper) digits (paddedHex width c.toNat))
      (others : Spells text body) : Spells (c :: text) ('\\' :: mark :: (digits ++ body))

/-- Every text can be written. -/
theorem exists_spells (text : List Char) : ∃ body, Spells text body := by
  induction text with
  | nil => exact ⟨[], .nil⟩
  | cons c rest ih =>
    obtain ⟨body, others⟩ := ih
    have fits : c.toNat < 16 ^ 8 := Nat.lt_of_lt_of_le c.val.toNat_lt (by decide)
    have lower : List.Forall₂ (fun d e => d = e ∨ d = e.toUpper) (paddedHex 8 c.toNat)
        (paddedHex 8 c.toNat) := List.forall₂_same.mpr fun _ _ => .inl rfl
    exact ⟨_, .code (show ('U', 8) ∈ codeMarks by decide) fits lower others⟩

/-! ## Reading strings -/

theorem hexDigit?_toUpper {d : Nat} (less : d < 16) :
    hexDigit? d.digitChar.toUpper = some d := by
  have all : ∀ d : Fin 16, hexDigit? (Nat.digitChar d).toUpper = some d.val := by decide
  exact all ⟨d, less⟩

/-- The number that hexadecimal digits write after a number that was written before them. -/
def hexValue? (before : Nat) (digits : List Char) : Option Nat :=
  digits.foldlM (fun n c => (hexDigit? c).map (16 * n + ·)) before

theorem hexValue?_append (n : Nat) (digits digits' : List Char) :
    hexValue? n (digits ++ digits') = (hexValue? n digits).bind (hexValue? · digits') :=
  List.foldlM_append

theorem hexValue?_toDigits (n : Nat) : hexValue? 0 (Nat.toDigits 16 n) = some n := by
  induction n using Nat.strong_induction_on with
  | _ n ih =>
    rw [Nat.toDigits_eq_if (by decide)]
    split
    · rename_i less
      simp [hexValue?, hexDigit?_digitChar less]
    · have last := Nat.mod_lt n (show 0 < 16 by decide)
      rw [hexValue?_append, ih (n / 16) (by omega)]
      simp [hexValue?, hexDigit?_digitChar last, Nat.div_add_mod]

theorem hexValue?_paddedHex (width n : Nat) : hexValue? 0 (paddedHex width n) = some n := by
  have zeros (k : Nat) : hexValue? 0 (List.replicate k '0') = some 0 := by
    induction k with
    | zero => rfl
    | succ k ih => exact ih
  unfold paddedHex List.leftpad
  rw [hexValue?_append, zeros, Option.bind_some, hexValue?_toDigits]

theorem digit_of_mem_paddedHex {width n : Nat} {e : Char} (mem : e ∈ paddedHex width n) :
    ∃ d < 16, e = Nat.digitChar d := by
  rcases List.mem_append.mp mem with mem | mem
  · exact ⟨0, by decide, List.eq_of_mem_replicate mem⟩
  · exact digit_of_mem_toDigits (by decide) mem

theorem length_paddedHex {width n : Nat} (pos : 0 < width) (fits : n < 16 ^ width) :
    (paddedHex width n).length = width := by
  unfold paddedHex
  rw [List.length_leftpad]
  exact Nat.max_eq_left ((Nat.length_toDigits_le_iff (by decide) pos).mpr fits)

/-- Letters among hexadecimal digits may be upper or lower case. -/
theorem hexValue?_either {digits lower : List Char}
    (hex : ∀ e ∈ lower, ∃ d < 16, e = Nat.digitChar d)
    (either : List.Forall₂ (fun d e => d = e ∨ d = e.toUpper) digits lower) (n : Nat) :
    hexValue? n digits = hexValue? n lower := by
  induction either generalizing n with
  | nil => rfl
  | cons here _ ih =>
    obtain ⟨⟨d, less, rfl⟩, others⟩ := List.forall_mem_cons.mp hex
    unfold hexValue? at ih ⊢
    rw [List.foldlM_cons, List.foldlM_cons]
    obtain rfl | rfl := here
    · exact bind_congr (ih others)
    · rw [hexDigit?_digitChar less, hexDigit?_toUpper less]
      exact bind_congr (ih others)

theorem hexChar?_code {width : Nat} {c : Char} {digits : List Char}
    (either : List.Forall₂ (fun d e => d = e ∨ d = e.toUpper) digits (paddedHex width c.toNat)) :
    hexChar? digits = some c := by
  have value : hexValue? 0 digits = some c.toNat :=
    (hexValue?_either (fun _ => digit_of_mem_paddedHex) either 0).trans (hexValue?_paddedHex _ _)
  have valid : c.toNat.isValidChar := c.valid
  unfold hexChar?
  unfold hexValue? at value
  rw [value, Option.bind_eq_bind, Option.bind_some, if_pos valid, Char.ofNat_toNat]

theorem basicBody_of_isBasic {c : Char} (basic : isBasic c = true) (text : List Char) :
    basicBody (c :: text) = prepend (some c) (basicBody text) := by
  have quote : c ≠ '\x22' := by
    rintro rfl
    cases basic
  have backslash : c ≠ '\\' := by
    rintro rfl
    cases basic
  rw [basicBody.eq_def]
  split <;> simp_all

theorem codeMarks_pos {mark : Char × Nat} (mem : mark ∈ codeMarks) : 0 < mark.2 := by
  have all : ∀ mark ∈ codeMarks, 0 < mark.2 := by decide
  exact all mark mem

/-- A text that was written is read up to its closing quote. -/
theorem basicBody_spells {text body : List Char} (spells : Spells text body)
    (rest : List Char) : basicBody (body ++ '\x22' :: rest) = some (text, rest) := by
  induction spells with
  | nil => rfl
  | @plain c text body open_ shown _ ih =>
    have basic : isBasic c = true := by
      unfold isBasic isPlain
      simpa [open_.1, open_.2] using shown
    rw [List.cons_append, basicBody_of_isBasic basic, ih]
    rfl
  | @letter letter c text body mem _ ih =>
    have read : prepend (some c) (basicBody (body ++ '\x22' :: rest)) = some (c :: text, rest) := by
      rw [ih]
      rfl
    simp only [letters, List.mem_cons, Prod.mk.injEq, List.not_mem_nil, or_false] at mem
    rcases mem with ⟨rfl, rfl⟩ | ⟨rfl, rfl⟩ | ⟨rfl, rfl⟩ | ⟨rfl, rfl⟩ | ⟨rfl, rfl⟩ | ⟨rfl, rfl⟩ |
      ⟨rfl, rfl⟩ | ⟨rfl, rfl⟩ <;> exact read
  | @code mark c width digits text body mem fits either _ ih =>
    have value := hexChar?_code either
    have read : prepend (hexChar? digits) (basicBody (body ++ '\x22' :: rest)) =
        some (c :: text, rest) := by
      rw [value, ih]
      rfl
    have length : digits.length = width := by
      have pos : 0 < width := codeMarks_pos mem
      exact either.length_eq.trans (length_paddedHex pos fits)
    simp only [codeMarks, List.mem_cons, Prod.mk.injEq, List.not_mem_nil, or_false] at mem
    rcases mem with ⟨rfl, rfl⟩ | ⟨rfl, rfl⟩ | ⟨rfl, rfl⟩
    · obtain ⟨a, b, rfl⟩ := List.length_eq_two.mp length
      exact read
    · match digits, length with
      | [a, b, c, d], _ => exact read
    · match digits, length with
      | [a, b, c, d, e, f, g, h], _ => exact read

/-! ## Values -/

theorem value_eq_simpleValue {c : Char} (bracket : c ≠ '[') (brace : c ≠ '\x7b') (depth : Nat)
    (text : List Char) : value depth (c :: text) = simpleValue (c :: text) := by
  cases depth with
  | zero => rfl
  | succ depth =>
    rw [value.eq_def]
    split <;> simp_all

theorem quoted_of_ne {c : Char} (quote : c ≠ '\x22') (text : List Char) :
    quoted ('\x22' :: c :: text) = basicBody (c :: text) := by
  rw [quoted.eq_def]
  split <;> simp_all

/-- A string is read up to the end of its line. -/
theorem value_string {text body : List Char} (spells : Spells text body) (depth : Nat)
    (rest : List Char) : value depth ('\x22' :: (body ++ '\x22' :: '\n' :: rest)) =
      some (.string (String.ofList text), '\n' :: rest) := by
  have body_read := basicBody_spells spells ('\n' :: rest)
  have read : quoted ('\x22' :: (body ++ '\x22' :: '\n' :: rest)) = some (text, '\n' :: rest) := by
    cases spells with
    | nil => rfl
    | plain open_ => exact (quoted_of_ne open_.1 _).trans body_read
    | letter => exact body_read
    | code => exact body_read
  rw [value_eq_simpleValue (by decide) (by decide)]
  unfold simpleValue
  dsimp only
  rw [if_pos (by decide), read]
  rfl

theorem scalarText_word {word : List Char} (inside : ∀ c ∈ word, endsWord c = false)
    (rest : List Char) : scalarText (word ++ '\n' :: rest) = word := by
  induction word with
  | nil => rfl
  | cons c word ih =>
    obtain ⟨here, others⟩ := List.forall_mem_cons.mp inside
    rw [List.cons_append, scalarText, here, ih others]
    rfl

/-- A word is read up to the end of its line. -/
theorem value_word {word : List Char} {v : Value} (inside : ∀ c ∈ word, endsWord c = false)
    (bare : ∀ c ∈ word, c ≠ '\x22' ∧ c ≠ '\x27') (ne : word ≠ []) (read : scalar? word = some v)
    (depth : Nat) (rest : List Char) :
    value depth (word ++ '\n' :: rest) = some (v, '\n' :: rest) := by
  have whole := scalarText_word inside rest
  cases word with
  | nil => exact absurd rfl ne
  | cons c word =>
    obtain ⟨quote, apostrophe⟩ := bare c List.mem_cons_self
    have here := inside c List.mem_cons_self
    have bracket : c ≠ '[' := by
      rintro rfl
      cases here
    have brace : c ≠ '\x7b' := by
      rintro rfl
      cases here
    rw [List.cons_append] at whole ⊢
    rw [value_eq_simpleValue bracket brace]
    unfold simpleValue scalar
    dsimp only
    rw [whole, read, if_neg (by simp [quote, apostrophe])]
    simp

theorem inside_boolean (b : Bool) : ∀ c ∈ if b then "true".toList else "false".toList,
    endsWord c = false ∧ c ≠ '\x22' ∧ c ≠ '\x27' := by
  cases b <;> simp [endsWord, isBlank]

theorem value_boolean (b : Bool) (depth : Nat) (rest : List Char) :
    value depth ((if b then "true".toList else "false".toList) ++ '\n' :: rest) =
      some (.boolean b, '\n' :: rest) := by
  refine value_word (fun c mem => (inside_boolean b c mem).1)
    (fun c mem => (inside_boolean b c mem).2) ?_ ?_ depth rest
  · cases b <;> decide
  · cases b <;> rfl

theorem inside_toDigits (n : Nat) : ∀ c ∈ Nat.toDigits 10 n,
    endsWord c = false ∧ c ≠ '\x22' ∧ c ≠ '\x27' := by
  have all : ∀ d : Fin 10, endsWord (Nat.digitChar d) = false ∧
      Nat.digitChar d ≠ '\x22' ∧ Nat.digitChar d ≠ '\x27' := by decide
  intro c mem
  obtain ⟨d, less, rfl⟩ := digit_of_mem_toDigits (by decide) mem
  exact all ⟨d, less⟩

theorem value_toDigits (n depth : Nat) (rest : List Char) :
    value depth (Nat.toDigits 10 n ++ '\n' :: rest) = some (.integer n, '\n' :: rest) :=
  value_word (fun c mem => (inside_toDigits n c mem).1) (fun c mem => (inside_toDigits n c mem).2)
    Nat.toDigits_ne_nil (scalar?_toDigits n) depth rest

/-! ## Keys and lines -/

/-- Whether a key needs no quotes. -/
def IsBare (key : String) : Prop := key.toList ≠ [] ∧ ∀ c ∈ key.toList, isBareKey c = true

instance (key : String) : Decidable (IsBare key) :=
  decidable_of_iff (key.toList ≠ [] ∧ key.toList.all isBareKey) (and_congr_right' List.all_eq_true)

theorem ne_of_isBareKey {c d : Char} (bare : isBareKey c = true) (other : isBareKey d = false) :
    c ≠ d := by
  rintro rfl
  cases other.symm.trans bare

theorem isBlank_eq_false {c : Char} (bare : isBareKey c = true) : isBlank c = false := by
  have space := ne_of_isBareKey bare (d := ' ') (by decide)
  have tab := ne_of_isBareKey bare (d := '\t') (by decide)
  unfold isBlank
  simp [space, tab]

theorem skipBlanks_of_head {c : Char} (blank : isBlank c = false) (text : List Char) :
    skipBlanks (c :: text) = c :: text := by
  unfold skipBlanks
  rw [blank]
  rfl

theorem keyPart_bare {key : String} (bare : IsBare key) {after : List Char}
    (stops : after.takeWhile isBareKey = []) :
    keyPart (key.toList ++ after) = some (key, after) := by
  obtain ⟨ne, all⟩ := bare
  have stays : after.dropWhile isBareKey = after := by
    have parts := List.takeWhile_append_dropWhile (p := isBareKey) (l := after)
    rw [stops] at parts
    exact parts
  cases e : key.toList with
  | nil => exact absurd e ne
  | cons c text =>
    rw [e] at all
    obtain ⟨here, others⟩ := List.forall_mem_cons.mp all
    unfold keyPart
    rw [List.cons_append]
    dsimp only
    rw [if_pos here, List.takeWhile_append_of_pos others, List.dropWhile_append_of_pos others,
      stops, stays, List.append_nil, ← e, String.ofList_toList]

/-- A key without quotes is read up to what stands behind it and the blanks there. -/
theorem dottedKey_bare {key : String} (bare : IsBare key) (after : List Char) {rest : List Char}
    {c : Char} (stops : after.takeWhile isBareKey = []) (skipped : skipBlanks after = c :: rest)
    (dot : c ≠ '.') : dottedKey (key.toList ++ after) = some ([], key, c :: rest) := by
  have part := keyPart_bare bare stops
  have starts : skipBlanks (key.toList ++ after) = key.toList ++ after := by
    obtain ⟨ne, all⟩ := bare
    cases e : key.toList with
    | nil => exact absurd e ne
    | cons d text =>
      rw [e] at all
      exact skipBlanks_of_head (isBlank_eq_false (all d List.mem_cons_self)) _
  have parts : keyParts maxDepth (key.toList ++ after) = some ([key], c :: rest) := by
    unfold maxDepth
    rw [keyParts, starts, part]
    dsimp only
    rw [skipped]
    split
    · rename_i dotted
      exact absurd (List.cons.inj dotted).1 dot
    · rfl
  unfold dottedKey
  rw [parts]
  rfl

theorem skipBlanks_word {word : List Char} (inside : ∀ c ∈ word, endsWord c = false)
    (rest : List Char) : skipBlanks (word ++ '\n' :: rest) = word ++ '\n' :: rest := by
  cases word with
  | nil => rfl
  | cons c word =>
    have here := inside c List.mem_cons_self
    refine skipBlanks_of_head (Bool.eq_false_iff.mpr fun blank => ?_) _
    unfold endsWord at here
    rw [blank] at here
    cases here

def headerLine (key : String) : List Char := '[' :: (key.toList ++ [']', '\n'])

def assignmentLine (key : String) (value : List Char) : List Char :=
  key.toList ++ (" = ".toList ++ (value ++ ['\n']))

namespace Reading

variable {reading : Reading} {fields : Fields} {key : String}

theorem readHeader_of_dottedKey {c : Char} {text rest : List Char} (bracket : c ≠ '[')
    (keyed : dottedKey (c :: text) = some ([], key, ']' :: '\n' :: rest))
    (opened : reading.fields.openTable [] key = some fields) :
    reading.readHeader ('[' :: c :: text) = some (⟨fields, [key]⟩, rest) := by
  rw [readHeader.eq_def]
  split
  · rename_i e
    exact absurd (List.cons.inj (List.cons.inj e).2).1 bracket
  · rename_i e
    obtain rfl := (List.cons.inj e).2
    rw [keyed]
    simp [opened, lineEnd]
  · rename_i no
    exact absurd rfl (no (c :: text))

theorem readLines_cons {next : Reading} {rest : List Char} (c : Char) (text : List Char)
    (gap : skipGap false (c :: text) = some (c :: text))
    (line : (if c == '[' then reading.readHeader (c :: text)
      else reading.readAssignment (c :: text)) = some (next, rest)) (bound : Nat) :
    readLines (bound + 1) reading (c :: text) = readLines bound next rest := by
  rw [readLines, gap]
  dsimp only
  rw [line]

/-- What comes after a line is read as if the document started with what the line made. -/
theorem readLines_headerLine (bare : IsBare key)
    (opened : reading.fields.openTable [] key = some fields) (bound : Nat) (rest : List Char) :
    readLines (bound + 1) reading (headerLine key ++ rest) =
      readLines bound ⟨fields, [key]⟩ rest := by
  have keyed := dottedKey_bare bare (']' :: '\n' :: rest) rfl rfl (by decide)
  have line : reading.readHeader (headerLine key ++ rest) = some (⟨fields, [key]⟩, rest) := by
    obtain ⟨ne, all⟩ := bare
    unfold headerLine
    rw [List.cons_append, List.append_assoc]
    cases e : key.toList with
    | nil => exact absurd e ne
    | cons c text =>
      rw [e] at all keyed
      have bracket := ne_of_isBareKey (all c List.mem_cons_self) (d := '[') (by decide)
      exact readHeader_of_dottedKey bracket keyed opened
  exact readLines_cons '[' (key.toList ++ [']', '\n'] ++ rest) rfl line bound

theorem readAssignment_assignmentLine (bare : IsBare key) {text : List Char} {v : Value}
    (starts : ∀ rest, skipBlanks (text ++ '\n' :: rest) = text ++ '\n' :: rest)
    (read : ∀ rest, value maxDepth (text ++ '\n' :: rest) = some (v, '\n' :: rest))
    (stored : reading.fields.assignUnder reading.header [] key v = some fields)
    (rest : List Char) : reading.readAssignment (assignmentLine key text ++ rest) =
      some ({ reading with fields }, rest) := by
  have keyed := dottedKey_bare bare (' ' :: '=' :: ' ' :: (text ++ '\n' :: rest)) rfl rfl
    (by decide)
  have spread : assignmentLine key text ++ rest =
      key.toList ++ ' ' :: '=' :: ' ' :: (text ++ '\n' :: rest) := by
    unfold assignmentLine
    simp
  have equals : (some ∘ skipBlanks) ('=' :: ' ' :: (text ++ '\n' :: rest)) =
      some ('=' :: ' ' :: (text ++ '\n' :: rest)) := rfl
  have behind : (some ∘ skipBlanks) (' ' :: (text ++ '\n' :: rest)) =
      some (text ++ '\n' :: rest) := congrArg some (starts rest)
  have assigned : assignment (some ∘ skipBlanks) (value maxDepth)
      (assignmentLine key text ++ rest) = some (([], key, v), '\n' :: rest) := by
    unfold assignment
    rw [spread, keyed]
    simp only [Option.bind_eq_bind, Option.bind_some]
    rw [equals]
    simp only [Option.bind_some]
    rw [behind, Option.bind_some, read]
    rfl
  unfold readAssignment
  rw [assigned]
  simp only [Option.bind_eq_bind, Option.bind_some]
  rw [stored]
  rfl

theorem readLines_assignmentLine (bare : IsBare key) {text : List Char} {v : Value}
    (starts : ∀ rest, skipBlanks (text ++ '\n' :: rest) = text ++ '\n' :: rest)
    (read : ∀ rest, value maxDepth (text ++ '\n' :: rest) = some (v, '\n' :: rest))
    (stored : reading.fields.assignUnder reading.header [] key v = some fields) (bound : Nat)
    (rest : List Char) : readLines (bound + 1) reading (assignmentLine key text ++ rest) =
      readLines bound { reading with fields } rest := by
  have line := readAssignment_assignmentLine bare starts read stored rest
  obtain ⟨ne, all⟩ := bare
  unfold assignmentLine at line ⊢
  cases e : key.toList with
  | nil => exact absurd e ne
  | cons c text' =>
    rw [e] at all line
    have here := all c List.mem_cons_self
    have gap (text : List Char) : skipGap false (c :: text) = some (c :: text) := by
      have blank := isBlank_eq_false here
      have newline := ne_of_isBareKey here (d := '\n') (by decide)
      have return_ := ne_of_isBareKey here (d := '\r') (by decide)
      have hash := ne_of_isBareKey here (d := '#') (by decide)
      rw [skipGap.eq_def]
      split <;> simp_all
    refine readLines_cons _ _ (gap _) ?_ bound
    rw [if_neg]
    · exact line
    · exact fun e => ne_of_isBareKey here (d := '[') (by decide) (eq_of_beq e)

theorem readLines_blankLine (bound : Nat) (rest : List Char) :
    readLines (bound + 1) reading ('\n' :: rest) = readLines (bound + 1) reading rest := by
  rw [readLines, readLines]
  rfl

end Reading

end OutlineBar.Toml
