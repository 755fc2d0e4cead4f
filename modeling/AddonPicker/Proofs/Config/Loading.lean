import AddonPicker.Config.Document
import AddonPicker.Proofs.Text.Utf8
import Mathlib.Algebra.Order.Field.Power
import Mathlib.Algebra.Order.Ring.Rat
import Mathlib.Tactic.Positivity

/-!
# Loading a configuration

Which settings and files make a configuration and which configuration, and with which fault every
other is met. A kind that is none of the four, a timeout of zero or less, a file that is no document
and a section that is no table are refused as configuration errors. A timeout that is not ordered
with zero, octets that are no text and whole numbers of too many digits are met with faults of other
kinds. The double that is no number is not zero or less, and passes for a timeout.
-/

namespace AddonPicker

theorem ResourceKind.ofWord?_eq_some_iff {s : String} {k : ResourceKind} :
    ofWord? s = some k ↔ s = k.word := by
  constructor
  · intro found
    have same := List.find?_some found
    exact (eq_of_beq same).symm
  · rintro rfl
    exact ofWord?_word k

namespace Binary64

/-- The number that a finite double is. -/
def toRat? : Binary64 → Option ℚ
  | .finite negative m e => some ((if negative then -(m : ℚ) else m) * 2 ^ e)
  | _ => none

/-- Doubles above zero. -/
def IsPositive (x : Binary64) : Prop :=
  x = .infinite false ∨ ∃ q, x.toRat? = some q ∧ 0 < q

theorem isPositive_finite_iff {negative : Bool} {m : Nat} {e : Int} :
    (finite negative m e).IsPositive ↔ negative = false ∧ m ≠ 0 := by
  have power : (0 : ℚ) < 2 ^ e := by positivity
  cases negative with
  | false => simp [IsPositive, toRat?, power, Nat.pos_iff_ne_zero]
  | true =>
      have low : -(m : ℚ) * 2 ^ e ≤ 0 := by
        rw [neg_mul]
        exact neg_nonpos.mpr (by positivity)
      simpa [IsPositive, toRat?] using low

/-- A double is zero or less unless it is above zero or no number. -/
theorem isNonPositive_eq_false_iff {x : Binary64} :
    x.isNonPositive = false ↔ x.IsPositive ∨ x = .nan := by
  cases x with
  | nan => simp [isNonPositive]
  | infinite negative => simp [isNonPositive, IsPositive, toRat?]
  | finite negative m e => simp [isNonPositive, isPositive_finite_iff]

end Binary64

namespace Value

/-- Numbers above zero. A truth value is the number that it counts as. -/
def IsPositive : Value → Prop
  | .bool b => b = true
  | .int i => 0 < i
  | .float x => x.IsPositive
  | _ => False

/-- Numbers and truth values. -/
def IsNumber : Value → Prop
  | .bool _ => True
  | .int _ => True
  | .float _ => True
  | _ => False

theorem isNumber_of_passes {v : Value} (passes : v.IsPositive ∨ v = .float .nan) : v.IsNumber := by
  rcases passes with positive | rfl
  · cases v with
    | bool b => trivial
    | int i => trivial
    | float x => trivial
    | _ => exact positive
  · trivial

theorem isNaN_eq_true_iff {v : Value} : v.isNaN = true ↔ v = .float .nan := by
  cases v with
  | float x => cases x <;> simp [isNaN]
  | _ => simp [isNaN]

/-- How a value compares with zero. The value that is no number is neither zero or less nor more. -/
inductive Compares (v : Value) : Except Fault Bool → Prop
  | above (passes : v.IsPositive ∨ v = .float .nan) : Compares v (.ok false)
  | below (number : v.IsNumber) (low : ¬v.IsPositive) (proper : v ≠ .float .nan) :
      Compares v (.ok true)
  | apart (other : ¬v.IsNumber) : Compares v (.error (.unordered v.typeName))

theorem compares_isNonPositive (v : Value) : v.Compares v.isNonPositive := by
  have decides {low : Bool} (number : v.IsNumber)
      (answer : low = false ↔ v.IsPositive ∨ v = .float .nan) : v.Compares (.ok low) := by
    cases low with
    | false => exact .above (answer.mp rfl)
    | true =>
        have neither := mt answer.mpr (by decide)
        exact .below number (mt .inl neither) (mt .inr neither)
  cases v with
  | bool b => exact decides trivial (by simp [IsPositive])
  | int i => exact decides trivial (by simp [IsPositive])
  | float x => exact decides trivial (by simp [x.isNonPositive_eq_false_iff, IsPositive])
  | _ => exact .apart id

end Value

namespace Config

variable {settings : List (String × Value)} {f : Fault}

/-- The kind that settings ask for: that of mods if they name none, and else the kind whose word the
setting is as a text, in whatever case. A whole number of too many digits has no text. -/
def AsksFor (settings : List (String × Value)) (kind : ResourceKind) : Prop :=
  match Value.lookup kindKey settings with
  | none => kind = .mods
  | some v => v.isLong = false ∧ Text.lower v.text = kind.word

/-- The timeout that settings ask for. -/
def timeoutIn (settings : List (String × Value)) : Value :=
  (Value.lookup timeoutKey settings).getD .null

/-- A configuration that settings describe. -/
structure IsOf (settings : List (String × Value)) (c : Config) : Prop where
  kind : AsksFor settings c.kind
  timeout : c.resolutionTimeout = timeoutIn settings
  /-- The double that is no number is not zero or less, and passes for it. -/
  passes : c.resolutionTimeout = .null ∨ c.resolutionTimeout.IsPositive ∨
    c.resolutionTimeout = .float .nan
  flameEnabled : c.flameEnabled = (Value.lookup flameKey settings).getD (.bool true)
  checkDependencies : c.checkDependencies = (Value.lookup checkKey settings).getD (.bool true)
  geometrySaveKey : c.geometrySaveKey = (Value.lookup geometryKey settings).getD .null

/-- Settings that are refused, and as what. -/
inductive Refuses (settings : List (String × Value)) : Fault → Prop
  /-- The setting is not the word of a kind. -/
  | kind {v : Value} (set : Value.lookup kindKey settings = some v) (short : v.isLong = false)
      (unknown : ∀ kind : ResourceKind, Text.lower v.text ≠ kind.word) :
      Refuses settings (.unsupportedKind v.text)
  /-- The timeout is zero or less. -/
  | timeout {kind : ResourceKind} (asks : AsksFor settings kind)
      (number : (timeoutIn settings).IsNumber) (low : ¬(timeoutIn settings).IsPositive)
      (proper : timeoutIn settings ≠ .float .nan) : Refuses settings .timeoutNotPositive

/-- Settings that the checks themselves fail on, and how. -/
inductive Breaks (settings : List (String × Value)) : Fault → Prop
  /-- The setting of the kind has no text. -/
  | kind {v : Value} (set : Value.lookup kindKey settings = some v) (long : v.isLong = true) :
      Breaks settings .longNumber
  /-- The timeout does not compare with zero. -/
  | timeout {kind : ResourceKind} (asks : AsksFor settings kind)
      (set : timeoutIn settings ≠ .null) (other : ¬(timeoutIn settings).IsNumber) :
      Breaks settings (.unordered (timeoutIn settings).typeName)

/-- The kind as it is read. -/
def kindIn (settings : List (String × Value)) : Except Fault ResourceKind :=
  match Value.lookup kindKey settings with
  | some v => kindOf v
  | none => .ok .mods

theorem kindIn_eq_ok_iff {kind : ResourceKind} :
    kindIn settings = .ok kind ↔ AsksFor settings kind := by
  unfold kindIn AsksFor
  cases Value.lookup kindKey settings with
  | none => simp [eq_comm]
  | some v =>
      dsimp only
      rw [← ResourceKind.ofWord?_eq_some_iff, kindOf]
      cases v.isLong with
      | true => simp
      | false => cases ResourceKind.ofWord? (Text.lower v.text) <;> simp

theorem kindIn_eq_error_iff :
    kindIn settings = .error f ↔ ∃ v, Value.lookup kindKey settings = some v ∧
      (v.isLong = true ∧ f = .longNumber ∨
        v.isLong = false ∧ (∀ kind : ResourceKind, Text.lower v.text ≠ kind.word) ∧
          f = .unsupportedKind v.text) := by
  unfold kindIn
  cases Value.lookup kindKey settings with
  | none => simp
  | some v =>
      have unknown : (∀ kind : ResourceKind, Text.lower v.text ≠ kind.word) ↔
          ResourceKind.ofWord? (Text.lower v.text) = none := by
        simp [Option.eq_none_iff_forall_ne_some, ResourceKind.ofWord?_eq_some_iff]
      simp only [unknown, kindOf, Option.some.injEq, exists_eq_left']
      cases v.isLong with
      | true => simp [eq_comm]
      | false => cases ResourceKind.ofWord? (Text.lower v.text) <;> simp [eq_comm]

theorem checkTimeout_of_ne_null {v : Value} (set : v ≠ .null) :
    checkTimeout v = match v.isNonPositive with
      | .ok low => if low then .error .timeoutNotPositive else .ok ()
      | .error f => .error f := by
  cases v with
  | null => exact absurd rfl set
  | bool b => rfl
  | int i => rfl
  | float x => rfl
  | _ => rfl

theorem checkTimeout_eq_ok_iff {v : Value} :
    checkTimeout v = .ok () ↔ v = .null ∨ v.IsPositive ∨ v = .float .nan := by
  by_cases set : v = .null
  · simp [set, checkTimeout]
  · have compares := v.compares_isNonPositive
    rw [checkTimeout_of_ne_null set]
    generalize v.isNonPositive = answer at compares
    cases compares with
    | above passes => simp [passes]
    | below number low proper => simp [set, low, proper]
    | apart other => simp [set, mt Value.isNumber_of_passes other]

theorem checkTimeout_eq_error_iff {v : Value} :
    checkTimeout v = .error f ↔ v ≠ .null ∧
      (v.IsNumber ∧ ¬v.IsPositive ∧ v ≠ .float .nan ∧ f = .timeoutNotPositive ∨
        ¬v.IsNumber ∧ f = .unordered v.typeName) := by
  by_cases set : v = .null
  · simp [set, checkTimeout]
  · have compares := v.compares_isNonPositive
    rw [checkTimeout_of_ne_null set]
    generalize v.isNonPositive = answer at compares
    cases compares with
    | above passes =>
        have number := Value.isNumber_of_passes passes
        constructor
        · intro failed
          cases failed
        · rintro ⟨-, ⟨-, low, proper, -⟩ | ⟨other, -⟩⟩
          · exact absurd passes (not_or.mpr ⟨low, proper⟩)
          · exact absurd number other
    | below number low proper => simp [set, number, low, proper, eq_comm]
    | apart other =>
        constructor
        · rintro ⟨⟩
          exact ⟨set, .inr ⟨other, rfl⟩⟩
        · rintro ⟨-, ⟨number, -⟩ | ⟨-, rfl⟩⟩
          · exact absurd number other
          · rfl

/-- Settings make a configuration if the kind can be read and the timeout passes. -/
theorem ofFields_eq (settings : List (String × Value)) :
    ofFields settings = (do
      let kind ← kindIn settings
      checkTimeout (timeoutIn settings)
      return {
        kind
        flameEnabled := (Value.lookup flameKey settings).getD (.bool true)
        checkDependencies := (Value.lookup checkKey settings).getD (.bool true)
        resolutionTimeout := timeoutIn settings
        geometrySaveKey := (Value.lookup geometryKey settings).getD .null }) := by
  unfold ofFields kindIn timeoutIn
  cases Value.lookup kindKey settings <;> rfl

/-- Settings are the configuration that is made of them if the kind can be read and the timeout
passes. -/
theorem ofFields_eq_ok_iff {c : Config} : ofFields settings = .ok c ↔ IsOf settings c := by
  rw [ofFields_eq]
  constructor
  · intro made
    cases kind : kindIn settings with
    | error f =>
        rw [kind] at made
        cases made
    | ok k =>
        cases passes : checkTimeout (timeoutIn settings) with
        | error f =>
            rw [kind, passes] at made
            cases made
        | ok u =>
            rw [kind, passes] at made
            cases made
            exact ⟨kindIn_eq_ok_iff.mp kind, rfl, checkTimeout_eq_ok_iff.mp passes, rfl, rfl, rfl⟩
  · intro described
    have kind := kindIn_eq_ok_iff.mpr described.kind
    have passes : checkTimeout (timeoutIn settings) = .ok () :=
      checkTimeout_eq_ok_iff.mpr (described.timeout ▸ described.passes)
    rw [kind, passes, ← described.flameEnabled, ← described.checkDependencies, ← described.timeout,
      ← described.geometrySaveKey]
    rfl

/-- Settings fail where the kind cannot be read, or else where the timeout does not pass. -/
theorem ofFields_fails_iff : ofFields settings = .error f ↔ kindIn settings = .error f ∨
    ∃ kind, kindIn settings = .ok kind ∧ checkTimeout (timeoutIn settings) = .error f := by
  rw [ofFields_eq]
  cases kindIn settings with
  | error f' => simp [bind, Except.bind]
  | ok kind =>
      cases checkTimeout (timeoutIn settings) <;> simp [bind, Except.bind, pure, Except.pure]

theorem Refuses.ofFields_eq (refuses : Refuses settings f) : ofFields settings = .error f := by
  rw [ofFields_fails_iff]
  cases refuses with
  | kind set short unknown =>
      exact .inl (kindIn_eq_error_iff.mpr ⟨_, set, .inr ⟨short, unknown, rfl⟩⟩)
  | timeout asks number low proper =>
      have set : timeoutIn settings ≠ .null := by
        intro unset
        rw [unset] at number
        exact number
      have fails := checkTimeout_eq_error_iff.mpr ⟨set, .inl ⟨number, low, proper, rfl⟩⟩
      exact .inr ⟨_, kindIn_eq_ok_iff.mpr asks, fails⟩

theorem Breaks.ofFields_eq (breaks : Breaks settings f) : ofFields settings = .error f := by
  rw [ofFields_fails_iff]
  cases breaks with
  | kind set long => exact .inl (kindIn_eq_error_iff.mpr ⟨_, set, .inl ⟨long, rfl⟩⟩)
  | timeout asks set other =>
      have fails := checkTimeout_eq_error_iff.mpr ⟨set, .inr ⟨other, rfl⟩⟩
      exact .inr ⟨_, kindIn_eq_ok_iff.mpr asks, fails⟩

theorem ofFields_eq_error_iff :
    ofFields settings = .error f ↔ Refuses settings f ∨ Breaks settings f := by
  constructor
  · intro failed
    rcases ofFields_fails_iff.mp failed with unread | ⟨kind, read, fails⟩
    · obtain ⟨v, set, ⟨long, rfl⟩ | ⟨short, unknown, rfl⟩⟩ := kindIn_eq_error_iff.mp unread
      · exact .inr (.kind set long)
      · exact .inl (.kind set short unknown)
    · have asks := kindIn_eq_ok_iff.mp read
      obtain ⟨set, ⟨number, low, proper, rfl⟩ | ⟨other, rfl⟩⟩ := checkTimeout_eq_error_iff.mp fails
      · exact .inl (.timeout asks number low proper)
      · exact .inr (.timeout asks set other)
  · exact fun cause => cause.elim Refuses.ofFields_eq Breaks.ofFields_eq

/-! ### Files -/

/-- Octets are a file in UTF-8 that holds the settings. A document without the section means that
nothing is set. -/
inductive Holds : List UInt8 → List (String × Value) → Prop
  | unset {text : List Char} {fields : List (String × Value)}
      (document : Toml.read text = .ok fields) (unset : Value.lookup sectionKey fields = none) :
      Holds (text.flatMap String.utf8EncodeChar) []
  | table {text : List Char} {fields settings : List (String × Value)}
      (document : Toml.read text = .ok fields)
      (set : Value.lookup sectionKey fields = some (.dict settings)) :
      Holds (text.flatMap String.utf8EncodeChar) settings

/-- A configuration that a file describes. -/
def IsIn (file : Option (List UInt8)) (c : Config) : Prop :=
  ∃ octets settings, file = some octets ∧ Holds octets settings ∧ IsOf settings c

/-- Files that are refused, and as what. -/
inductive RefusesFile : Option (List UInt8) → Fault → Prop
  /-- It cannot be opened. -/
  | unopened : RefusesFile none .unreadableConfig
  /-- It is a text, but not a document. -/
  | malformed {text : List Char} (document : Toml.read text = .error .malformed) :
      RefusesFile (some (text.flatMap String.utf8EncodeChar)) .unreadableConfig
  /-- The section is something else than a table. -/
  | notTable {text : List Char} {fields : List (String × Value)} {v : Value}
      (document : Toml.read text = .ok fields) (set : Value.lookup sectionKey fields = some v)
      (other : ∀ settings, v ≠ .dict settings) :
      RefusesFile (some (text.flatMap String.utf8EncodeChar)) .sectionNotTable
  /-- What it holds is refused. -/
  | settings {octets : List UInt8} {settings : List (String × Value)} {f : Fault}
      (holds : Holds octets settings) (refuses : Refuses settings f) : RefusesFile (some octets) f

/-- Files that reading fails on, and how. -/
inductive BreaksFile : Option (List UInt8) → Fault → Prop
  /-- The octets are no text. -/
  | notText {octets : List UInt8} (other : ∀ text : List Char,
      octets ≠ text.flatMap String.utf8EncodeChar) : BreaksFile (some octets) .notUtf8
  /-- A whole number has too many digits. -/
  | numeral {text : List Char} {digits : Nat}
      (document : Toml.read text = .error (.longNumeral digits)) :
      BreaksFile (some (text.flatMap String.utf8EncodeChar)) (.longNumeral digits)
  /-- The checks fail on what it holds. -/
  | settings {octets : List UInt8} {settings : List (String × Value)} {f : Fault}
      (holds : Holds octets settings) (breaks : Breaks settings f) : BreaksFile (some octets) f

/-- What is answered to settings or a file: the configurations that it may be made into, what it is
refused as, and what it is met with otherwise. -/
structure Answers (result : Except Fault Config) (accepts : Config → Prop)
    (refuses breaks : Fault → Prop) : Prop where
  made : ∀ c, result = .ok c ↔ accepts c
  refused : ∀ f, result = .error f ∧ f.title = "ConfigurationError" ↔ refuses f
  broken : ∀ f, result = .error f ∧ f.title ≠ "ConfigurationError" ↔ breaks f

/-- What settings are refused as is a configuration error, and what the checks fail with is none. -/
theorem Refuses.title_eq (refuses : Refuses settings f) : f.title = "ConfigurationError" := by
  cases refuses <;> rfl

theorem Breaks.title_ne (breaks : Breaks settings f) : f.title ≠ "ConfigurationError" := by
  cases breaks with
  | kind => exact (by decide : "ValueError" ≠ "ConfigurationError")
  | timeout => exact (by decide : "TypeError" ≠ "ConfigurationError")

/-- Faults that are either refusals or breaks are told apart by what they are called. -/
theorem answers_of_error_iff {result : Except Fault Config} {accepts : Config → Prop}
    {refuses breaks : Fault → Prop} (made : ∀ c, result = .ok c ↔ accepts c)
    (failed : ∀ f, result = .error f ↔ refuses f ∨ breaks f)
    (title : ∀ f, refuses f → f.title = "ConfigurationError")
    (other : ∀ f, breaks f → f.title ≠ "ConfigurationError") :
    Answers result accepts refuses breaks := by
  refine ⟨made, fun f => ?_, fun f => ?_⟩
  · rw [failed f]
    constructor
    · rintro ⟨refused | broken, named⟩
      · exact refused
      · exact absurd named (other f broken)
    · exact fun refused => ⟨.inl refused, title f refused⟩
  · rw [failed f]
    constructor
    · rintro ⟨refused | broken, named⟩
      · exact absurd (title f refused) named
      · exact broken
    · exact fun broken => ⟨.inr broken, other f broken⟩

theorem RefusesFile.title_eq {file : Option (List UInt8)} (refuses : RefusesFile file f) :
    f.title = "ConfigurationError" := by
  cases refuses with
  | unopened => rfl
  | malformed document => rfl
  | notTable document set other => rfl
  | settings holds refuses => exact refuses.title_eq

theorem BreaksFile.title_ne {file : Option (List UInt8)} (breaks : BreaksFile file f) :
    f.title ≠ "ConfigurationError" := by
  cases breaks with
  | notText other => exact (by decide : "UnicodeDecodeError" ≠ "ConfigurationError")
  | numeral document => exact (by decide : "ValueError" ≠ "ConfigurationError")
  | settings holds breaks => exact breaks.title_ne

variable {file : Option (List UInt8)} {octets : List UInt8}

/-- What a file holds is read as settings are. -/
theorem Holds.ofFile_eq (holds : Holds octets settings) :
    ofFile (some octets) = ofFields settings := by
  cases holds with
  | unset document unset => simp [ofFile, Utf8.decode?_flatMap, document, ofDocument, unset]
  | table document set => simp [ofFile, Utf8.decode?_flatMap, document, ofDocument, set]

theorem RefusesFile.ofFile_eq (refuses : RefusesFile file f) : ofFile file = .error f := by
  cases refuses with
  | unopened => rfl
  | malformed document => simp [ofFile, Utf8.decode?_flatMap, document]
  | notTable document set other => simp [ofFile, Utf8.decode?_flatMap, document, ofDocument, set]
  | settings holds refuses =>
      rw [holds.ofFile_eq]
      exact refuses.ofFields_eq

theorem BreaksFile.ofFile_eq (breaks : BreaksFile file f) : ofFile file = .error f := by
  cases breaks with
  | @notText octets other =>
      have unread : Utf8.decode? octets = none := by
        rw [Option.eq_none_iff_forall_ne_some]
        exact fun text read => other text (Utf8.decode?_eq_some_iff.mp read)
      simp [ofFile, unread]
  | numeral document => simp [ofFile, Utf8.decode?_flatMap, document]
  | settings holds breaks =>
      rw [holds.ofFile_eq]
      exact breaks.ofFields_eq

/-- A file holds settings or is met with a fault of its own. -/
theorem holds_or_fails (file : Option (List UInt8)) :
    (∃ octets settings, file = some octets ∧ Holds octets settings) ∨
      ∃ f, RefusesFile file f ∨ BreaksFile file f := by
  cases file with
  | none => exact .inr ⟨_, .inl .unopened⟩
  | some octets =>
      by_cases isText : ∃ text : List Char, octets = text.flatMap String.utf8EncodeChar
      · obtain ⟨text, rfl⟩ := isText
        cases document : Toml.read text with
        | error failure =>
            cases failure with
            | malformed => exact .inr ⟨_, .inl (.malformed document)⟩
            | longNumeral digits => exact .inr ⟨_, .inr (.numeral document)⟩
        | ok fields =>
            cases set : Value.lookup sectionKey fields with
            | none => exact .inl ⟨_, [], rfl, .unset document set⟩
            | some v =>
                by_cases table : ∃ settings, v = .dict settings
                · obtain ⟨settings, rfl⟩ := table
                  exact .inl ⟨_, settings, rfl, .table document set⟩
                · exact .inr ⟨_, .inl (.notTable document set (not_exists.mp table))⟩
      · exact .inr ⟨_, .inr (.notText (not_exists.mp isText))⟩

theorem ofFile_eq_ok_iff {c : Config} : ofFile file = .ok c ↔ IsIn file c := by
  constructor
  · intro made
    obtain ⟨octets, settings, rfl, holds⟩ | ⟨f, refuses | breaks⟩ := holds_or_fails file
    · rw [holds.ofFile_eq] at made
      exact ⟨octets, settings, rfl, holds, ofFields_eq_ok_iff.mp made⟩
    · rw [refuses.ofFile_eq] at made
      cases made
    · rw [breaks.ofFile_eq] at made
      cases made
  · rintro ⟨octets, settings, rfl, holds, described⟩
    rw [holds.ofFile_eq]
    exact ofFields_eq_ok_iff.mpr described

theorem ofFile_eq_error_iff : ofFile file = .error f ↔ RefusesFile file f ∨ BreaksFile file f := by
  constructor
  · intro failed
    obtain ⟨octets, settings, rfl, holds⟩ | ⟨f', cause⟩ := holds_or_fails file
    · rw [holds.ofFile_eq] at failed
      exact (ofFields_eq_error_iff.mp failed).imp (.settings holds) (.settings holds)
    · have failed' := cause.elim RefusesFile.ofFile_eq BreaksFile.ofFile_eq
      rw [failed'] at failed
      cases failed
      exact cause
  · exact fun cause => cause.elim RefusesFile.ofFile_eq BreaksFile.ofFile_eq

/-- Settings and files are made into the configurations that they describe, refused as configuration
errors where the documentation has it so, and met with another fault where the checks or the reading
themselves fail. -/
theorem answers_ofFields_ofFile (settings : List (String × Value)) (file : Option (List UInt8)) :
    Answers (ofFields settings) (IsOf settings) (Refuses settings) (Breaks settings) ∧
      Answers (ofFile file) (IsIn file) (RefusesFile file) (BreaksFile file) := by
  constructor
  · exact answers_of_error_iff (fun _ => ofFields_eq_ok_iff) (fun _ => ofFields_eq_error_iff)
      (fun _ => Refuses.title_eq) fun _ => Breaks.title_ne
  · exact answers_of_error_iff (fun _ => ofFile_eq_ok_iff) (fun _ => ofFile_eq_error_iff)
      (fun _ => RefusesFile.title_eq) fun _ => BreaksFile.title_ne

/-- A file with a word for the timeout. -/
def worded : List UInt8 := "[download]\nresolution_timeout = \"30\"\n".toUTF8.toList

/-- A file with the double that is no number for the timeout. -/
def numberless : List UInt8 := "[download]\nresolution_timeout = nan\n".toUTF8.toList

/-- A word for the timeout and an octet that is no text are met with other faults than a
configuration error, and the double that is no number makes a configuration. -/
theorem not_refused_worded :
    (∃ f, ofFile (some worded) = .error f ∧ f.title = "TypeError") ∧
      (∃ f, ofFile (some [0xff]) = .error f ∧ f.title = "UnicodeDecodeError") ∧
      ∃ c, ofFile (some numberless) = .ok c ∧ c.resolutionTimeout ≠ .null ∧
        ¬c.resolutionTimeout.IsPositive := by
  have named : (match ofFile (some worded) with
      | .error f => f.title
      | .ok _ => "") = "TypeError" := by decide +kernel
  have made : (match ofFile (some numberless) with
      | .error _ => false
      | .ok c => c.resolutionTimeout.isNaN) = true := by decide +kernel
  refine ⟨?_, ⟨.notUtf8, rfl, rfl⟩, ?_⟩
  · generalize ofFile (some worded) = result at named
    cases result with
    | error f => exact ⟨f, rfl, named⟩
    | ok c => exact absurd named (by decide : "" ≠ "TypeError")
  · generalize ofFile (some numberless) = result at made
    cases result with
    | error f => cases made
    | ok c =>
        have nan : c.resolutionTimeout = .float .nan := Value.isNaN_eq_true_iff.mp made
        refine ⟨c, rfl, by simp [nan], ?_⟩
        simp [nan, Value.IsPositive, Binary64.IsPositive, Binary64.toRat?]

end Config

end AddonPicker
