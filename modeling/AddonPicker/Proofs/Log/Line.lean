import Mathlib.Data.List.Forall2
import AddonPicker.Log.Line
import AddonPicker.Proofs.Json.RoundTrip

/-!
# Log lines that are read back

Whatever the message holds, a record that is logged is one line, and reading the line as JSON gives
back when and where it was logged, the name of its level and the message as it is shown: apostrophes
are double quotes, line breaks are blanks, and all else is as it was.
-/

namespace AddonPicker

namespace Level

/-- A whole number that is given as a level is shown under its name. -/
theorem nameOf_int (l : Level) : nameOf (.int l) = .ok l.name := by
  have same (a : Int) : (Value.int a).agrees (.int l) = (a == l) := by
    simp [Value.agrees, Value.sameScalar, Value.wholeNumber?]
  simp only [nameOf, Value.isHashable, Bool.not_true, Bool.false_eq_true, if_false, name, same]
  cases named.find? fun k => k.1 == l with
  | none => rfl
  | some k => rfl

end Level

namespace LogLine

/-- What a log line shows for a character of a message. -/
inductive ShownAs : Char → Char → Prop
  | quote : ShownAs '\'' '"'
  | newline : ShownAs '\n' ' '
  | same {c : Char} (unquoted : c ≠ '\'') (inside : c ≠ '\n') : ShownAs c c

theorem shownAs_cleanChar (c : Char) : ShownAs c (cleanChar c) := by
  rw [cleanChar]
  split
  · exact ‹c = '\''› ▸ .quote
  · split
    · exact ‹c = '\n'› ▸ .newline
    · exact .same ‹_› ‹_›

/-- A cleaned message shows the message character by character. -/
theorem forall₂_clean (s : String) : List.Forall₂ ShownAs s.toList (clean s).toList := by
  rw [clean, String.toList_map]
  generalize s.toList = cs
  induction cs with
  | nil => exact .nil
  | cons c later ih => exact .cons (shownAs_cleanChar c) ih

/-- The values of a line are read back, and none of them breaks the line. -/
theorem isReadBack_fields (l : LogLine) :
    ∀ kv ∈ l.fields, Json.IsReadBack kv.2 ∧ Json.IsOneLine (Json.writeValue kv.2) := by
  have text (s : String) : Json.IsReadBack (.str s) ∧ Json.IsOneLine (Json.writeValue (.str s)) :=
    ⟨Json.isReadBack_str s, Json.isOneLine_writeText s⟩
  have number (i : Int) : Json.IsReadBack (.int i) ∧ Json.IsOneLine (Json.writeValue (.int i)) :=
    ⟨Json.isReadBack_int i, Json.isOneLine_int i⟩
  simp [fields, heading, closing, text, number]

/-- Reading the text of a line gives back its fields. -/
theorem read?_text (l : LogLine) : Json.read? l.text = some (.dict l.fields) := by
  have apart : (l.fields.map Prod.fst).Nodup := by
    show ["time", "level", "caller_file", "caller_name", "caller_line", "message"].Nodup
    decide
  exact (Json.isReadBack_dict (fun kv among => (l.isReadBack_fields kv among).1) apart).read?

/-- The text of a line is one line. -/
theorem isOneLine_text (l : LogLine) : Json.IsOneLine l.text.toList := by
  rw [text, Json.write, String.toList_ofList]
  exact Json.isOneLine_dict fun kv among => (l.isReadBack_fields kv among).2

/-- A text that is one line, and from which a record can be read with its message as it is shown. -/
structure Carries (origin : LogOrigin) (level : Level) (message : String) (text : String) : Prop where
  /-- No line break and no other character below the space. -/
  oneLine : ∀ c ∈ text.toList, ' ' ≤ c
  reads : ∃ shown : String, List.Forall₂ ShownAs message.toList shown.toList ∧
    Json.read? text = some (.dict [("time", .str origin.time), ("level", .str level.name),
      ("caller_file", .str origin.file), ("caller_name", .str origin.function),
      ("caller_line", .int origin.line), ("message", .str shown)])

/-- Logging any message at any level comes to one line that carries the record. It is emitted if the
level reaches the threshold; one of zero or less never does. -/
theorem carries_of_record (threshold level : Level) (origin : LogOrigin)
    (message sanitized : String) :
    ∃ line : LogLine,
      record threshold origin (.str message) (.int level) (.str sanitized) =
        .ok (if 0 < level ∧ threshold ≤ level then some line else none) ∧
      Carries origin level message line.text := by
  refine ⟨{ origin, level := level.name, message := clean message }, ?_, isOneLine_text _, ?_⟩
  · show (do
      let name ← Level.nameOf (.int level)
      let level ← Level.ofValue (.int level)
      return if level.reaches threshold then
        some ({ origin, level := name, message := clean message } : LogLine) else none) = _
    rw [Level.nameOf_int]
    simp [Level.ofValue, Level.reaches, bind, Except.bind, pure, Except.pure]
  · exact ⟨clean message, forall₂_clean message, read?_text _⟩

end LogLine

end AddonPicker
