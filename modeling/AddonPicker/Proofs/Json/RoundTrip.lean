import AddonPicker.Json.Reader
import AddonPicker.Json.Writer
import AddonPicker.Proofs.Text.Numeral

/-!
# JSON that is read back

What is written of a text, of a whole number and of a table is read as what it was written for,
wherever it stands in a longer text. A table is read back if its values are and no key stands twice.
None of it holds a line break, or any other character below the space.
-/

namespace AddonPicker.Json

/-! ## Texts -/

/-- A control character is read from its code point. -/
theorem readEscape_hexDigits {c : Char} (control : ¬0x20 ≤ c.val) (rest : List Char) :
    readEscape ('u' :: (Text.hexDigits 4 c.toNat ++ rest)) = some (c, rest) := by
  have small : c.toNat < 0x20 := UInt32.lt_iff_toNat_lt.mp (UInt32.not_le.mp control)
  have fits : c.toNat < 16 ^ 4 := by omega
  rw [readEscape, readCodePoint, Text.readNumeral_hexDigits fits rest]
  have upper : ¬(0xd800 ≤ c.toNat ∧ c.toNat < 0xdc00) := by omega
  have lower : ¬(0xdc00 ≤ c.toNat ∧ c.toNat < 0xe000) := by omega
  simp only [Option.bind_eq_bind, Option.bind_some, if_neg upper, if_neg lower, Char.ofNat_toNat]
  rfl

/-- A character is written as it is, or after a backslash from which it is read again. -/
theorem escapeChar_cases (c : Char) :
    (escapeChar c = [c] ∧ c ≠ '"' ∧ c ≠ '\\' ∧ 0x20 ≤ c.val) ∨
      ∃ code, escapeChar c = '\\' :: code ∧
        ∀ rest, readEscape (code ++ rest) = some (c, rest) := by
  have short {d : Char} (code : Char) (same : c = d) (written : escapeChar d = ['\\', code])
      (read : ∀ rest, readEscape (code :: rest) = some (d, rest)) :
      ∃ code, escapeChar c = '\\' :: code ∧ ∀ rest, readEscape (code ++ rest) = some (c, rest) :=
    same ▸ ⟨[code], written, read⟩
  by_cases quote : c = '"'
  · exact .inr (short '"' quote rfl fun _ => rfl)
  by_cases backslash : c = '\\'
  · exact .inr (short '\\' backslash rfl fun _ => rfl)
  by_cases plain : 0x20 ≤ c.val
  · left
    rw [escapeChar, if_neg quote, if_neg backslash, if_pos plain]
    exact ⟨rfl, quote, backslash, plain⟩
  right
  by_cases newline : c = '\n'
  · exact short 'n' newline rfl fun _ => rfl
  by_cases carriage : c = '\r'
  · exact short 'r' carriage rfl fun _ => rfl
  by_cases tab : c = '\t'
  · exact short 't' tab rfl fun _ => rfl
  by_cases backspace : c = '\x08'
  · exact short 'b' backspace rfl fun _ => rfl
  by_cases feed : c = '\x0c'
  · exact short 'f' feed rfl fun _ => rfl
  rw [escapeChar, if_neg quote, if_neg backslash, if_neg plain, if_neg newline, if_neg carriage,
    if_neg tab, if_neg backspace, if_neg feed]
  exact ⟨_, rfl, readEscape_hexDigits plain⟩

/-- What is written of a character is read as the character. -/
theorem readText_escapeChar (fuel : Nat) (c : Char) (rest : List Char) :
    readText (fuel + 1) (escapeChar c ++ rest) =
      (readText fuel rest).map fun (cs, rest) => (c :: cs, rest) := by
  rcases escapeChar_cases c with ⟨written, quote, backslash, plain⟩ | ⟨code, written, read⟩
  · have visible : ¬c.val < 0x20 := UInt32.not_lt.mpr plain
    rw [written, List.singleton_append, readText, if_neg quote, if_neg backslash, if_neg visible]
    cases readText fuel rest <;> rfl
  · rw [written, List.cons_append, readText, if_neg (by decide), if_pos rfl, read,
      Option.bind_eq_bind, Option.bind_some]
    dsimp only
    cases readText fuel rest <;> rfl

/-- A text is read up to the quote that closes it. -/
theorem readText_flatMap {fuel : Nat} {cs : List Char} (enough : cs.length < fuel)
    (rest : List Char) :
    readText fuel (cs.flatMap escapeChar ++ '"' :: rest) = some (cs, rest) := by
  induction cs generalizing fuel with
  | nil =>
      obtain ⟨fuel, rfl⟩ := Nat.exists_eq_add_one_of_ne_zero (Nat.ne_of_gt enough)
      rw [List.flatMap_nil, List.nil_append, readText, if_pos rfl]
  | cons c later ih =>
      rw [List.length_cons] at enough
      obtain ⟨fuel, rfl⟩ := Nat.exists_eq_add_one_of_ne_zero (Nat.ne_of_gt (Nat.zero_lt_of_lt enough))
      rw [List.flatMap_cons, List.append_assoc, readText_escapeChar, ih (by omega)]
      rfl

/-- Every character is written with one or more. -/
theorem length_le_length_flatMap (cs : List Char) : cs.length ≤ (cs.flatMap escapeChar).length := by
  induction cs with
  | nil => exact Nat.le_refl 0
  | cons c later ih =>
      have some_ : 0 < (escapeChar c).length := by
        rcases escapeChar_cases c with ⟨written, -⟩ | ⟨code, written, -⟩ <;> rw [written] <;> simp
      rw [List.flatMap_cons, List.length_append, List.length_cons]
      omega

/-- A text that has been opened is read as what was written, whatever follows. -/
theorem readText_written (s : String) (rest : List Char) :
    let written := s.toList.flatMap escapeChar ++ '"' :: rest
    readText (written.length + 1) written = some (s.toList, rest) := by
  intro written
  refine readText_flatMap ?_ rest
  have long := length_le_length_flatMap s.toList
  rw [List.length_append]
  omega

/-! ## Numbers -/

/-- Nothing at the start of a text can belong to a number in front of it. -/
def EndsNumber (rest : List Char) : Prop :=
  ∀ c ∈ rest.head?, c.isDigit = false ∧ c ≠ '.' ∧ c ≠ 'e' ∧ c ≠ 'E'

theorem splitDigits_append {digits rest : List Char} (all : ∀ c ∈ digits, c.isDigit = true)
    (ends : EndsNumber rest) : splitDigits (digits ++ rest) = (digits, rest) := by
  have none_ : rest.takeWhile Char.isDigit = [] ∧ rest.dropWhile Char.isDigit = rest := by
    cases rest with
    | nil => exact ⟨rfl, rfl⟩
    | cons c more =>
        have other := (ends c rfl).1
        simp [other]
  rw [splitDigits, List.takeWhile_append_of_pos all, List.dropWhile_append_of_pos all, none_.1,
    none_.2, List.append_nil]

theorem readFraction_of_endsNumber {rest : List Char} (ends : EndsNumber rest) :
    readFraction rest = some (none, rest) := by
  unfold readFraction
  split
  · exact absurd rfl (ends '.' rfl).2.1
  · rfl

theorem readExponent_of_endsNumber {rest : List Char} (ends : EndsNumber rest) :
    readExponent rest = some (none, rest) := by
  unfold readExponent
  split
  · rename_i c more
    obtain ⟨-, -, small, large⟩ := ends c rfl
    exact if_neg fun either => either.elim small large
  · rfl

/-- A run of digits that has a zero in front only if it is zero is a number, after a sign as well. -/
theorem readNumber_of_digits {c : Char} {later rest : List Char}
    (digits : ∀ d ∈ c :: later, d.isDigit = true) (plain : c = '0' → later = [])
    (ends : EndsNumber rest) :
    readNumber (c :: later ++ rest) = some (.int (Text.numeral 10 (c :: later)), rest) ∧
      readNumber ('-' :: (c :: later ++ rest)) =
        some (.int (-(Text.numeral 10 (c :: later))), rest) := by
  have parted := splitDigits_append digits ends
  have unsigned (more : List Char) : c :: later ++ rest ≠ '-' :: more := by
    intro same
    have sign : c = '-' := (List.cons.inj same).1
    have digit := digits c List.mem_cons_self
    rw [sign] at digit
    exact absurd digit Bool.false_ne_true
  have fraction := readFraction_of_endsNumber ends
  have exponent := readExponent_of_endsNumber ends
  -- A zero in front stands alone, so the reader takes the digits for a number.
  have led {tail : List Char} (zero : c :: later = '0' :: tail) : tail = [] := by
    rw [← (List.cons.inj zero).2]
    exact plain (List.cons.inj zero).1
  constructor
  · rw [readNumber, parted]
    · simp only [fraction, exponent, Option.bind_eq_bind, Option.bind_some]
      split
      · cases ‹c :: later = []›
      · rfl
      · exact absurd (led ‹_›) ‹_›
      · rfl
    · exact unsigned
  · rw [readNumber, parted]
    simp only [fraction, exponent, Option.bind_eq_bind, Option.bind_some]
    split
    · cases ‹c :: later = []›
    · rfl
    · exact absurd (led ‹_›) ‹_›
    · rfl

/-- The decimal digits of a number are read as the number. -/
theorem readNumber_toDigits (n : Nat) {rest : List Char} (ends : EndsNumber rest) :
    readNumber (Nat.toDigits 10 n ++ rest) = some (.int n, rest) ∧
      readNumber ('-' :: (Nat.toDigits 10 n ++ rest)) = some (.int (-n), rest) := by
  have spelled := Text.numeral_toDigits n
  have digits (c : Char) := Text.isDigit_of_mem_toDigits (n := n) (c := c)
  cases written : Nat.toDigits 10 n with
  | nil => exact absurd written Nat.toDigits_ne_nil
  | cons c later =>
      have plain (zero : c = '0') : later = [] := by
        subst zero
        exact Text.toDigits_eq_cons_zero written
      rw [written] at spelled digits
      have read := readNumber_of_digits digits plain ends
      rw [spelled] at read
      exact read

/-! ## Values -/

/-- A value that is read as what it is where it was written, whatever follows that is not part of a
number. -/
def IsReadBack (v : Value) : Prop :=
  ∀ (fuel : Nat) (rest : List Char), (writeValue v).length ≤ fuel → EndsNumber rest →
    readValue fuel (writeValue v ++ rest) = some (v, rest)

theorem skipBlanks_cons {c : Char} (visible : isBlank c = false) (rest : List Char) :
    skipBlanks (c :: rest) = c :: rest :=
  List.dropWhile_cons_of_neg (by simp [visible])

/-- A text is read back. -/
theorem isReadBack_str (s : String) : IsReadBack (.str s) := by
  intro fuel rest enough ends
  have written : writeValue (.str s) ++ rest =
      '"' :: (s.toList.flatMap escapeChar ++ '"' :: rest) := by
    simp [writeValue, writeText]
  have some_ : 0 < (writeValue (.str s)).length := Nat.zero_lt_succ _
  obtain ⟨fuel, rfl⟩ := Nat.exists_eq_add_one_of_ne_zero (n := fuel) (by omega)
  rw [written, readValue, skipBlanks_cons rfl]
  dsimp only
  rw [if_pos rfl, readText_written, Option.map_some, String.ofList_toList]

/-- What starts with a digit, or with a sign that no word follows, is read as a number. -/
theorem readValue_of_number {c : Char} {later : List Char}
    (number : c.isDigit = true ∨ c = '-' ∧ later.head? ≠ some 'I') (fuel : Nat) :
    readValue (fuel + 1) (c :: later) = readNumber (c :: later) := by
  have other {d : Char} (letter : d.isDigit = false) (signless : d ≠ '-') : c ≠ d := by
    rintro rfl
    rcases number with digit | ⟨sign, -⟩
    · exact absurd (letter.symm.trans digit) Bool.false_ne_true
    · exact signless sign
  have visible : isBlank c = false := by
    simp [isBlank, other (d := ' ') rfl (by decide), other (d := '\n') rfl (by decide),
      other (d := '\r') rfl (by decide), other (d := '\t') rfl (by decide)]
  have finite : ¬(c = '-' ∧ later.head? = some 'I') := by
    rintro ⟨rfl, word⟩
    rcases number with digit | ⟨-, other⟩
    · exact absurd digit Bool.false_ne_true
    · exact other word
  rw [readValue, skipBlanks_cons visible]
  dsimp only
  rw [if_neg (other rfl (by decide)), if_neg (other rfl (by decide)), if_neg (other rfl (by decide)),
    if_neg (other rfl (by decide)), if_neg (other rfl (by decide)), if_neg (other rfl (by decide)),
    if_neg (other rfl (by decide)), if_neg (other rfl (by decide)), if_neg finite]

theorem writeValue_ofNat (n : Nat) : writeValue (.int (.ofNat n)) = Nat.toDigits 10 n :=
  Nat.toList_repr

theorem writeValue_negSucc (n : Nat) :
    writeValue (.int (.negSucc n)) = '-' :: Nat.toDigits 10 (n + 1) := by
  show ("-" ++ Nat.repr (n + 1)).toList = _
  rw [String.toList_append, Nat.toList_repr]
  rfl

/-- A whole number is read back. -/
theorem isReadBack_int (i : Int) : IsReadBack (.int i) := by
  intro fuel rest enough ends
  have first (n : Nat) : ∃ c later, Nat.toDigits 10 n = c :: later ∧ c.isDigit = true := by
    cases written : Nat.toDigits 10 n with
    | nil => exact absurd written Nat.toDigits_ne_nil
    | cons c later =>
        exact ⟨c, later, rfl, Text.isDigit_of_mem_toDigits (written ▸ List.mem_cons_self)⟩
  cases i with
  | ofNat n =>
      obtain ⟨c, later, written, digit⟩ := first n
      have read := (readNumber_toDigits n ends).1
      rw [writeValue_ofNat, written] at enough
      rw [writeValue_ofNat]
      rw [written] at read ⊢
      obtain ⟨fuel, rfl⟩ := Nat.exists_eq_add_one_of_ne_zero (Nat.ne_of_gt (Nat.zero_lt_of_lt enough))
      rw [List.cons_append, readValue_of_number (.inl digit)]
      exact read
  | negSucc n =>
      obtain ⟨c, later, written, digit⟩ := first (n + 1)
      have read := (readNumber_toDigits (n + 1) ends).2
      have noWord : (Nat.toDigits 10 (n + 1) ++ rest).head? ≠ some 'I' := by
        rw [written]
        intro word
        rw [Option.some.inj word] at digit
        exact Bool.false_ne_true digit
      rw [writeValue_negSucc] at enough ⊢
      obtain ⟨fuel, rfl⟩ := Nat.exists_eq_add_one_of_ne_zero (Nat.ne_of_gt (Nat.zero_lt_of_lt enough))
      rw [List.cons_append, readValue_of_number (.inr ⟨rfl, noWord⟩)]
      exact read

/-! ## Tables -/

/-- A field is read with the value that was written for it, and what is after it decides how the
table goes on. -/
theorem readFields_field {v : Value} (back : IsReadBack v) {fuel : Nat}
    (enough : (writeValue v).length ≤ fuel) (key : String) (done : List (String × Value))
    {rest : List Char} (ends : EndsNumber rest) :
    readFields (fuel + 1) done (writeText key ++ ':' :: (writeValue v ++ rest)) =
      match skipBlanks rest with
      | ',' :: rest => readFields fuel (Value.store key v done) rest
      | '}' :: rest => some (Value.store key v done, rest)
      | _ => none := by
  have opened : writeText key ++ ':' :: (writeValue v ++ rest) =
      '"' :: (key.toList.flatMap escapeChar ++ '"' :: ':' :: (writeValue v ++ rest)) := by
    simp [writeText]
  have named := readText_written key (':' :: (writeValue v ++ rest))
  have read := back fuel rest enough ends
  have colon : skipBlanks (':' :: (writeValue v ++ rest)) = ':' :: (writeValue v ++ rest) :=
    skipBlanks_cons rfl _
  rw [opened, readFields, skipBlanks_cons rfl]
  simp only [named, Option.bind_eq_bind, Option.bind_some, colon, read, String.ofList_toList]
  rfl

theorem endsNumber_comma (rest : List Char) : EndsNumber (',' :: rest) := by
  intro c head
  exact Option.some.inj head ▸ by decide

theorem endsNumber_brace (rest : List Char) : EndsNumber ('}' :: rest) := by
  intro c head
  exact Option.some.inj head ▸ by decide

/-- A new key goes to the end. -/
theorem store_of_new {key : String} {done : List (String × Value)}
    (new : key ∉ done.map Prod.fst) (v : Value) :
    Value.store key v done = done ++ [(key, v)] := by
  have absent : ¬done.any (·.1 == key) = true := by
    intro present
    obtain ⟨kv, among, same⟩ := List.any_eq_true.mp present
    exact new (List.mem_map.mpr ⟨kv, among, eq_of_beq same⟩)
  exact if_neg absent

/-- The fields of a table are read back up to the brace that closes it, after those that were read
before. -/
theorem readFields_writeFields {fields done : List (String × Value)} (some_ : fields ≠ [])
    (back : ∀ kv ∈ fields, IsReadBack kv.2) (apart : ((done ++ fields).map Prod.fst).Nodup)
    {fuel : Nat} (enough : (writeFields fields).length ≤ fuel) (rest : List Char) :
    readFields fuel done (writeFields fields ++ '}' :: rest) = some (done ++ fields, rest) := by
  induction fields generalizing done fuel with
  | nil => exact absurd rfl some_
  | cons kv later ih =>
      obtain ⟨key, v⟩ := kv
      have new : key ∉ done.map Prod.fst := by
        rw [List.map_append, List.nodup_append] at apart
        exact fun among => apart.2.2 key among key List.mem_cons_self rfl
      have own : IsReadBack v := back (key, v) List.mem_cons_self
      have stored := store_of_new new v
      cases later with
      | nil =>
          have written : writeFields [(key, v)] = writeText key ++ ':' :: writeValue v := by
            rw [writeFields]
          rw [written, List.length_append, List.length_cons] at enough
          obtain ⟨fuel, rfl⟩ := Nat.exists_eq_add_one_of_ne_zero (n := fuel) (by omega)
          rw [written, List.append_assoc, List.cons_append,
            readFields_field own (by omega) key done (endsNumber_brace rest), stored,
            skipBlanks_cons rfl]
          rfl
      | cons next more =>
          have written : writeFields ((key, v) :: next :: more) =
              writeText key ++ ':' :: (writeValue v ++ ',' :: writeFields (next :: more)) := by
            rw [writeFields, List.append_assoc, List.cons_append]
          rw [written, List.length_append, List.length_cons, List.length_append,
            List.length_cons] at enough
          obtain ⟨fuel, rfl⟩ := Nat.exists_eq_add_one_of_ne_zero (n := fuel) (by omega)
          have parted : done ++ (key, v) :: next :: more =
              (done ++ [(key, v)]) ++ next :: more := by simp
          rw [parted] at apart ⊢
          have enough : (writeFields (next :: more)).length ≤ fuel := by omega
          have on_ := ih (List.cons_ne_nil _ _)
            (fun kv among => back kv (List.mem_cons_of_mem _ among)) apart enough
          rw [written, List.append_assoc, List.cons_append, List.append_assoc, List.cons_append,
            readFields_field own (by omega) key done (endsNumber_comma _), stored,
            skipBlanks_cons rfl]
          exact on_

/-- A table is read back if its values are and no key stands twice. -/
theorem isReadBack_dict {fields : List (String × Value)} (back : ∀ kv ∈ fields, IsReadBack kv.2)
    (apart : (fields.map Prod.fst).Nodup) : IsReadBack (.dict fields) := by
  intro fuel rest enough ends
  have written : writeValue (.dict fields) = '{' :: (writeFields fields ++ ['}']) := by
    rw [writeValue, List.cons_append]
  rw [written, List.length_cons, List.length_append] at enough
  obtain ⟨fuel, rfl⟩ := Nat.exists_eq_add_one_of_ne_zero (n := fuel) (by omega)
  rw [written, List.cons_append, List.append_assoc, List.singleton_append, readValue,
    skipBlanks_cons rfl]
  dsimp only
  rw [if_neg (by decide), if_neg (by decide), if_pos rfl]
  cases fields with
  | nil => rfl
  | cons kv later =>
      have enough : (writeFields (kv :: later)).length ≤ fuel := by omega
      have apart : (([] ++ kv :: later).map Prod.fst).Nodup := apart
      have read := readFields_writeFields (List.cons_ne_nil kv later) back apart enough rest
      obtain ⟨key, v⟩ := kv
      -- The first field opens with a quote, so the reader does not take the table for an empty one.
      obtain ⟨more, opened⟩ : ∃ more, writeFields ((key, v) :: later) = '"' :: more := by
        cases later <;> exact ⟨_, rfl⟩
      rw [opened, List.cons_append] at read ⊢
      rw [skipBlanks_cons rfl]
      show (readFields fuel [] _).map _ = _
      rw [read]
      rfl

/-- What is written of a value that is read back is read as the value. -/
theorem IsReadBack.read? {v : Value} (back : IsReadBack v) : read? (write v) = some v := by
  have ends : EndsNumber [] := fun c none_ => nomatch none_
  have read := back (2 * (writeValue v).length + 2) [] (by omega) ends
  rw [List.append_nil] at read
  rw [Json.read?, write, String.toList_ofList]
  simp only [read, Option.bind_eq_bind, Option.bind_some]
  rfl

/-! ## One line -/

/-- No character below the space stands in a text, so that it is one line. -/
def IsOneLine (cs : List Char) : Prop :=
  ∀ c ∈ cs, ' ' ≤ c

@[simp] theorem isOneLine_nil : IsOneLine [] := nofun

@[simp] theorem isOneLine_cons {c : Char} {cs : List Char} :
    IsOneLine (c :: cs) ↔ ' ' ≤ c ∧ IsOneLine cs :=
  List.forall_mem_cons

@[simp] theorem isOneLine_append {cs ds : List Char} :
    IsOneLine (cs ++ ds) ↔ IsOneLine cs ∧ IsOneLine ds :=
  List.forall_mem_append

theorem le_of_isDigit {c : Char} (digit : c.isDigit = true) : ' ' ≤ c := by
  have range : '0' ≤ c ∧ c ≤ '9' := by
    simpa [Char.isDigit, Char.le_def] using digit
  exact Char.le_trans (by decide) range.1

theorem isOneLine_hexDigits (width n : Nat) : IsOneLine (Text.hexDigits width n) := by
  induction width generalizing n with
  | zero => exact isOneLine_nil
  | succ width ih =>
      have digit : ∀ m < 16, ' ' ≤ Nat.digitChar m := by decide
      rw [Text.hexDigits, isOneLine_append, isOneLine_cons]
      exact ⟨ih _, digit _ (Nat.mod_lt n (by decide)), isOneLine_nil⟩

/-- Whatever would break a line is escaped. -/
theorem isOneLine_escapeChar (c : Char) : IsOneLine (escapeChar c) := by
  have short {d : Char} (visible : ' ' ≤ d) : IsOneLine ['\\', d] := by
    rw [isOneLine_cons, isOneLine_cons]
    exact ⟨by decide, visible, isOneLine_nil⟩
  rw [escapeChar]
  repeat' split
  · exact short (by decide)
  · exact short (by decide)
  · exact isOneLine_cons.mpr ⟨‹0x20 ≤ c.val›, isOneLine_nil⟩
  · exact short (by decide)
  · exact short (by decide)
  · exact short (by decide)
  · exact short (by decide)
  · exact short (by decide)
  · rw [isOneLine_cons, isOneLine_cons]
    exact ⟨by decide, by decide, isOneLine_hexDigits 4 c.toNat⟩

theorem isOneLine_writeText (s : String) : IsOneLine (writeText s) := by
  have inside : IsOneLine (s.toList.flatMap escapeChar) := by
    intro d among
    obtain ⟨c, -, within⟩ := List.mem_flatMap.mp among
    exact isOneLine_escapeChar c d within
  rw [writeText, isOneLine_append, isOneLine_cons]
  exact ⟨⟨by decide, inside⟩, isOneLine_cons.mpr ⟨by decide, isOneLine_nil⟩⟩

theorem isOneLine_int (i : Int) : IsOneLine (writeValue (.int i)) := by
  have digits (n : Nat) : IsOneLine (Nat.toDigits 10 n) := fun c among =>
    le_of_isDigit (Text.isDigit_of_mem_toDigits among)
  cases i with
  | ofNat n =>
      rw [writeValue_ofNat]
      exact digits n
  | negSucc n =>
      rw [writeValue_negSucc, isOneLine_cons]
      exact ⟨by decide, digits (n + 1)⟩

/-- The fields of a table are one line if their values are. -/
theorem isOneLine_writeFields {fields : List (String × Value)}
    (values : ∀ kv ∈ fields, IsOneLine (writeValue kv.2)) : IsOneLine (writeFields fields) := by
  induction fields with
  | nil => exact isOneLine_nil
  | cons kv later ih =>
      obtain ⟨key, v⟩ := kv
      have own : IsOneLine (writeValue v) := values (key, v) List.mem_cons_self
      have others := ih fun kv among => values kv (List.mem_cons_of_mem _ among)
      have colon : ' ' ≤ ':' := by decide
      have comma : ' ' ≤ ',' := by decide
      cases later with
      | nil =>
          rw [writeFields, isOneLine_append, isOneLine_cons]
          exact ⟨isOneLine_writeText key, colon, own⟩
      | cons next more =>
          rw [writeFields, isOneLine_append, isOneLine_append, isOneLine_cons, isOneLine_cons]
          exact ⟨⟨isOneLine_writeText key, colon, own⟩, comma, others⟩

/-- A table is one line if its values are. -/
theorem isOneLine_dict {fields : List (String × Value)}
    (values : ∀ kv ∈ fields, IsOneLine (writeValue kv.2)) :
    IsOneLine (writeValue (.dict fields)) := by
  rw [writeValue, isOneLine_append, isOneLine_cons, isOneLine_cons]
  exact ⟨⟨by decide, isOneLine_writeFields values⟩, by decide, isOneLine_nil⟩

end AddonPicker.Json
