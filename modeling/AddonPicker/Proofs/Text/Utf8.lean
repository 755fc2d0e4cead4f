import AddonPicker.Text.Utf8

/-!
# Text in UTF-8

Octets are read as a text exactly if they are the forms of its characters, one after the other.
-/

namespace AddonPicker.Utf8

variable {b : UInt8} {c : Char} {form octets : List UInt8} {least n y : Nat} {text : List Char}

/-- An octet continues a character with the six bits below its mark. -/
theorem continuation?_eq_some_iff : continuation? b = some y ↔ b.toNat = y + 0x80 ∧ y < 0x40 := by
  simp only [continuation?, UInt8.le_iff_toNat_le, UInt8.lt_iff_toNat_lt, UInt8.reduceToNat]
  split
  · simp only [Option.some.injEq]
    omega
  · simp only [reduceCtorEq, false_iff]
    omega

/-- The number of a character is the one it was made of. -/
theorem toNat_ofNat (valid : n.isValidChar) : (Char.ofNat n).toNat = n := by
  rw [Char.ofNat, dif_pos valid]
  rfl

theorem character?_eq_some_iff : character? least n = some c ↔ c.val.toNat = n ∧ least ≤ n := by
  rw [character?]
  constructor
  · intro found
    split at found
    · rename_i proper
      cases found
      exact ⟨toNat_ofNat proper.2, proper.1⟩
    · cases found
  · rintro ⟨rfl, proper⟩
    rw [if_pos ⟨proper, c.valid⟩]
    exact congrArg some c.ofNat_toNat

theorem eq_ofNat_iff (small : n < 0x100) : b = UInt8.ofNat n ↔ b.toNat = n := by
  rw [← UInt8.toNat_inj, UInt8.toNat_ofNat', Nat.mod_eq_of_lt small]

/-- Octets that are read as one character. -/
inductive Spells : List UInt8 → Char → Prop
  | one {a : UInt8} {c : Char} (upper : a < 0x80) (number : Char.ofNat a.toNat = c) : Spells [a] c
  | two {a b : UInt8} {y : Nat} {c : Char} (lower : ¬a < 0xc0) (upper : a < 0xe0)
      (first : continuation? b = some y)
      (number : character? 0x80 ((a.toNat - 0xc0) * 0x40 + y) = some c) : Spells [a, b] c
  | three {a b b' : UInt8} {y z : Nat} {c : Char} (lower : ¬a < 0xe0) (upper : a < 0xf0)
      (first : continuation? b = some y) (second : continuation? b' = some z)
      (number : character? 0x800 (((a.toNat - 0xe0) * 0x40 + y) * 0x40 + z) = some c) :
      Spells [a, b, b'] c
  | four {a b b' b'' : UInt8} {x y z : Nat} {c : Char} (lower : ¬a < 0xf0) (upper : a < 0xf8)
      (first : continuation? b = some x) (second : continuation? b' = some y)
      (third : continuation? b'' = some z)
      (number : character? 0x10000 ((((a.toNat - 0xf0) * 0x40 + x) * 0x40 + y) * 0x40 + z) =
        some c) : Spells [a, b, b', b''] c

/-- What is read as a character is its form. -/
theorem Spells.eq_utf8EncodeChar (spells : Spells form c) : form = String.utf8EncodeChar c := by
  cases spells with
  | one upper number =>
      rename_i a
      simp only [UInt8.lt_iff_toNat_lt, UInt8.reduceToNat] at upper
      have number : c.val.toNat = a.toNat := by
        rw [← number]
        exact toNat_ofNat (.inl (by omega))
      rw [String.utf8EncodeChar, if_pos (by omega), number, UInt8.ofNat_toNat]
  | two lower upper first number =>
      simp only [UInt8.lt_iff_toNat_lt, UInt8.reduceToNat] at lower upper
      obtain ⟨first, small⟩ := continuation?_eq_some_iff.mp first
      obtain ⟨number, least⟩ := character?_eq_some_iff.mp number
      rw [String.utf8EncodeChar, if_neg (by omega), if_pos (by omega)]
      simp only [List.cons.injEq, and_true]
      rw [eq_ofNat_iff (by omega), eq_ofNat_iff (by omega)]
      omega
  | three lower upper first second number =>
      simp only [UInt8.lt_iff_toNat_lt, UInt8.reduceToNat] at lower upper
      obtain ⟨first, small⟩ := continuation?_eq_some_iff.mp first
      obtain ⟨second, small'⟩ := continuation?_eq_some_iff.mp second
      obtain ⟨number, least⟩ := character?_eq_some_iff.mp number
      rw [String.utf8EncodeChar, if_neg (by omega), if_neg (by omega), if_pos (by omega)]
      simp only [List.cons.injEq, and_true]
      rw [eq_ofNat_iff (by omega), eq_ofNat_iff (by omega), eq_ofNat_iff (by omega)]
      omega
  | four lower upper first second third number =>
      simp only [UInt8.lt_iff_toNat_lt, UInt8.reduceToNat] at lower upper
      obtain ⟨first, small⟩ := continuation?_eq_some_iff.mp first
      obtain ⟨second, small'⟩ := continuation?_eq_some_iff.mp second
      obtain ⟨third, small''⟩ := continuation?_eq_some_iff.mp third
      obtain ⟨number, least⟩ := character?_eq_some_iff.mp number
      rw [String.utf8EncodeChar, if_neg (by omega), if_neg (by omega), if_neg (by omega)]
      simp only [List.cons.injEq, and_true]
      rw [eq_ofNat_iff (by omega), eq_ofNat_iff (by omega), eq_ofNat_iff (by omega),
        eq_ofNat_iff (by omega)]
      omega

/-- The octet above a mark that holds the lower part of a number. -/
theorem toNat_mark (mark limit : Nat) {n : Nat} (fits : mark + limit ≤ 0x100) (small : n < limit) :
    (UInt8.ofNat (n + mark)).toNat = n + mark :=
  (eq_ofNat_iff (by omega)).mp rfl

theorem continuation?_ofNat (n : Nat) :
    continuation? (UInt8.ofNat (n % 0x40 + 0x80)) = some (n % 0x40) := by
  have small := Nat.mod_lt n (by decide : 0x40 > 0)
  exact continuation?_eq_some_iff.mpr ⟨toNat_mark 0x80 0x40 (by decide) small, small⟩

/-- The form of a character is read as it. -/
theorem spells_utf8EncodeChar (c : Char) : Spells (String.utf8EncodeChar c) c := by
  have valid := c.valid
  simp only [UInt32.isValidChar, Nat.isValidChar] at valid
  rw [String.utf8EncodeChar]
  split
  · refine .one ?_ ?_
    · simp only [UInt8.lt_iff_toNat_lt, UInt8.reduceToNat, UInt8.toNat_ofNat']
      omega
    · rw [(eq_ofNat_iff (by omega)).mp rfl]
      exact c.ofNat_toNat
  split
  · have lead := toNat_mark 0xc0 0x20 (by decide) (Nat.mod_lt (c.val.toNat / 64) (by decide))
    refine .two ?_ ?_ (continuation?_ofNat _) (character?_eq_some_iff.mpr ?_)
    · simp only [UInt8.lt_iff_toNat_lt, UInt8.reduceToNat, lead]
      omega
    · simp only [UInt8.lt_iff_toNat_lt, UInt8.reduceToNat, lead]
      omega
    · rw [lead]
      omega
  split
  · have lead := toNat_mark 0xe0 0x10 (by decide) (Nat.mod_lt (c.val.toNat / 4096) (by decide))
    refine .three ?_ ?_ (continuation?_ofNat _) (continuation?_ofNat _)
      (character?_eq_some_iff.mpr ?_)
    · simp only [UInt8.lt_iff_toNat_lt, UInt8.reduceToNat, lead]
      omega
    · simp only [UInt8.lt_iff_toNat_lt, UInt8.reduceToNat, lead]
      omega
    · rw [lead]
      omega
  · have lead := toNat_mark 0xf0 0x08 (by decide) (Nat.mod_lt (c.val.toNat / 262144) (by decide))
    refine .four ?_ ?_ (continuation?_ofNat _) (continuation?_ofNat _) (continuation?_ofNat _)
      (character?_eq_some_iff.mpr ?_)
    · simp only [UInt8.lt_iff_toNat_lt, UInt8.reduceToNat, lead]
      omega
    · simp only [UInt8.lt_iff_toNat_lt, UInt8.reduceToNat, lead]
      omega
    · rw [lead]
      omega

/-- The form of a character is read as that character, and reading goes on behind it. -/
theorem Spells.decode?_append (spells : Spells form c) (rest : List UInt8) :
    decode? (form ++ rest) = (decode? rest).map (c :: ·) := by
  cases spells with
  | one upper number =>
      rw [List.singleton_append, decode?.eq_def]
      simp only [upper, number, if_true]
      cases decode? rest <;> rfl
  | @two a _ _ _ lower upper first number =>
      have low : ¬a < 0x80 := by grind
      rw [List.cons_append, List.singleton_append, decode?.eq_def]
      simp only [low, lower, upper, first, if_true, if_false, Option.bind_eq_bind,
        Option.bind_some, number]
      cases decode? rest <;> rfl
  | @three a _ _ _ _ _ lower upper first second number =>
      have low : ¬a < 0x80 := by grind
      have low' : ¬a < 0xc0 := by grind
      rw [List.cons_append, List.cons_append, List.singleton_append, decode?.eq_def]
      simp only [low, low', lower, upper, first, second, if_true, if_false, Option.bind_eq_bind,
        Option.bind_some, number]
      cases decode? rest <;> rfl
  | @four a _ _ _ _ _ _ _ lower upper first second third number =>
      have low : ¬a < 0x80 := by grind
      have low' : ¬a < 0xc0 := by grind
      have low'' : ¬a < 0xe0 := by grind
      rw [List.cons_append, List.cons_append, List.cons_append, List.singleton_append,
        decode?.eq_def]
      simp only [low, low', low'', lower, upper, first, second, third, if_true, if_false,
        Option.bind_eq_bind, Option.bind_some, number]
      cases decode? rest <;> rfl

/-- A text that is read starts with the character that is read first. -/
theorem exists_spells_of_decode? {a : UInt8} (read : decode? (a :: octets) = some text) :
    ∃ form c rest text', a :: octets = form ++ rest ∧ text = c :: text' ∧ Spells form c ∧
      decode? rest = some text' := by
  rw [decode?.eq_def] at read
  simp only [Option.bind_eq_bind, Option.pure_def] at read
  split at read
  · rename_i upper
    obtain ⟨text', tail, same⟩ := Option.bind_eq_some_iff.mp read
    cases same
    exact ⟨[a], _, octets, text', rfl, rfl, .one upper rfl, tail⟩
  split at read
  · cases read
  rename_i lower
  split at read
  · rename_i upper
    split at read
    · simp only [Option.bind_eq_some_iff] at read
      obtain ⟨y, first, c, number, text', tail, same⟩ := read
      cases same
      exact ⟨[a, _], c, _, text', rfl, rfl, .two lower upper first number, tail⟩
    · cases read
  rename_i lower
  split at read
  · rename_i upper
    split at read
    · simp only [Option.bind_eq_some_iff] at read
      obtain ⟨y, first, z, second, c, number, text', tail, same⟩ := read
      cases same
      exact ⟨[a, _, _], c, _, text', rfl, rfl, .three lower upper first second number, tail⟩
    · cases read
  rename_i lower
  split at read
  · rename_i upper
    split at read
    · simp only [Option.bind_eq_some_iff] at read
      obtain ⟨x, first, y, second, z, third, c, number, text', tail, same⟩ := read
      cases same
      exact ⟨[a, _, _, _], c, _, text', rfl, rfl, .four lower upper first second third number, tail⟩
    · cases read
  · cases read

/-- A text is read back from the forms of its characters. -/
theorem decode?_flatMap (text : List Char) :
    decode? (text.flatMap String.utf8EncodeChar) = some text := by
  induction text with
  | nil => rfl
  | cons c text ih =>
      rw [List.flatMap_cons, (spells_utf8EncodeChar c).decode?_append, ih]
      rfl

/-- Octets are read as a text if they are the forms of its characters. -/
theorem decode?_eq_some_iff :
    decode? octets = some text ↔ octets = text.flatMap String.utf8EncodeChar := by
  constructor
  · intro read
    induction text generalizing octets with
    | nil =>
        cases octets with
        | nil => rfl
        | cons a octets =>
            obtain ⟨form, c, rest, text', -, same, -⟩ := exists_spells_of_decode? read
            cases same
    | cons c text ih =>
        cases octets with
        | nil => cases read
        | cons a octets =>
            obtain ⟨form, c', rest, text', split, same, spells, tail⟩ :=
              exists_spells_of_decode? read
            cases same
            rw [split, List.flatMap_cons, ← spells.eq_utf8EncodeChar, ← ih tail]
  · rintro rfl
    exact decode?_flatMap text

end AddonPicker.Utf8
