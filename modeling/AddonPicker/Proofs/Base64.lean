import AddonPicker.Base64

/-!
# Reading back what was written in Base64

Bytes are read back from their text, whatever their number leaves over in the last group.
-/

namespace AddonPicker.Base64

variable {n carried padding read : Nat} {a : UInt8} {rest : List Char}

theorem symbol_ne_padding : ∀ n < 64, symbol n ≠ '=' := by decide

theorem symbol_isAscii : ∀ n < 64, (symbol n).val < 0x80 := by decide

/-! ### One character of a group

Each but the first completes a byte, of which the last one left the upper bits. -/

theorem decodeFrom_first (small : n < 64) :
    decodeFrom ⟨0, carried, padding⟩ read (symbol n :: rest) = decodeFrom ⟨1, n, 0⟩ read rest := by
  rw [decodeFrom, if_neg (symbol_ne_padding n small), number?_symbol n small]
  rfl

theorem decodeFrom_second (small : n < 64) (byte : carried * 4 + n / 16 = a.toNat) :
    decodeFrom ⟨1, carried, padding⟩ read (symbol n :: rest) =
      (decodeFrom ⟨2, n % 16, 0⟩ (read + 1) rest).map (a :: ·) := by
  rw [decodeFrom, if_neg (symbol_ne_padding n small), number?_symbol n small]
  simp [byte]

theorem decodeFrom_third (small : n < 64) (byte : carried * 16 + n / 4 = a.toNat) :
    decodeFrom ⟨2, carried, padding⟩ read (symbol n :: rest) =
      (decodeFrom ⟨3, n % 4, 0⟩ (read + 1) rest).map (a :: ·) := by
  rw [decodeFrom, if_neg (symbol_ne_padding n small), number?_symbol n small]
  simp [byte]

theorem decodeFrom_fourth (small : n < 64) (byte : carried * 64 + n = a.toNat) :
    decodeFrom ⟨3, carried, padding⟩ read (symbol n :: rest) =
      (decodeFrom ⟨0, 0, 0⟩ (read + 1) rest).map (a :: ·) := by
  rw [decodeFrom, if_neg (symbol_ne_padding n small), number?_symbol n small]
  simp [byte]

/-- Read from the start of a group, the text of some bytes is those bytes. -/
theorem decodeFrom_encode (bytes : List UInt8) (read : Nat) :
    decodeFrom .start read (encode bytes) = .ok bytes := by
  induction bytes using encode.induct generalizing read with
  | case1 a b c rest ih =>
      have boundA := a.toNat_lt
      have boundB := b.toNat_lt
      have boundC := c.toNat_lt
      have next := ih (read + 1 + 1 + 1)
      rw [encode, Position.start, decodeFrom_first (by omega),
        decodeFrom_second (a := a) (by omega) (by omega),
        decodeFrom_third (a := b) (by omega) (by omega),
        decodeFrom_fourth (a := c) (by omega) (by omega), ← Position.start, next]
      rfl
  | case2 a b =>
      have boundA := a.toNat_lt
      have boundB := b.toNat_lt
      rw [encode, Position.start, decodeFrom_first (by omega),
        decodeFrom_second (a := a) (by omega) (by omega),
        decodeFrom_third (a := b) (by omega) (by omega)]
      rfl
  | case3 a =>
      have boundA := a.toNat_lt
      rw [encode, Position.start, decodeFrom_first (by omega),
        decodeFrom_second (a := a) (by omega) (by omega)]
      rfl
  | case4 => rfl

/-- The text of some bytes is ASCII. -/
theorem encode_isAscii (bytes : List UInt8) : ∀ c ∈ encode bytes, c.val < 0x80 := by
  have padding : ('=').val < 0x80 := by decide
  induction bytes using encode.induct with
  | case1 a b c rest ih =>
      have boundA := a.toNat_lt
      have boundB := b.toNat_lt
      have boundC := c.toNat_lt
      rw [encode]
      simp only [List.forall_mem_cons]
      exact ⟨symbol_isAscii _ (by omega), symbol_isAscii _ (by omega), symbol_isAscii _ (by omega),
        symbol_isAscii _ (by omega), ih⟩
  | case2 a b =>
      have boundA := a.toNat_lt
      have boundB := b.toNat_lt
      rw [encode]
      simp only [List.forall_mem_cons]
      exact ⟨symbol_isAscii _ (by omega), symbol_isAscii _ (by omega), symbol_isAscii _ (by omega),
        padding, List.forall_mem_nil _⟩
  | case3 a =>
      have boundA := a.toNat_lt
      rw [encode]
      simp only [List.forall_mem_cons]
      exact ⟨symbol_isAscii _ (by omega), symbol_isAscii _ (by omega), padding, padding,
        List.forall_mem_nil _⟩
  | case4 => exact List.forall_mem_nil _

/-- Bytes are read back from their text. -/
theorem decode_encode (bytes : List UInt8) : decode (String.ofList (encode bytes)) = .ok bytes := by
  have ascii : (encode bytes).all (·.val < 0x80) = true := by
    simpa using encode_isAscii bytes
  rw [decode, String.toList_ofList, if_pos ascii]
  exact decodeFrom_encode bytes 0

end AddonPicker.Base64
