import Mathlib.Algebra.Group.Nat.Defs
import AddonPicker.Text.Numeral
import AddonPicker.Text.Quoted

/-!
# Numerals that are read back

The decimal digits of a number and its hexadecimal digits of a fixed width are both read as the
number that they were written for.
-/

namespace AddonPicker.Text

/-- A decimal digit counts for as much as it is past the digit zero. -/
theorem hexValue?_of_isDigit {c : Char} (digit : c.isDigit = true) :
    hexValue? c = some (c.toNat - '0'.toNat) := by
  have range : '0' ≤ c ∧ c ≤ '9' := by
    simpa [Char.isDigit, Char.le_def] using digit
  exact if_pos range

/-- A run of decimal digits is the number that it spells. -/
theorem numeral_ten {cs : List Char} (digits : ∀ c ∈ cs, c.isDigit = true) :
    numeral 10 cs = Nat.ofDigitChars 10 cs 0 := by
  suffices same : ∀ n, cs.foldl (fun n c => n * 10 + (hexValue? c).getD 0) n =
      Nat.ofDigitChars 10 cs n from same 0
  induction cs with
  | nil => exact fun _ => rfl
  | cons c later ih =>
      intro n
      have first := hexValue?_of_isDigit (digits c List.mem_cons_self)
      rw [List.foldl_cons, Nat.ofDigitChars_cons, first, Option.getD_some, Nat.mul_comm]
      exact ih (fun c among => digits c (List.mem_cons_of_mem _ among)) _

theorem isDigit_of_mem_toDigits {n : Nat} {c : Char} (among : c ∈ Nat.toDigits 10 n) :
    c.isDigit = true :=
  Nat.isDigit_of_mem_toDigits (by decide) (by decide) among

/-- The decimal digits of a number are read as the number. -/
theorem numeral_toDigits (n : Nat) : numeral 10 (Nat.toDigits 10 n) = n := by
  rw [numeral_ten fun c among => isDigit_of_mem_toDigits among, Nat.ofDigitChars_ten_toDigits]

/-- Only zero is written with a zero in front. -/
theorem toDigits_eq_cons_zero {n : Nat} {later : List Char}
    (digits : Nat.toDigits 10 n = '0' :: later) : later = [] := by
  induction n using Nat.strongRecOn generalizing later with
  | _ n ih =>
      rw [Nat.toDigits_eq_if (by decide)] at digits
      split at digits
      · exact (List.cons.inj digits).2.symm
      · rename_i large
        have positive : 0 < n / 10 := Nat.div_pos (by omega) (by decide)
        cases front : Nat.toDigits 10 (n / 10) with
        | nil => exact absurd front Nat.toDigits_ne_nil
        | cons c rest =>
            rw [front, List.cons_append, List.cons.injEq] at digits
            -- A number that starts with a zero and has nothing after it is zero.
            have alone : rest = [] := ih (n / 10) (by omega) (digits.1 ▸ front)
            have zero : n / 10 = 0 := by
              rw [← numeral_toDigits (n / 10), front, alone, digits.1]
              rfl
            omega

theorem hexValue?_hexDigit (n : Nat) : hexValue? (hexDigit n) = some (n % 16) := by
  have bound : n % 16 < 16 := Nat.mod_lt n (by decide)
  rw [hexDigit]
  generalize n % 16 = m at bound
  revert m
  decide

theorem length_hexDigits (width n : Nat) : (hexDigits width n).length = width := by
  induction width generalizing n with
  | zero => rfl
  | succ width ih => rw [hexDigits, List.length_append, ih, List.length_singleton]

theorem isDigitOf_hexDigits {width n : Nat} {c : Char} (among : c ∈ hexDigits width n) :
    isDigitOf 16 c = true := by
  induction width generalizing n with
  | zero => exact absurd among List.not_mem_nil
  | succ width ih =>
      rw [hexDigits, List.mem_append, List.mem_singleton] at among
      rcases among with before | rfl
      · exact ih before
      · rw [isDigitOf, hexValue?_hexDigit]
        simpa using Nat.mod_lt n (by decide)

/-- Hexadecimal digits are the number up to their width. -/
theorem numeral_hexDigits (width n : Nat) : numeral 16 (hexDigits width n) = n % 16 ^ width := by
  induction width generalizing n with
  | zero => rw [Nat.pow_zero, Nat.mod_one]; rfl
  | succ width ih =>
      have last : numeral 16 (hexDigits (width + 1) n) =
          numeral 16 (hexDigits width (n / 16)) * 16 + n % 16 := by
        rw [hexDigits, numeral, List.foldl_append, List.foldl_cons, List.foldl_nil,
          hexValue?_hexDigit]
        rfl
      rw [last, ih, Nat.pow_succ, Nat.mul_comm (16 ^ width), Nat.mod_mul]
      omega

/-- A number is read from its hexadecimal digits if it has no more of them. -/
theorem readNumeral_hexDigits {width n : Nat} (fits : n < 16 ^ width) (rest : List Char) :
    readNumeral 16 width (hexDigits width n ++ rest) = some (n, rest) := by
  have taken : (hexDigits width n ++ rest).take width = hexDigits width n :=
    List.take_left' (length_hexDigits width n)
  have left : (hexDigits width n ++ rest).drop width = rest :=
    List.drop_left' (length_hexDigits width n)
  have digits : (hexDigits width n).all (isDigitOf 16) = true :=
    List.all_eq_true.mpr fun c among => isDigitOf_hexDigits among
  rw [readNumeral, taken, left, if_pos ⟨length_hexDigits width n, digits⟩, numeral_hexDigits,
    Nat.mod_eq_of_lt fits]

end AddonPicker.Text
