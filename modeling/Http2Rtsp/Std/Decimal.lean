import Http2Rtsp.Std.Bytes

/-!
# Decimal numbers in texts

What `%d` writes, and what it reads of it again. A number is written in digits
and perhaps a sign, so nothing else ends it; two numbers which are written alike
are the same one.
-/

namespace Http2Rtsp.Std

/-- A run of digits, which is not empty. -/
structure Digits where
  bytes : List UInt8
  nonempty : bytes ≠ []
  numeric : ∀ digit ∈ bytes, isDigit digit = true

/-- Its value. -/
def Digits.value (digits : Digits) : Nat := digitsValue digits.bytes

/-- The byte of a digit of a natural number. -/
theorem digitByte {char : Char} (digit : char.isDigit = true) :
    isDigit char.toNat.toUInt8 = true ∧ char.toNat.toUInt8.toNat = char.toNat := by
  simp only [Char.isDigit, Bool.and_eq_true, decide_eq_true_eq, UInt32.le_iff_toNat_le] at digit
  have bounds : 48 ≤ char.toNat ∧ char.toNat ≤ 57 := digit
  have small : char.toNat.toUInt8.toNat = char.toNat := by
    rw [UInt8.toNat_ofNat', Nat.mod_eq_of_lt (by omega)]
  refine ⟨?_, small⟩
  simp only [isDigit, Bool.and_eq_true, decide_eq_true_eq, UInt8.le_iff_toNat_le, small]
  exact bounds

/-- The digits a natural number is written with. -/
def digitsOf (value : Nat) : Digits where
  bytes := (Nat.toDigits 10 value).map fun digit => digit.toNat.toUInt8
  nonempty := by simp [Nat.toDigits_ne_nil]
  numeric digit member := by
    obtain ⟨char, occurs, rfl⟩ := List.mem_map.mp member
    exact (digitByte (Nat.isDigit_of_mem_toDigits (by omega) (by omega) occurs)).1

/-- They are read as that number. -/
theorem value_digitsOf (value : Nat) : (digitsOf value).value = value := by
  have read : ∀ (chars : List Char) (start : Nat), (∀ char ∈ chars, char.isDigit = true) →
      (chars.map fun digit => digit.toNat.toUInt8).foldl
        (fun value digit => value * 10 + (digit.toNat - 48)) start =
      Nat.ofDigitChars 10 chars start := by
    intro chars
    induction chars with
    | nil => simp
    | cons char rest ih =>
        intro start digits
        rw [List.map_cons, List.foldl_cons, Nat.ofDigitChars_cons,
          (digitByte (digits char List.mem_cons_self)).2, Nat.mul_comm]
        exact ih _ fun later member => digits later (List.mem_cons_of_mem char member)
  have digits : ∀ char ∈ Nat.toDigits 10 value, char.isDigit = true := fun char occurs =>
    Nat.isDigit_of_mem_toDigits (by omega) (by omega) occurs
  exact (read _ 0 digits).trans Nat.ofDigitChars_ten_toDigits

theorem decimal_eq (value : Int) :
    decimal value = (if value < 0 then [45] else []) ++ (digitsOf value.natAbs).bytes := rfl

/-- What may occur in a number. -/
theorem mem_decimal {value : Int} {byte : UInt8} (member : byte ∈ decimal value) :
    byte = 45 ∨ isDigit byte = true := by
  rw [decimal_eq] at member
  rcases List.mem_append.mp member with sign | digit
  · split at sign
    · exact Or.inl (List.mem_singleton.mp sign)
    · cases sign
  · exact Or.inr ((digitsOf _).numeric byte digit)

/-- An `int`. -/
def IsInt (value : Int) : Prop := -2 ^ 31 ≤ value ∧ value < 2 ^ 31

theorem toInt32_isInt (value : Int) : IsInt (toInt32 value) := by
  have high := @Int.bmod_lt value (2 ^ 32) (by omega)
  have low := @Int.le_bmod value (2 ^ 32) (by omega)
  unfold IsInt toInt32
  omega

/-- A sign and ten digits are enough for an `int`. -/
theorem length_decimal {value : Int} (bounds : IsInt value) : (decimal value).length ≤ 11 := by
  have digits : (Nat.toDigits 10 value.natAbs).length ≤ 10 := by
    rw [Nat.length_toDigits_le_iff (by omega) (by omega)]
    have := bounds.1
    have := bounds.2
    omega
  unfold decimal
  split <;> simp <;> omega

/-- A number is written without line ends. -/
theorem decimal_no_cr (value : Int) : 13 ∉ decimal value := by
  intro member
  rcases mem_decimal member with sign | digit
  · cases sign
  · cases digit

theorem decimal_noNul (value : Int) : 0 ∉ decimal value := by
  intro member
  rcases mem_decimal member with sign | digit
  · cases sign
  · cases digit

/-- What follows a run of digits is not read with it. -/
theorem scanSet_digits (digits : Digits) {rest : List UInt8}
    (ends : ∀ byte ∈ rest.head?, isDigit byte = false) :
    scanSet isDigit (digits.bytes ++ rest) = some digits.bytes := by
  have run : (digits.bytes ++ rest).takeWhile isDigit = digits.bytes := by
    rw [List.takeWhile_append_of_pos digits.numeric]
    cases rest with
    | nil => simp
    | cons byte rest => simp [ends byte rfl]
  rw [scanSet, run, if_neg digits.nonempty]

/-- A run of digits begins neither with a blank nor with a sign. -/
theorem digits_begin (digits : Digits) (rest : List UInt8) :
    skipSpace (digits.bytes ++ rest) = digits.bytes ++ rest ∧
      signOf (digits.bytes ++ rest) = (1, digits.bytes ++ rest) := by
  obtain ⟨first, tail, bytes⟩ := List.exists_cons_of_ne_nil digits.nonempty
  have digit := digits.numeric first (by simp [bytes])
  simp only [isDigit, Bool.and_eq_true, decide_eq_true_eq, UInt8.le_iff_toNat_le] at digit
  have plain : isSpace first = false := by
    simp only [isSpace, Bool.or_eq_false_iff, Bool.and_eq_false_iff, decide_eq_false_iff_not,
      UInt8.le_iff_toNat_le, ← UInt8.toNat_inj]
    simp at digit ⊢
    omega
  have unsigned : first ≠ 45 ∧ first ≠ 43 := by
    simp only [ne_eq, ← UInt8.toNat_inj]
    simp at digit ⊢
    omega
  rw [bytes]
  constructor
  · simp [skipSpace, plain]
  · unfold signOf
    split
    · rename_i front found
      exact absurd (List.cons.inj found).1 unsigned.1
    · rename_i front found
      exact absurd (List.cons.inj found).1 unsigned.2
    · rfl

/-- What `%d` makes of a run of digits. -/
theorem scanInt_digits_eq (digits : Digits) {rest : List UInt8}
    (ends : ∀ byte ∈ rest.head?, isDigit byte = false) :
    scanInt (digits.bytes ++ rest) = some (toInt32 (clampLong digits.value)) := by
  obtain ⟨begins, unsigned⟩ := digits_begin digits rest
  rw [scanInt, begins, unsigned]
  simp only [scanSet_digits digits ends, Option.map_some, Int.one_mul]
  rfl

/-- It is its value, when that fits an `int`. -/
theorem int_of_value {value : Nat} : toInt32 (clampLong value) = value ↔ value < 2 ^ 31 := by
  constructor
  · intro same
    have bound := @Int.bmod_lt (clampLong value) (2 ^ 32) (by omega)
    rw [toInt32] at same
    omega
  · intro fits
    have clamped : clampLong value = value := by
      unfold clampLong
      omega
    rw [clamped, toInt32_of_bounds (by omega) (by omega)]

/-- What `%d` makes of a number which fits an `int`, behind one blank and in front of a line end. -/
theorem scanInt_digits (digits : Digits) (rest : List UInt8) (fits : digits.value < 2 ^ 31) :
    scanInt (32 :: digits.bytes ++ crlf ++ rest) = some (digits.value : Int) := by
  have skipped : scanInt (32 :: digits.bytes ++ crlf ++ rest) =
      scanInt (digits.bytes ++ (crlf ++ rest)) := by
    have blank : isSpace 32 = true := rfl
    simp only [scanInt, skipSpace, List.cons_append, List.append_assoc, List.dropWhile_cons, blank,
      if_true]
  rw [skipped, scanInt_digits_eq digits (by simp [crlf, ascii, isDigit]), int_of_value.mpr fits]

/-- What is written for an `int` is read as that `int`. -/
theorem scanInt_decimal {value : Int} (bounds : IsInt value) {rest : List UInt8}
    (ends : ∀ byte ∈ rest.head?, isDigit byte = false) :
    scanInt (decimal value ++ rest) = some value := by
  have magnitude : digitsValue (digitsOf value.natAbs).bytes = value.natAbs :=
    value_digitsOf value.natAbs
  have low := bounds.1
  have high := bounds.2
  by_cases negative : value < 0
  · have written : decimal value ++ rest = 45 :: ((digitsOf value.natAbs).bytes ++ rest) := by
      rw [decimal_eq, if_pos negative]
      rfl
    have signed : signOf (skipSpace (45 :: ((digitsOf value.natAbs).bytes ++ rest))) =
        (-1, (digitsOf value.natAbs).bytes ++ rest) := rfl
    have clamped : clampLong (-1 * (value.natAbs : Int)) = value := by
      unfold clampLong
      omega
    rw [written, scanInt, signed]
    simp only [scanSet_digits _ ends, Option.map_some, magnitude, clamped]
    rw [toInt32_of_bounds low high]
  · have written : decimal value ++ rest = (digitsOf value.natAbs).bytes ++ rest := by
      rw [decimal_eq, if_neg negative, List.nil_append]
    have same : ((digitsOf value.natAbs).value : Int) = value := by
      rw [value_digitsOf]
      omega
    have fits : (digitsOf value.natAbs).value < 2 ^ 31 := by omega
    rw [written, scanInt_digits_eq _ ends, int_of_value.mpr fits, same]

/-- Two numbers which are written alike are the same. -/
theorem decimal_injective {value other : Int} (same : decimal value = decimal other) :
    value = other := by
  have unsigned : ∀ {n : Nat} {tail : List UInt8}, (digitsOf n).bytes = 45 :: tail → False := by
    intro n tail bytes
    have minus := (digitsOf n).numeric 45 (by simp [bytes])
    cases minus
  have magnitude : ∀ {n m : Nat}, (digitsOf n).bytes = (digitsOf m).bytes → n = m := by
    intro n m bytes
    rw [← value_digitsOf n, ← value_digitsOf m, Digits.value, Digits.value, bytes]
  rw [decimal_eq, decimal_eq] at same
  split at same <;> split at same
  · have natAbs := magnitude (List.cons.inj same).2
    omega
  · exact (unsigned same.symm).elim
  · exact (unsigned same).elim
  · have natAbs := magnitude same
    omega

end Http2Rtsp.Std
