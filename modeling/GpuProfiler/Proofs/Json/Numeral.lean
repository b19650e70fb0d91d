import GpuProfiler.Json.Reader
import Mathlib.Data.List.TakeWhile

set_option autoImplicit false

namespace GpuProfiler

namespace Numeral

def Proper (numeral : Numeral) : Prop := ∀ c ∈ numeral.fraction, c.isDigit = true

-- Nothing that a run of digits would go on with.
def Undigited (cs : List Char) : Prop := ∀ c ∈ cs.head?, c.isDigit = false

theorem ofNat_proper (n : Nat) : (ofNat n).Proper := by simp [Proper, ofNat]

theorem ofInt_proper (n : Int) : (ofInt n).Proper := by simp [Proper, ofInt]

section Digits

variable {digits rest : List Char}

theorem leading_digits_append (each : ∀ c ∈ digits, c.isDigit = true) (ended : Undigited rest) :
    leadingDigits (digits ++ rest) = digits := by
  rw [leadingDigits, List.takeWhile_append_of_pos each]
  cases rest with
  | nil => simp
  | cons c rest => simp [ended c rfl]

theorem after_digits_append (each : ∀ c ∈ digits, c.isDigit = true) (ended : Undigited rest) :
    afterDigits (digits ++ rest) = rest := by
  rw [afterDigits, List.dropWhile_append_of_pos each]
  cases rest with
  | nil => rfl
  | cons c rest => simp [ended c rfl]

theorem whole_digits (n : Nat) : ∀ c ∈ Nat.toDigits 10 n, c.isDigit = true :=
  fun _ member => Nat.isDigit_of_mem_toDigits (by decide) (by decide) member

-- The induction is on the number: all digits but the last are those of a smaller one, and of zero
-- there is only one digit.
theorem zero_stands_alone (n : Nat) (more : Nat.toDigits 10 n = '0' :: rest) : rest = [] := by
  induction n using Nat.strong_induction_on generalizing rest with
  | _ n ih =>
    by_cases single : n < 10
    · rw [Nat.toDigits_of_lt_base single] at more
      exact (List.cons.inj more).2.symm
    · have fewer : n / 10 < n := by omega
      rw [Nat.toDigits_of_base_le (by decide) (by omega)] at more
      cases shorter : Nat.toDigits 10 (n / 10) with
      | nil => exact absurd shorter Nat.toDigits_ne_nil
      | cons c cs =>
        rw [shorter, List.cons_append] at more
        obtain ⟨first, -⟩ := List.cons.inj more
        rw [first] at shorter
        rw [ih _ fewer shorter] at shorter
        have none_left := congrArg (fun cs => Nat.ofDigitChars 10 cs 0) shorter
        simp only [Nat.ofDigitChars_ten_toDigits] at none_left
        have : n / 10 = 0 := none_left
        omega

theorem read_whole_append (n : Nat) (ended : Undigited rest) :
    readWhole (Nat.toDigits 10 n ++ rest) = some (n, rest) := by
  rw [readWhole, leading_digits_append (whole_digits n) ended, after_digits_append (whole_digits n) ended]
  split
  · next none => exact absurd none Nat.toDigits_ne_nil
  · next longer => exact absurd (zero_stands_alone n longer) (List.cons_ne_nil _ _)
  · rw [Nat.ofDigitChars_ten_toDigits]

end Digits

theorem exponent_undigited (exponent : Option Int) : Undigited (exponentChars exponent) := by
  cases exponent with
  | none => simp [Undigited, exponentChars]
  | some e => simp [Undigited, exponentChars]

theorem fraction_undigited (digits : List Char) (exponent : Option Int) :
    Undigited (fractionChars digits ++ exponentChars exponent) := by
  cases digits with
  | nil => exact exponent_undigited exponent
  | cons c digits => simp [Undigited, fractionChars]

theorem read_fraction_append (digits : List Char) (each : ∀ c ∈ digits, c.isDigit = true) (exponent : Option Int) :
    readFraction (fractionChars digits ++ exponentChars exponent) = some (digits, exponentChars exponent) := by
  cases digits with
  | nil => cases exponent with
    | none => rfl
    | some e => rfl
  | cons c digits =>
    have ended := exponent_undigited exponent
    simp only [fractionChars, List.isEmpty_cons, Bool.false_eq_true, if_false, List.cons_append, readFraction]
    rw [← List.cons_append, leading_digits_append each ended, after_digits_append each ended]

theorem read_magnitude_digits (n : Nat) : readMagnitude (Nat.toDigits 10 n) = some (Int.ofNat n) := by
  have digits : (Nat.toDigits 10 n).all Char.isDigit = true := List.all_eq_true.mpr (whole_digits n)
  simp [readMagnitude, digits, Nat.toDigits_ne_nil]

theorem read_exponent_chars (exponent : Option Int) : readExponent (exponentChars exponent) = some exponent := by
  cases exponent with
  | none => rfl
  | some e =>
    by_cases below : e < 0
    · have size : -Int.ofNat e.natAbs = e := by simp only [Int.ofNat_eq_natCast]; omega
      simp only [exponentChars, below, if_true, readExponent, true_or, read_magnitude_digits, Option.map_some, size]
    · have size : Int.ofNat e.natAbs = e := by simp only [Int.ofNat_eq_natCast]; omega
      simp only [exponentChars, below, if_false, if_true, readExponent, true_or, read_magnitude_digits, Option.map_some, size]

theorem read_sign_append (negative : Bool) (n : Nat) (rest : List Char) :
    readSign (signChars negative ++ (Nat.toDigits 10 n ++ rest)) = (negative, Nat.toDigits 10 n ++ rest) := by
  cases negative with
  | true => rfl
  | false =>
    simp only [signChars, Bool.false_eq_true, if_false, List.nil_append]
    cases written : Nat.toDigits 10 n with
    | nil => exact absurd written Nat.toDigits_ne_nil
    | cons c cs =>
      have digit : c.isDigit = true := whole_digits n c (written ▸ List.mem_cons_self)
      rw [List.cons_append, readSign]
      intro _ dash
      rw [(List.cons.inj dash).1] at digit
      cases digit

theorem read_chars {numeral : Numeral} (proper : numeral.Proper) : read numeral.chars = some numeral := by
  obtain ⟨negative, whole, fraction, exponent⟩ := numeral
  rw [read, chars, List.append_assoc, List.append_assoc, read_sign_append]
  dsimp only
  rw [read_whole_append whole (fraction_undigited fraction exponent)]
  dsimp only
  rw [read_fraction_append fraction proper exponent]
  dsimp only
  rw [read_exponent_chars exponent, Option.map_some]

example : read ['-', '1', '2', '.', '0', 'e', '-', '3'] = some ⟨true, 12, ['0'], some (-3)⟩ := by decide

theorem digit_part {c : Char} (digit : c.isDigit = true) : Scanning.isNumeralChar c = true := by
  simp [Scanning.isNumeralChar, digit]

theorem fraction_part {digits : List Char} (each : ∀ c ∈ digits, c.isDigit = true) :
    ∀ c ∈ fractionChars digits, Scanning.isNumeralChar c = true := by
  cases digits with
  | nil => simp [fractionChars]
  | cons first more => exact List.forall_mem_cons.mpr ⟨by decide, fun c member => digit_part (each c member)⟩

theorem exponent_part (exponent : Option Int) : ∀ c ∈ exponentChars exponent, Scanning.isNumeralChar c = true := by
  cases exponent with
  | none => simp [exponentChars]
  | some e =>
    have sign : Scanning.isNumeralChar (if e < 0 then '-' else '+') = true := by split <;> decide
    exact List.forall_mem_cons.mpr ⟨by decide,
      List.forall_mem_cons.mpr ⟨sign, fun c member => digit_part (whole_digits _ c member)⟩⟩

theorem chars_run {numeral : Numeral} (proper : numeral.Proper) :
    ∃ c cs, numeral.chars = c :: cs ∧ (c.isDigit || c = '-') = true ∧ ∀ d ∈ cs, Scanning.isNumeralChar d = true := by
  obtain ⟨negative, whole, fraction, exponent⟩ := numeral
  have unsigned : ∀ c ∈ Nat.toDigits 10 whole ++ (fractionChars fraction ++ exponentChars exponent),
      Scanning.isNumeralChar c = true := by
    rw [List.forall_mem_append, List.forall_mem_append]
    exact ⟨fun c member => digit_part (whole_digits whole c member), fraction_part proper, exponent_part exponent⟩
  cases negative with
  | true => exact ⟨'-', _, by simp [chars, signChars], by decide, unsigned⟩
  | false =>
    cases written : Nat.toDigits 10 whole with
    | nil => exact absurd written Nat.toDigits_ne_nil
    | cons c cs =>
      rw [written] at unsigned
      have first := whole_digits whole c (written ▸ List.mem_cons_self)
      exact ⟨c, _, by simp [chars, signChars, written], by simp [first],
        fun d member => unsigned d (List.mem_cons_of_mem _ member)⟩

end Numeral

end GpuProfiler
