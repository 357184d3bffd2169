import StorageConfig.Json.Numeral

/-! The digits of an integer, written one after the other, are read as that integer again. -/

namespace StorageConfig

namespace Json

/-- What follows a number does not go on with it. -/
def Ends (rest : List Char) : Prop :=
  ∀ c ∈ rest.head?, c.isDigit = false ∧ c ≠ '.' ∧ c ≠ 'e' ∧ c ≠ 'E'

/-- Further digits only add to a number. -/
theorem le_ofDigitChars (digits : List Char) (start : Nat) : start ≤ Nat.ofDigitChars 10 digits start := by
  induction digits generalizing start with
  | nil => exact Nat.le_refl start
  | cons c digits ih =>
    rw [Nat.ofDigitChars_cons]
    have later := ih (10 * start + (c.toNat - '0'.toNat))
    omega

/-- Digits that stay within the limit are all taken. -/
theorem takeDigits_append {digits rest : List Char} (all : ∀ c ∈ digits, c.isDigit = true)
    (stop : ∀ c ∈ rest.head?, c.isDigit = false) (start taken : Nat)
    (within : Nat.ofDigitChars 10 digits start ≤ significandLimit) :
    takeDigits start taken (digits ++ rest) =
      (Nat.ofDigitChars 10 digits start, taken + digits.length, rest) := by
  -- The induction is on the digits, from whatever significand they are taken into.
  induction digits generalizing start taken with
  | nil =>
    cases rest with
    | nil => rfl
    | cons c rest =>
      have other : c.isDigit = false := stop c rfl
      simp [takeDigits, other]
  | cons c digits ih =>
    have digit : c.isDigit = true := all c List.mem_cons_self
    rw [Nat.ofDigitChars_cons, Nat.mul_comm] at within
    -- What is reached along the way is no more than what is reached in the end.
    have fits : start * 10 + (c.toNat - '0'.toNat) ≤ significandLimit :=
      Nat.le_trans (le_ofDigitChars digits _) within
    rw [List.cons_append, takeDigits, if_pos ⟨digit, fits⟩,
      ih (fun other member => all other (List.mem_cons_of_mem c member)) _ _ within,
      Nat.ofDigitChars_cons, Nat.mul_comm 10, List.length_cons]
    congr 2
    omega

/-- A number other than zero does not start with one. -/
theorem head_toDigits {n : Nat} (positive : 0 < n) : ∀ c ∈ (Nat.toDigits 10 n).head?, c ≠ '0' := by
  induction n using Nat.strongRecOn with
  | ind n ih =>
    by_cases small : n < 10
    · rw [Nat.toDigits_of_lt_base small]
      have table : ∀ d < 10, 0 < d → Nat.digitChar d ≠ '0' := by decide
      rintro c ⟨⟩
      exact table n small positive
    · -- The first digit of a longer number is that of its tenth.
      have earlier := ih (n / 10) (by omega) (by omega)
      rw [Nat.toDigits_of_base_le (by omega) (by omega), List.head?_append]
      cases front : Nat.toDigits 10 (n / 10) with
      | nil => exact absurd front Nat.toDigits_ne_nil
      | cons c rest =>
        rw [front] at earlier
        exact earlier

/-- A number that has no zero in front of further digits is read digit by digit. -/
theorem readNumber_eq_readWhole {text : List Char} (isNegative : Bool)
    (proper : ∀ c rest, text = '0' :: c :: rest → c.isDigit = false) :
    readNumber isNegative text = readNumber.readWhole isNegative (takeDigits 0 0 text) := by
  unfold readNumber
  split
  · rename_i c rest
    rw [if_neg (by simp [proper c rest rfl])]
  · rfl

/-- Digits that nothing goes on from are a whole number. -/
theorem readWhole_of_ends (isNegative : Bool) (n : Nat) {taken : Nat} (any : taken ≠ 0) {rest : List Char}
    (ends : Ends rest) :
    readNumber.readWhole isNegative (n, taken, rest) = some (readNumber.whole isNegative n [], rest) := by
  cases rest with
  | nil => simp [readNumber.readWhole, any]
  | cons c rest =>
    obtain ⟨digit, point, small, large⟩ := ends c rfl
    simp [readNumber.readWhole, any, digit, small, large]

/-- The digits of a number within the limit are read as that number. -/
theorem readNumber_toDigits {n : Nat} (within : n ≤ significandLimit) (isNegative : Bool) {rest : List Char}
    (ends : Ends rest) :
    readNumber isNegative (Nat.toDigits 10 n ++ rest) = some (readNumber.whole isNegative n [], rest) := by
  have stop : ∀ c ∈ rest.head?, c.isDigit = false := fun c first => (ends c first).1
  have all : ∀ c ∈ Nat.toDigits 10 n, c.isDigit = true :=
    fun c member => Nat.isDigit_of_mem_toDigits (by omega) (by omega) member
  have any : 0 + (Nat.toDigits 10 n).length ≠ 0 := by
    have := List.length_pos_iff.2 (Nat.toDigits_ne_nil : Nat.toDigits 10 n ≠ [])
    omega
  have value : Nat.ofDigitChars 10 (Nat.toDigits 10 n) 0 = n := Nat.ofDigitChars_ten_toDigits
  have run := takeDigits_append all stop 0 0 (by rw [value]; exact within)
  rw [value] at run
  rw [readNumber_eq_readWhole, run, readWhole_of_ends isNegative n any ends]
  -- A zero comes first only where it is the only digit.
  intro c after first
  rcases Nat.eq_zero_or_pos n with rfl | positive
  · obtain rfl : rest = c :: after := List.tail_eq_of_cons_eq first
    exact stop c rfl
  · have proper := head_toDigits positive
    cases digits : Nat.toDigits 10 n with
    | nil => exact absurd digits Nat.toDigits_ne_nil
    | cons d more =>
      rw [digits] at first proper
      exact absurd (List.head_eq_of_cons_eq first) (proper d rfl)

/-- Integers of at most 64 bits, those below zero with one for the sign. -/
def InRange (value : Int) : Prop := -Nat.pow 2 63 ≤ value ∧ value < Nat.pow 2 64

/-- A natural number in range is written as its digits, and read from them. -/
theorem readNumber_repr {n : Nat} (range : InRange n) {rest : List Char} (ends : Ends rest) :
    readNumber false (n.repr.toList ++ rest) = some (int n, rest) := by
  have within : n ≤ significandLimit := by
    have high := range.2
    have size : Nat.pow 2 64 = UInt64.size := rfl
    rw [significandLimit]
    omega
  rw [Nat.toList_repr, readNumber_toDigits within false ends]
  simp [readNumber.whole]

/-- A negative number in range is read from the digits after its sign. -/
theorem readNumber_repr_neg {n : Nat} (range : InRange (-(n + 1 : Nat))) {rest : List Char} (ends : Ends rest) :
    readNumber true ((n + 1).repr.toList ++ rest) = some (int (-(n + 1 : Nat)), rest) := by
  have low := range.1
  have size : Nat.pow 2 63 = 9223372036854775808 := rfl
  have within : n + 1 ≤ significandLimit := by
    simp only [significandLimit, UInt64.size]
    omega
  rw [Nat.toList_repr, readNumber_toDigits within true ends]
  -- The least number in range is still an integer, and zero is not among these.
  have kept : ¬ (n + 1 = 0 ∨ Nat.pow 2 63 < n + 1) := by omega
  rw [readNumber.whole, if_neg (by simp), if_neg (by simp), if_neg kept]

end Json

end StorageConfig
