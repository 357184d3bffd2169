/-! The characters of ASCII: where the letters and digits among them stand, and that each is one byte. -/

namespace StorageConfig

/-- The characters of ASCII. -/
def IsAscii (c : Char) : Prop := c.toNat < 128

instance (c : Char) : Decidable (IsAscii c) := inferInstanceAs (Decidable (_ < _))

/-- Letters and digits stand in three stretches. -/
theorem isAlphanum_iff (c : Char) :
    c.isAlphanum = true ↔ (48 ≤ c.toNat ∧ c.toNat ≤ 57) ∨ (65 ≤ c.toNat ∧ c.toNat ≤ 90) ∨
      (97 ≤ c.toNat ∧ c.toNat ≤ 122) := by
  have spelled : c.isAlphanum = ((decide (c.val ≥ 65 ∧ c.val ≤ 90) ||
      (decide (c.val ≥ 97) && decide (c.val ≤ 122))) || (decide (c.val ≥ 48) && decide (c.val ≤ 57))) := rfl
  -- As numbers they are the capitals, the small letters and the digits.
  simp only [spelled, Bool.or_eq_true, Bool.and_eq_true, decide_eq_true_eq, ge_iff_le, UInt32.le_iff_toNat_le]
  change ((65 ≤ c.toNat ∧ c.toNat ≤ 90) ∨ (97 ≤ c.toNat ∧ c.toNat ≤ 122)) ∨ (48 ≤ c.toNat ∧ c.toNat ≤ 57) ↔ _
  omega

/-- Letters and digits are in ASCII. -/
theorem isAscii_of_isAlphanum {c : Char} (alphanum : c.isAlphanum = true) : IsAscii c := by
  have range := (isAlphanum_iff c).1 alphanum
  unfold IsAscii
  omega

/-- Letters, digits and whatever marks of ASCII come with them are in ASCII. -/
theorem isAscii_of_marks {c : Char} {marks : List Char} (plain : ∀ mark ∈ marks, mark.toNat < 128)
    (letter : c.isAlphanum = true ∨ c ∈ marks) : IsAscii c := by
  rcases letter with alphanum | mark
  · exact isAscii_of_isAlphanum alphanum
  · exact plain c mark

/-- The bytes of a buffer, as a list, are those that it holds. -/
theorem toList_bytes (bytes : ByteArray) : bytes.toList = bytes.data.toList := by
  -- What the loop has passed stands in reverse in front of what is still to come.
  have general (place : Nat) (passed : List UInt8) :
      ByteArray.toList.loop bytes place passed = passed.reverse ++ bytes.data.toList.drop place := by
    induction place, passed using ByteArray.toList.loop.induct bytes with
    | case1 place passed within ih =>
      have bound : place < bytes.data.toList.length := by simpa using within
      rw [ByteArray.toList.loop, if_pos within, ih, List.drop_eq_getElem_cons bound]
      have read : bytes.get! place = bytes.data.toList[place] := by
        simp [ByteArray.get!, within]
      rw [read, List.reverse_cons, List.append_assoc]
      rfl
    | case2 place passed beyond =>
      have past : bytes.data.toList.length ≤ place := by simpa using beyond
      rw [ByteArray.toList.loop, if_neg beyond, List.drop_eq_nil_of_le past, List.append_nil]
  simpa [ByteArray.toList] using general 0 []

/-- The bytes of a text in ASCII are the numbers of its characters. -/
theorem utf8_of_ascii {text : List Char} (ascii : ∀ c ∈ text, IsAscii c) :
    (String.ofList text).toUTF8.toList = text.map fun c => UInt8.ofNat c.toNat := by
  rw [toList_bytes]
  change (text.flatMap String.utf8EncodeChar).toByteArray.data.toList = _
  rw [List.toList_data_toByteArray]
  induction text with
  | nil => rfl
  | cons c rest ih =>
    -- Up to 127 a character is encoded as the one byte of its number.
    have small : c.toNat ≤ 127 := Nat.le_of_lt_succ (ascii c List.mem_cons_self)
    rw [List.flatMap_cons, ih fun later member => ascii later (List.mem_cons_of_mem c member)]
    simp [String.utf8EncodeChar, small]

/-- As numbers these bytes are the characters once more. -/
theorem map_toNat_of_ascii {text : List Char} (ascii : ∀ c ∈ text, IsAscii c) :
    (text.map fun c => UInt8.ofNat c.toNat).map UInt8.toNat = text.map Char.toNat := by
  rw [List.map_map]
  apply List.map_congr_left
  intro c member
  have small : c.toNat < 128 := ascii c member
  simp only [Function.comp_apply, UInt8.toNat_ofNat']
  omega

end StorageConfig
