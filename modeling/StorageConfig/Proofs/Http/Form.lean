import StorageConfig.Http.Form
import StorageConfig.Proofs.Ascii

/-! A text in ASCII that is written into a query is read from it as it was. -/

namespace StorageConfig

namespace Form

/-- The characters that texts are written in within a query. -/
def IsFormChar (c : Char) : Prop := c.isAlphanum = true ∨ c ∈ ['*', '-', '.', '_', '+', '%']

/-- Texts are written in ASCII. -/
theorem IsFormChar.isAscii {c : Char} (form : IsFormChar c) : IsAscii c :=
  isAscii_of_marks (by simp) form

/-- An unreserved byte is the number of a character that stands for it. -/
theorem toNat_ofNat_byte (byte : UInt8) : (Char.ofNat byte.toNat).toNat = byte.toNat := by
  have bound := byte.toNat_lt
  have valid : byte.toNat.isValidChar := .inl (by omega)
  have made : Char.ofNat byte.toNat = Char.ofNatAux byte.toNat valid := dif_pos valid
  rw [made]
  rfl

/-- Each of the sixteen digits is read as its value. -/
theorem digitValue?_hexDigit {value : Nat} (small : value < 16) :
    digitValue? (hexDigit value).toNat = some value := by
  rcases value with _ | _ | _ | _ | _ | _ | _ | _ | _ | _ | _ | _ | _ | _ | _ | _ | value
  all_goals first | rfl | omega

/-- Each of the sixteen digits is a letter or a digit. -/
theorem isAlphanum_hexDigit {value : Nat} (small : value < 16) : (hexDigit value).isAlphanum = true := by
  rcases value with _ | _ | _ | _ | _ | _ | _ | _ | _ | _ | _ | _ | _ | _ | _ | _ | value
  all_goals first | rfl | omega

/-- Every byte is written in the characters of texts. -/
theorem isFormChar_encodeByte (byte : UInt8) : ∀ c ∈ encodeByte byte, IsFormChar c := by
  have bound := byte.toNat_lt
  intro c member
  unfold encodeByte at member
  split at member
  · -- A byte that stands as it is was looked at as that character.
    rename_i unreserved
    obtain rfl := List.mem_singleton.1 member
    simp only [isUnreserved, Bool.or_eq_true, beq_iff_eq] at unreserved
    simp only [IsFormChar, List.mem_cons, List.not_mem_nil, or_false]
    grind
  · -- Any other byte is written as a plus sign, or as a percent sign and two digits.
    split at member
    · exact .inr (by simpa using .inr (.inr (.inr (.inr (.inl (List.mem_singleton.1 member))))))
    · simp only [List.mem_cons, List.not_mem_nil, or_false] at member
      rcases member with rfl | rfl | rfl
      · exact .inr (by decide)
      · exact .inl (isAlphanum_hexDigit (by omega))
      · exact .inl (isAlphanum_hexDigit (by omega))

/-- Every text is written in the characters of texts. -/
theorem isFormChar_encode (text : String) : ∀ c ∈ (encode text).toList, IsFormChar c := by
  intro c member
  rw [encode, String.toList_ofList] at member
  obtain ⟨byte, -, written⟩ := List.mem_flatMap.1 member
  exact isFormChar_encodeByte byte c written

/-- What is read from the bytes that a byte was written as is that byte, whatever comes after it. -/
theorem unescape_encodeByte (byte : UInt8) (rest : List Nat) :
    unescape ((encodeByte byte).map Char.toNat ++ rest) = byte.toNat :: unescape rest := by
  have bound := byte.toNat_lt
  unfold encodeByte
  split
  · rename_i unreserved
    -- Neither sign with a meaning of its own is unreserved.
    have noPercent : byte.toNat ≠ 0x25 := by
      intro same
      obtain rfl : byte = 0x25 := UInt8.toNat_inj.1 same
      revert unreserved
      decide
    have noPlus : byte.toNat ≠ 0x2B := by
      intro same
      obtain rfl : byte = 0x2B := UInt8.toNat_inj.1 same
      revert unreserved
      decide
    rw [List.map_singleton, toNat_ofNat_byte, List.singleton_append]
    exact unescape.eq_3 _ _ (fun _ _ _ percent => absurd percent noPercent) noPlus
  · split
    · rename_i blank
      subst blank
      exact unescape.eq_2 rest
    · -- The two digits are the halves of the byte.
      have halves : 16 * (byte.toNat / 16) + byte.toNat % 16 = byte.toNat := by omega
      change unescape (37 :: (hexDigit (byte.toNat / 16)).toNat :: (hexDigit (byte.toNat % 16)).toNat :: rest) = _
      rw [unescape, digitValue?_hexDigit (by omega), digitValue?_hexDigit (by omega)]
      simp only [halves]

/-- What is read from the bytes that some bytes were written as is those bytes. -/
theorem unescape_flatMap_encodeByte (bytes : List UInt8) :
    unescape ((bytes.flatMap encodeByte).map Char.toNat) = bytes.map UInt8.toNat := by
  induction bytes with
  | nil => rfl
  | cons byte rest ih => rw [List.flatMap_cons, List.map_append, unescape_encodeByte, ih, List.map_cons]

/-- Numbers of ASCII are read as the characters of these numbers. -/
theorem decodeUtf8_of_ascii {text : List Char} (ascii : ∀ c ∈ text, IsAscii c) :
    decodeUtf8 none (text.map Char.toNat) = text := by
  induction text with
  | nil => rfl
  | cons c rest ih =>
    have small : c.toNat < 0x80 := ascii c List.mem_cons_self
    have whole : begin c.toNat = ([c], none) := by
      rw [begin, if_pos small, Char.ofNat_toNat]
    rw [List.map_cons, decodeUtf8, whole]
    exact congrArg (c :: ·) (ih fun later member => ascii later (List.mem_cons_of_mem c member))

/-- A text of a query that is in ASCII is read by its characters. -/
theorem decode_of_ascii {text : List Char} (ascii : ∀ c ∈ text, IsAscii c) :
    decode text = String.ofList (decodeUtf8 none (unescape (text.map Char.toNat))) := by
  rw [decode, utf8_of_ascii ascii, map_toNat_of_ascii ascii]

/-- A text in ASCII is read as it was written. -/
theorem decode_encode {text : String} (ascii : ∀ c ∈ text.toList, IsAscii c) :
    decode (encode text).toList = text := by
  -- What is written are the bytes of the text, and they are read back one by one.
  have bytes : text.toUTF8.toList = text.toList.map fun c => UInt8.ofNat c.toNat := by
    simpa using utf8_of_ascii ascii
  rw [decode_of_ascii fun c member => (isFormChar_encode text c member).isAscii, encode, String.toList_ofList,
    unescape_flatMap_encodeByte, bytes, map_toNat_of_ascii ascii, decodeUtf8_of_ascii ascii, String.ofList_toList]

/-- Letters and digits are read as they stand. -/
theorem decode_of_isAlphanum {text : List Char} (plain : ∀ c ∈ text, c.isAlphanum = true) :
    decode text = String.ofList text := by
  have ascii : ∀ c ∈ text, IsAscii c := fun c member => isAscii_of_isAlphanum (plain c member)
  have bytes : unescape (text.map Char.toNat) = text.map Char.toNat := by
    clear ascii
    induction text with
    | nil => rfl
    | cons c rest ih =>
      -- The plus and the percent sign stand below all letters and digits.
      have range := (isAlphanum_iff c).1 (plain c List.mem_cons_self)
      rw [List.map_cons, unescape.eq_3 _ _ (fun _ _ _ percent => by omega) (fun plus => by omega),
        ih fun later member => plain later (List.mem_cons_of_mem c member)]
  rw [decode_of_ascii ascii, bytes, decodeUtf8_of_ascii ascii]

/-- A query of one pair, its name in letters and digits and its text in ASCII, is read as that pair. -/
theorem pairs_of_pair {name text : String} (plain : ∀ c ∈ name.toList, c.isAlphanum = true)
    (ascii : ∀ c ∈ text.toList, IsAscii c) : pairs ("&" ++ name ++ "=" ++ encode text) = [(name, text)] := by
  -- Neither sign between the parts occurs within them.
  have whole : '&' ∉ name.toList ++ '=' :: (encode text).toList := by
    simp only [List.mem_append, List.mem_cons, not_or]
    refine ⟨fun member => absurd (plain _ member) (by decide), by decide, fun member => ?_⟩
    exact absurd (isFormChar_encode text _ member) (by unfold IsFormChar; decide)
  have first : '=' ∉ name.toList := fun member => absurd (plain _ member) (by decide)
  have parts : splitAtMark '&' ("&" ++ name ++ "=" ++ encode text).toList =
      [[], name.toList ++ '=' :: (encode text).toList] := by
    have shape : ("&" ++ name ++ "=" ++ encode text).toList =
        [] ++ '&' :: (name.toList ++ '=' :: (encode text).toList) := by simp
    rw [shape, splitAtMark_append, splitAtMark_of_not_mem whole]
    rfl
  have read : (decode name.toList, decode (encode text).toList) = (name, text) := by
    rw [decode_of_isAlphanum plain, String.ofList_toList, decode_encode ascii]
  rw [pairs, parts]
  simp [cutAtFirst_append first, read]

end Form

end StorageConfig
