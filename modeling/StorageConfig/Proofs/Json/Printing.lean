import StorageConfig.Json.Printer
import StorageConfig.Json.Reader
import StorageConfig.Proofs.Json.Numeral

/-! Plain documents, which are read again from the text that they are written as. -/

namespace StorageConfig

namespace Json

/-- A document with a value in every part: its integers are in range and it nests at most so deep. -/
inductive Plain : Nat → Json → Prop
  | null {depth : Nat} : Plain depth null
  | bool {depth : Nat} (value : Bool) : Plain depth (bool value)
  | int {depth : Nat} {value : Int} (range : InRange value) : Plain depth (int value)
  | str {depth : Nat} (text : String) : Plain depth (str text)
  | arr {depth : Nat} {items : List Json} (each : ∀ item ∈ items, Plain depth item) : Plain (depth + 1) (arr items)
  | obj {depth : Nat} {members : List (String × Json)} (each : ∀ entry ∈ members, Plain depth entry.2) :
    Plain (depth + 1) (obj members)

/-- An object without members is plain. -/
theorem Plain.nil {depth : Nat} : Plain (depth + 1) (.obj []) := .obj (by simp)

/-- An object with one more member is plain if its value and the rest are. -/
theorem Plain.cons {depth : Nat} {name : String} {value : Json} {members : List (String × Json)}
    (first : Plain depth value) (rest : Plain (depth + 1) (.obj members)) :
    Plain (depth + 1) (.obj ((name, value) :: members)) := by
  cases rest with
  | obj each => exact .obj (List.forall_mem_cons.2 ⟨first, each⟩)

section Text

/-- The two hexadecimal digits of a control character. -/
theorem hexDigits_control : ∀ code < 0x20,
    ((if code < 0x10 then "0" else "") ++ hexDigits code).toList =
      [Nat.digitChar (code / 16), Nat.digitChar (code % 16)] ∧
    hexValue? (Nat.digitChar (code / 16)) = some (code / 16) ∧
    hexValue? (Nat.digitChar (code % 16)) = some (code % 16) := by
  decide +kernel

/-- What a control character is written as has four digits that are read as its code. -/
theorem readHex_control {code : Nat} (control : code < 0x20) (rest : List Char) :
    readHex ('0' :: '0' :: ((if code < 0x10 then "0" else "") ++ hexDigits code).toList ++ rest) =
      some (code, rest) := by
  obtain ⟨digits, high, low⟩ := hexDigits_control code control
  have zero : hexValue? '0' = some 0 := rfl
  rw [digits]
  simp only [readHex, zero, high, low, List.cons_append, List.nil_append, Option.bind_eq_bind, Option.bind_some]
  congr 2
  omega

/-- A control character is the character of its code, and half of no pair. -/
theorem readCodePoint_control {c : Char} (control : c.toNat < 0x20) (rest : List Char) :
    readCodePoint ('0' :: '0' :: ((if c.toNat < 0x10 then "0" else "") ++ hexDigits c.toNat).toList ++ rest) =
      some (some c, rest) := by
  have low : isLowHalf c.toNat = false := by
    simp only [isLowHalf, Bool.and_eq_false_iff, decide_eq_false_iff_not]
    omega
  have high : isHighHalf c.toNat = false := by
    simp only [isHighHalf, Bool.and_eq_false_iff, decide_eq_false_iff_not]
    omega
  rw [readCodePoint, readHex_control control]
  simp [low, high, Char.ofNat_toNat]

/-- What a character is written as is read as that character. -/
theorem readText_escapeChar (fuel : Nat) (done : List Char) (c : Char) (rest : List Char) :
    readText (fuel + 1) (some done) ((escapeChar c).toList ++ rest) = readText fuel (some (c :: done)) rest := by
  unfold escapeChar
  split
  -- The characters with a short escape of their own.
  case h_1 => rfl
  case h_2 => rfl
  case h_3 => rfl
  case h_4 => rfl
  case h_5 => rfl
  case h_6 => rfl
  case h_7 => rfl
  case h_8 quote backslash _ _ _ _ _ =>
    split
    · rename_i control
      have spelled : ("\\u00" ++ (if c.toNat < 0x10 then "0" else "") ++ hexDigits c.toNat).toList ++ rest =
          '\\' :: 'u' ::
            ('0' :: '0' :: ((if c.toNat < 0x10 then "0" else "") ++ hexDigits c.toNat).toList ++ rest) := by
        simp [String.toList_append]
      rw [spelled, readText, readEscape, readCodePoint_control control]
      rfl
    · rename_i shown
      have plain : c.toString.toList ++ rest = c :: rest := by simp
      rw [plain, readText]
      · rw [if_neg shown]
        rfl
      · exact quote
      · exact backslash

/-- A text in its quotes, as characters. -/
theorem toList_renderText (text : String) :
    (renderText text).toList = '\"' :: text.toList.flatMap (fun c => (escapeChar c).toList) ++ ['\"'] := by
  -- The fold starts from the opening quote and adds each character in turn.
  have folded : ∀ (chars : List Char) (out : String),
      (chars.foldl (fun out c => out ++ escapeChar c) out).toList =
        out.toList ++ chars.flatMap fun c => (escapeChar c).toList := by
    intro chars
    induction chars with
    | nil => simp
    | cons c chars ih =>
      intro out
      rw [List.foldl_cons, ih, String.toList_append, List.flatMap_cons, List.append_assoc]
  rw [renderText, String.toList_append, String.foldl_eq_foldl_toList, folded]
  rfl

/-- Every character is written as at least one. -/
theorem length_escapeChar_pos (c : Char) : 0 < (escapeChar c).toList.length := by
  unfold escapeChar
  split <;> try simp
  split <;> simp

/-- A text is written with a character for each of its own at least, and with two quotes. -/
theorem length_renderText (text : String) : text.toList.length + 2 ≤ (renderText text).toList.length := by
  have longer : ∀ chars : List Char, chars.length ≤ (chars.flatMap fun c => (escapeChar c).toList).length := by
    intro chars
    induction chars with
    | nil => simp
    | cons c chars ih =>
      have first := length_escapeChar_pos c
      rw [List.flatMap_cons, List.length_append, List.length_cons]
      omega
  have := longer text.toList
  rw [toList_renderText]
  simp only [List.cons_append, List.length_cons, List.length_append, List.length_nil]
  omega

/-- A text is read from what stands after its opening quote. -/
theorem readText_renderText (text : String) {fuel : Nat} (enough : text.toList.length < fuel) (rest : List Char) :
    readText fuel (some []) (text.toList.flatMap (fun c => (escapeChar c).toList) ++ '\"' :: rest) =
      some (some text, rest) := by
  -- The induction is on the characters still to read, after whatever was read before.
  have general : ∀ (chars done : List Char) (fuel : Nat), chars.length < fuel →
      readText fuel (some done) (chars.flatMap (fun c => (escapeChar c).toList) ++ '\"' :: rest) =
        some (some (String.ofList (done.reverse ++ chars)), rest) := by
    intro chars
    induction chars with
    | nil =>
      intro done fuel enough
      cases fuel with
      | zero => omega
      | succ fuel => simp [readText]
    | cons c chars ih =>
      intro done fuel enough
      cases fuel with
      | zero => omega
      | succ fuel =>
        rw [List.length_cons] at enough
        rw [List.flatMap_cons, List.append_assoc, readText_escapeChar, ih (c :: done) fuel (by omega)]
        simp
  simpa using general text.toList [] fuel enough

end Text

section Document

/-- The digits of a number start with a digit. -/
theorem head_repr (n : Nat) : ∃ c rest, n.repr.toList = c :: rest ∧ c.isDigit = true := by
  rw [Nat.toList_repr]
  cases digits : Nat.toDigits 10 n with
  | nil => exact absurd digits Nat.toDigits_ne_nil
  | cons c rest =>
    have first : c ∈ Nat.toDigits 10 n := by simp [digits]
    exact ⟨c, rest, rfl, Nat.isDigit_of_mem_toDigits (by omega) (by omega) first⟩

/-- A digit is not what sets other documents apart. -/
theorem ne_of_isDigit {c other : Char} (digit : c.isDigit = true) (noDigit : other.isDigit = false) : c ≠ other := by
  rintro rfl
  rw [digit] at noDigit
  cases noDigit

/-- A digit is no blank. -/
theorem isSpace_of_isDigit {c : Char} (digit : c.isDigit = true) : isSpace c = false := by
  simp [isSpace, ne_of_isDigit digit]

/-- What starts with no blank has none to skip. -/
theorem skipSpace_cons {c : Char} (shown : isSpace c = false) (rest : List Char) :
    skipSpace (c :: rest) = c :: rest := by
  simp [skipSpace, shown]

/-- The text of a document starts with no blank and with no closing bracket. -/
theorem head_render {depth : Nat} {json : Json} (plain : Plain depth json) :
    ∃ c rest, json.render.toList = c :: rest ∧ isSpace c = false ∧ c ≠ ']' := by
  cases plain with
  | null => exact ⟨'n', _, rfl, rfl, by decide⟩
  | bool value =>
    cases value with
    | true => exact ⟨'t', _, rfl, rfl, by decide⟩
    | false => exact ⟨'f', _, rfl, rfl, by decide⟩
  | @int _ value range =>
    cases value with
    | ofNat n =>
      obtain ⟨c, rest, digits, digit⟩ := head_repr n
      exact ⟨c, rest, digits, isSpace_of_isDigit digit, ne_of_isDigit digit rfl⟩
    | negSucc n =>
      refine ⟨'-', (n + 1).repr.toList, ?_, rfl, by decide⟩
      change ("-" ++ (n + 1).repr).toList = _
      rw [String.toList_append]
      rfl
  | str text => exact ⟨'\"', _, toList_renderText text, rfl, by decide⟩
  | @arr _ items =>
    exact ⟨'[', (renderItems items).toList ++ [']'], by simp [render, String.toList_append], rfl, by decide⟩
  | @obj _ members =>
    exact ⟨'\x7b', (renderMembers members).toList ++ ['\x7d'], by simp [render, String.toList_append], rfl, by decide⟩

/-- The items of a list start with no blank and with no closing bracket. -/
theorem head_renderItems {depth : Nat} {item : Json} (plain : Plain depth item) (items : List Json) :
    ∃ c rest, (renderItems (item :: items)).toList = c :: rest ∧ isSpace c = false ∧ c ≠ ']' := by
  obtain ⟨c, rest, first, shown, goesOn⟩ := head_render plain
  cases items with
  | nil => exact ⟨c, rest, first, shown, goesOn⟩
  | cons next items =>
    refine ⟨c, rest ++ ',' :: (renderItems (next :: items)).toList, ?_, shown, goesOn⟩
    simp [renderItems, String.toList_append, first]

/-- The members of an object start with a quote. -/
theorem head_renderMembers (entry : String × Json) (members : List (String × Json)) :
    ∃ rest, (renderMembers (entry :: members)).toList = '\"' :: rest := by
  obtain ⟨name, value⟩ := entry
  cases members with
  | nil => exact ⟨_, by simp only [renderMembers, String.toList_append, toList_renderText, List.cons_append]; rfl⟩
  | cons next members =>
    exact ⟨_, by simp only [renderMembers, String.toList_append, toList_renderText, List.cons_append]; rfl⟩

/-- A number is told by its first digit. -/
theorem readValue_of_isDigit (fuel depth : Nat) {c : Char} (digit : c.isDigit = true) (rest : List Char) :
    readValue (fuel + 1) depth (c :: rest) = readNumber false (c :: rest) := by
  have square : c ≠ '[' := ne_of_isDigit digit rfl
  have brace : c ≠ '\x7b' := ne_of_isDigit digit rfl
  have null : c ≠ 'n' := ne_of_isDigit digit rfl
  have yes : c ≠ 't' := ne_of_isDigit digit rfl
  have no : c ≠ 'f' := ne_of_isDigit digit rfl
  have quote : c ≠ '\"' := ne_of_isDigit digit rfl
  have sign : c ≠ '-' := ne_of_isDigit digit rfl
  rw [readValue, skipSpace_cons (isSpace_of_isDigit digit)]
  simp [readScalar, square, brace, null, yes, no, quote, sign]

/-- The text of a document is read as that document, whatever comes after it. -/
def ReadsBack (depth : Nat) (json : Json) : Prop :=
  ∀ fuel rest, 2 * json.render.toList.length ≤ fuel → Ends rest →
    readValue fuel depth (json.render.toList ++ rest) = some (json, rest)

/-- The word for nothing reads back. -/
theorem readsBack_null {depth : Nat} : ReadsBack depth null := by
  intro fuel rest enough ends
  cases fuel with
  | zero => cases enough
  | succ fuel => rfl

/-- The word for a truth value reads back. -/
theorem readsBack_bool {depth : Nat} (value : Bool) : ReadsBack depth (bool value) := by
  intro fuel rest enough ends
  cases fuel with
  | zero => cases value <;> cases enough
  | succ fuel => cases value <;> rfl

/-- An integer in range reads back. -/
theorem readsBack_int {depth : Nat} {value : Int} (range : InRange value) : ReadsBack depth (int value) := by
  intro fuel rest enough ends
  obtain ⟨c, front, first, -, -⟩ := head_render (.int range : Plain depth (int value))
  rw [first, List.length_cons] at enough
  cases fuel with
  | zero => omega
  | succ fuel =>
    cases value with
    | ofNat n =>
      obtain ⟨d, more, digits, digit⟩ := head_repr n
      have read := readNumber_repr range ends
      change readValue (fuel + 1) depth (n.repr.toList ++ rest) = _
      rw [digits] at read ⊢
      rw [List.cons_append, readValue_of_isDigit fuel depth digit]
      exact read
    | negSucc n =>
      have read := readNumber_repr_neg range ends
      have signed : (int (Int.negSucc n)).render.toList ++ rest = '-' :: ((n + 1).repr.toList ++ rest) := by
        change ("-" ++ (n + 1).repr).toList ++ rest = _
        rw [String.toList_append]
        rfl
      rw [signed, readValue, skipSpace_cons rfl]
      exact read

/-- A text reads back. -/
theorem readsBack_str {depth : Nat} (text : String) : ReadsBack depth (str text) := by
  intro fuel rest enough ends
  have size := length_renderText text
  have spelled : (str text).render.toList = (renderText text).toList := rfl
  rw [spelled] at enough ⊢
  cases fuel with
  | zero => omega
  | succ fuel =>
    have read := readText_renderText text (by omega : text.toList.length < fuel) rest
    rw [toList_renderText, List.append_assoc, List.cons_append, readValue, skipSpace_cons rfl]
    simp [readScalar, read]

/-- The items of a list read back, up to the bracket that closes it. -/
theorem readItems_renderItems {depth : Nat} {items : List Json} (any : items ≠ [])
    (each : ∀ item ∈ items, ReadsBack depth item) (done : List Json) {fuel : Nat}
    (enough : 2 * (renderItems items).toList.length + 3 ≤ fuel) (rest : List Char) :
    readItems fuel depth done ((renderItems items).toList ++ ']' :: rest) =
      some (arr (done.reverse ++ items), rest) := by
  -- The induction is on the items still to read, after those that were read before.
  induction items generalizing done fuel with
  | nil => exact absurd rfl any
  | cons item items ih =>
    cases fuel with
    | zero => omega
    | succ fuel =>
      have first := each item List.mem_cons_self
      cases items with
      | nil =>
        -- The last item ends at the bracket.
        have closed : Ends (']' :: rest) := by rintro c ⟨⟩; decide
        rw [renderItems] at enough ⊢
        rw [readItems, first fuel (']' :: rest) (by omega) closed]
        simp [skipSpace_cons (rfl : isSpace ']' = false)]
      | cons next items =>
        have later := ih (List.cons_ne_nil next items)
          (fun other member => each other (List.mem_cons_of_mem item member))
        have parts : (renderItems (item :: next :: items)).toList =
            item.render.toList ++ ',' :: (renderItems (next :: items)).toList := by
          simp [renderItems, String.toList_append]
        rw [parts, List.length_append, List.length_cons] at enough
        -- Any other ends at the comma before the next.
        have parted : Ends (',' :: ((renderItems (next :: items)).toList ++ ']' :: rest)) := by rintro c ⟨⟩; decide
        rw [parts, List.append_assoc, List.cons_append, readItems, first fuel _ (by omega) parted]
        have room : 2 * (renderItems (next :: items)).toList.length + 3 ≤ fuel := by omega
        have follow := later (item :: done) room
        simp [skipSpace_cons (rfl : isSpace ',' = false), follow]

/-- The name of a member reads back, with the colon after it. -/
theorem readName_renderText (name : String) {fuel : Nat} (enough : name.toList.length < fuel) (rest : List Char) :
    readName fuel ((renderText name).toList ++ ':' :: rest) = some (some name, rest) := by
  have read := readText_renderText name enough (':' :: rest)
  rw [toList_renderText, List.append_assoc, List.cons_append, readName, skipSpace_cons rfl]
  simp only [List.cons_append, List.nil_append, read]
  rfl

/-- The members of an object read back, up to the brace that closes it. -/
theorem readMembers_renderMembers {depth : Nat} {members : List (String × Json)} (any : members ≠ [])
    (each : ∀ entry ∈ members, ReadsBack depth entry.2) (done : List (String × Json)) {fuel : Nat}
    (enough : 2 * (renderMembers members).toList.length + 3 ≤ fuel) (rest : List Char) :
    readMembers fuel depth (some done) ((renderMembers members).toList ++ '\x7d' :: rest) =
      some (obj (done.reverse ++ members), rest) := by
  -- As for items, but each value comes after its name.
  induction members generalizing done fuel with
  | nil => exact absurd rfl any
  | cons entry members ih =>
    obtain ⟨name, value⟩ := entry
    cases fuel with
    | zero => omega
    | succ fuel =>
      have first : ReadsBack depth value := each (name, value) List.mem_cons_self
      have size := length_renderText name
      cases members with
      | nil =>
        have parts : (renderMembers [(name, value)]).toList =
            (renderText name).toList ++ ':' :: value.render.toList := by
          simp [renderMembers, String.toList_append]
        rw [parts, List.length_append, List.length_cons] at enough
        have closed : Ends ('\x7d' :: rest) := by rintro c ⟨⟩; decide
        have short : name.toList.length < fuel := by omega
        have named := readName_renderText name short (value.render.toList ++ '\x7d' :: rest)
        have read := first fuel _ (by omega) closed
        rw [parts, List.append_assoc, List.cons_append, readMembers, named]
        simp [read, skipSpace_cons (rfl : isSpace '\x7d' = false)]
      | cons next members =>
        have later := ih (List.cons_ne_nil next members)
          (fun other member => each other (List.mem_cons_of_mem (name, value) member))
        have parts : (renderMembers ((name, value) :: next :: members)).toList =
            (renderText name).toList ++ ':' :: (value.render.toList ++
              ',' :: (renderMembers (next :: members)).toList) := by
          simp [renderMembers, String.toList_append]
        rw [parts, List.length_append, List.length_cons, List.length_append, List.length_cons] at enough
        have parted : Ends (',' :: ((renderMembers (next :: members)).toList ++ '\x7d' :: rest)) := by
          rintro c ⟨⟩; decide
        have short : name.toList.length < fuel := by omega
        have named := readName_renderText name short
          (value.render.toList ++ ',' :: ((renderMembers (next :: members)).toList ++ '\x7d' :: rest))
        have read := first fuel _ (by omega) parted
        have room : 2 * (renderMembers (next :: members)).toList.length + 3 ≤ fuel := by omega
        have follow := later ((name, value) :: done) room
        rw [parts, List.append_assoc, List.cons_append, List.append_assoc, List.cons_append, readMembers, named]
        simp [read, skipSpace_cons (rfl : isSpace ',' = false), follow]

/-- A list reads back if its items do. -/
theorem readsBack_arr {depth : Nat} {items : List Json} (plain : ∀ item ∈ items, Plain depth item)
    (each : ∀ item ∈ items, ReadsBack depth item) : ReadsBack (depth + 1) (arr items) := by
  intro fuel rest enough ends
  have parts : (arr items).render.toList ++ rest = '[' :: ((renderItems items).toList ++ ']' :: rest) := by
    simp [render, String.toList_append]
  have size : (arr items).render.toList.length = (renderItems items).toList.length + 2 := by
    simp [render, String.toList_append]
  cases fuel with
  | zero => omega
  | succ fuel =>
    rw [parts, readValue, skipSpace_cons rfl]
    cases items with
    | nil => rfl
    | cons item items =>
      have room : 2 * (renderItems (item :: items)).toList.length + 3 ≤ fuel := by omega
      have read := readItems_renderItems (List.cons_ne_nil item items) each [] room rest
      -- An item does not start like the end of the list.
      obtain ⟨c, more, first, shown, goesOn⟩ := head_renderItems (plain item List.mem_cons_self) items
      rw [first, List.cons_append] at read ⊢
      simpa [skipSpace_cons shown, goesOn] using read

/-- An object reads back if the values of its members do. -/
theorem readsBack_obj {depth : Nat} {members : List (String × Json)}
    (each : ∀ entry ∈ members, ReadsBack depth entry.2) : ReadsBack (depth + 1) (obj members) := by
  intro fuel rest enough ends
  have parts : (obj members).render.toList ++ rest = '\x7b' :: ((renderMembers members).toList ++ '\x7d' :: rest) := by
    simp [render, String.toList_append]
  have size : (obj members).render.toList.length = (renderMembers members).toList.length + 2 := by
    simp [render, String.toList_append]
  cases fuel with
  | zero => omega
  | succ fuel =>
    rw [parts, readValue, skipSpace_cons rfl]
    cases members with
    | nil => rfl
    | cons entry members =>
      have room : 2 * (renderMembers (entry :: members)).toList.length + 3 ≤ fuel := by omega
      have read := readMembers_renderMembers (List.cons_ne_nil entry members) each [] room rest
      obtain ⟨more, first⟩ := head_renderMembers entry members
      rw [first, List.cons_append] at read ⊢
      simpa [skipSpace_cons (rfl : isSpace '\"' = false)] using read

/-- A plain document reads back. -/
theorem Plain.readsBack {depth : Nat} {json : Json} (plain : Plain depth json) : ReadsBack depth json := by
  -- Each level of nesting is one of the levels that the reader may still go down.
  induction plain with
  | null => exact readsBack_null
  | bool value => exact readsBack_bool value
  | int range => exact readsBack_int range
  | str text => exact readsBack_str text
  | arr each ih => exact readsBack_arr each ih
  | obj each ih => exact readsBack_obj ih

end Document

/-- A plain document of no more than the greatest depth is what its text stands for. -/
theorem parse?_render {json : Json} (plain : Plain 127 json) : parse? json.render = some json := by
  have ends : Ends [] := by simp [Ends]
  have read := plain.readsBack (2 * json.render.toList.length + 2) [] (by omega) ends
  rw [List.append_nil] at read
  simp only [parse?, read]
  rfl

end Json

end StorageConfig
