import StorageConfig.Proofs.Json.Field
import StorageConfig.Proofs.Json.Outline

/-! Decoders to which documents that differ in nothing declared are the same. -/

namespace StorageConfig

namespace Json

/-- What is of the kind of objects is an object. -/
theorem exists_obj_of_kind {json : Json} (kind : json.kind = .map) : ∃ members, json = obj members := by
  cases json with
  | obj members => exact ⟨members, rfl⟩
  | num value => cases value <;> cases kind
  | _ => cases kind

/-- What is of the kind of arrays is an array. -/
theorem exists_arr_of_kind {json : Json} (kind : json.kind = .sequence) : ∃ items, json = arr items := by
  cases json with
  | arr items => exact ⟨items, rfl⟩
  | num value => cases value <;> cases kind
  | _ => cases kind

end Json

namespace Outline

mutual

/--
Whether two documents differ in nothing that an outline declares.

Members without a declared name may be anything, and a missing member may be written as what it stands for.
-/
def Equates : Outline → Json → Json → Prop
  | scalar, left, right => left.kind = right.kind
  | whole, left, right => left = right
  | list item, left, right =>
    match left, right with
    | .arr items, .arr others => List.Forall₂ item.Equates items others
    | left, right => left.kind = right.kind
  | record fields, left, right =>
    match left, right with
    | .obj members, .obj others => EquatesMembers fields members others
    | .arr items, .arr others => EquatesItems fields items others
    | left, right => left.kind = right.kind

/-- Whether the members of two objects differ in no declared field. -/
def EquatesMembers : List Field → List (String × Json) → List (String × Json) → Prop
  | [], _, _ => True
  | (name, absent, outline) :: fields, members, others =>
    -- Either the same holds of the values under the name, or one side leaves out what the other writes.
    (List.Forall₂ outline.Equates (Json.valuesOf name members) (Json.valuesOf name others) ∨
      ∃ default value, absent = some default ∧ outline.Equates default value ∧
        ((Json.valuesOf name members = [] ∧ Json.valuesOf name others = [value]) ∨
          (Json.valuesOf name members = [value] ∧ Json.valuesOf name others = []))) ∧
    EquatesMembers fields members others

/-- Whether the items of two arrays differ in no declared field, and are equally many. -/
def EquatesItems : List Field → List Json → List Json → Prop
  | (_, _, outline) :: fields, item :: items, other :: others =>
    outline.Equates item other ∧ EquatesItems fields items others
  | _, items, others => items.length = others.length

end

/-- Documents that differ in nothing declared are of one kind. -/
theorem Equates.kind_eq {outline : Outline} {left right : Json} (equal : outline.Equates left right) :
    left.kind = right.kind := by
  cases outline with
  | scalar => exact equal
  | whole => exact congrArg Json.kind equal
  | list item =>
    rw [Equates.eq_def] at equal
    dsimp only at equal
    split at equal
    · rfl
    · exact equal
  | record fields =>
    rw [Equates.eq_def] at equal
    dsimp only at equal
    split at equal
    · rfl
    · rfl
    · exact equal

/-- Arrays that differ in no declared field are of one length. -/
theorem length_of_equatesItems {fields : List Field} {items others : List Json}
    (equal : EquatesItems fields items others) : items.length = others.length := by
  induction fields generalizing items others with
  | nil => exact equal
  | cons field fields ih =>
    match items, others, equal with
    | [], [], _ => rfl
    | item :: items, other :: others, ⟨_, rest⟩ => simp [ih rest]

/-- Items that differ in no field differ in none of the first, and behind those in none of the others. -/
theorem equatesItems_append {early late : List Field} {items others : List Json}
    (equal : EquatesItems (early ++ late) items others) :
    EquatesItems early items others ∧ EquatesItems late (items.drop early.length) (others.drop early.length) := by
  -- Each early field takes one item of either array, until both are used up.
  induction early generalizing items others with
  | nil => exact ⟨length_of_equatesItems equal, equal⟩
  | cons field early ih =>
    match items, others, equal with
    | [], [], _ => exact ⟨rfl, by cases late <;> rfl⟩
    | item :: items, other :: others, ⟨first, rest⟩ => exact ⟨⟨first, (ih rest).1⟩, (ih rest).2⟩

/-- Members that differ in no field of two groups differ in none of either. -/
theorem equatesMembers_append {early late : List Field} {members others : List (String × Json)}
    (equal : EquatesMembers (early ++ late) members others) :
    EquatesMembers early members others ∧ EquatesMembers late members others := by
  induction early with
  | nil => exact ⟨trivial, equal⟩
  | cons field early ih => exact ⟨⟨equal.1, (ih equal.2).1⟩, (ih equal.2).2⟩

/-- A declared name stands equally often, or one object leaves it out and the other has it once. -/
theorem repeats_of_equatesMembers {fields : List Field} {members others : List (String × Json)}
    (equal : EquatesMembers fields members others) {name : String} (declared : name ∈ fields.map Prod.fst) :
    (Json.valuesOf name members).length ≤ 1 ↔ (Json.valuesOf name others).length ≤ 1 := by
  induction fields with
  | nil => cases declared
  | cons field fields ih =>
    rcases List.mem_cons.1 declared with rfl | later
    · -- Values that correspond are equally many, and a name that is left out has one value on the other side.
      rcases equal.1 with same | ⟨default, value, -, -, ⟨left, right⟩ | ⟨left, right⟩⟩
      · rw [same.length_eq]
      · simp [left, right]
      · simp [left, right]
    · exact ih equal.2 later

end Outline

open Outline

variable {α β : Type}

/-- A decoder reads the same from documents that differ in nothing declared, or rejects both. -/
def Decoder.Respects (decode : Decoder α) (outline : Outline) : Prop :=
  ∀ left right, outline.Equates left right → (decode left).toOption = (decode right).toOption

namespace Decoder

variable {decode : Decoder α} {outline : Outline}

/-- A truth value is read from the kind of a document. -/
theorem respects_flag : flag.Respects scalar := by
  have spelled : ∀ json, (flag json).toOption = match json.kind with
      | .flag value => some value
      | _ => none := by
    intro json
    cases json with
    | num value => cases value <;> rfl
    | _ => rfl
  intro left right equal
  rw [spelled, spelled, equal.kind_eq]

/-- A text is read from the kind of a document. -/
theorem respects_text : text.Respects scalar := by
  have spelled : ∀ json, (text json).toOption = match json.kind with
      | .text value => some value
      | _ => none := by
    intro json
    cases json with
    | num value => cases value <;> rfl
    | _ => rfl
  intro left right equal
  rw [spelled, spelled, equal.kind_eq]

/-- Whatever counts as it stands is read as it stands. -/
theorem respects_whole : decode.Respects whole := by
  rintro left right rfl
  rfl

/-- What may be null is read the same where the value in it is. -/
theorem Respects.nullable (respects : decode.Respects outline) : decode.nullable.Respects outline := by
  have spelled : ∀ json, (decode.nullable json).toOption =
      if json.kind = .null then some none else (decode json).toOption.map some := by
    intro json
    cases json with
    | null => rfl
    | num value =>
      cases value <;> simp only [Decoder.nullable, Json.kind, reduceCtorEq, if_false] <;>
        cases decode _ <;> rfl
    | _ =>
      simp only [Decoder.nullable, Json.kind, reduceCtorEq, if_false]
      cases decode _ <;> rfl
  intro left right equal
  rw [spelled, spelled, equal.kind_eq, respects left right equal]

/-- Items that differ in nothing declared, one by one, are read the same. -/
theorem Respects.items (respects : decode.Respects outline) {left right : List Json}
    (equal : List.Forall₂ outline.Equates left right) :
    (items decode left).toOption = (items decode right).toOption := by
  have spelled : ∀ json rest, (Decoder.items decode (json :: rest)).toOption =
      (decode json).toOption.bind fun value => (Decoder.items decode rest).toOption.map (value :: ·) := by
    intro json rest
    rw [Decoder.items]
    cases decode json with
    | error misfit => rfl
    | ok value => cases Decoder.items decode rest <;> rfl
  -- A list is read where its first item and the rest are.
  induction equal with
  | nil => rfl
  | cons first _ ih => rw [spelled, spelled, respects _ _ first, ih]

end Decoder

/-- Fields that read the same wherever nothing declared differs, or misfit in both places. -/
structure Record.Respects (record : Record α) (fields : List Field) : Prop where
  declared : record.names = fields.map Prod.fst
  named : ∀ members others place, EquatesMembers fields members others →
    (record.read (.named members) place).toOption = (record.read (.named others) place).toOption
  positional : ∀ items others place, EquatesItems fields (items.drop place) (others.drop place) →
    (record.read (.positional items) place).toOption = (record.read (.positional others) place).toOption

namespace Record

/-- What needs no field is the same everywhere. -/
theorem respects_pure (value : α) : (pure value : Record α).Respects [] :=
  ⟨rfl, fun _ _ _ _ => rfl, fun _ _ _ _ => rfl⟩

/-- A field has the last value under its name, or what it stands for where there is none. -/
theorem toOption_read_field (name : String) (decode : Decoder α) (absent : Layout → Option α) (layout : Layout)
    (place : Nat) : ((field name decode absent).read layout place).toOption =
      (Decoder.items decode (occurrences name place layout)).toOption.bind fun values =>
        values.getLast?.or (absent layout) := by
  rw [field]
  dsimp only
  -- A fault in any value ends the reading, even if a later value would do.
  cases Decoder.items decode (occurrences name place layout) with
  | error cause => rfl
  | ok values =>
    cases last : values.getLast? with
    | some value => simp [last, Except.toOption]
    | none => cases absent layout <;> simp [last, Except.toOption]

/-- Fields in sequence give a value where both parts do. -/
theorem toOption_read_seq (function : Record (α → β)) (argument : Record α) (layout : Layout) (place : Nat) :
    ((function <*> argument).read layout place).toOption =
      (function.read layout place).toOption.bind fun f =>
        (argument.read layout (place + function.names.length)).toOption.map f := by
  have spelled : function <*> argument = Record.seq function fun _ => argument := rfl
  rw [spelled, Record.seq]
  dsimp only
  cases function.read layout place <;> cases argument.read layout (place + function.names.length) <;> rfl

/-- Fields in sequence are the same where both parts are. -/
theorem Respects.seq {function : Record (α → β)} {argument : Record α} {early late : List Field}
    (left : function.Respects early) (right : argument.Respects late) :
    (function <*> argument).Respects (early ++ late) := by
  have names : (function <*> argument).names = function.names ++ argument.names := rfl
  refine ⟨?_, fun members others place equal => ?_, fun items others place equal => ?_⟩
  · rw [names, left.declared, right.declared, List.map_append]
  · obtain ⟨first, second⟩ := equatesMembers_append equal
    rw [toOption_read_seq, toOption_read_seq, left.named members others place first,
      right.named members others _ second]
  · obtain ⟨first, second⟩ := equatesItems_append equal
    have length : early.length = function.names.length := by rw [left.declared, List.length_map]
    rw [List.drop_drop, List.drop_drop, length] at second
    rw [toOption_read_seq, toOption_read_seq, left.positional items others place first,
      right.positional items others _ second]

/-- A field that stands once has its value. -/
theorem toOption_read_single (decode : Decoder α) (json : Json) (absent : Option α) :
    ((Decoder.items decode [json]).toOption.bind fun values => values.getLast?.or absent) =
      (decode json).toOption := by
  rw [Decoder.items]
  cases decode json <;> rfl

/--
A field is the same where its value is.

What it stands for where it is missing depends only on whether the record is an object, and is then what the declared
document is read as, if there is one.
-/
theorem respects_field {name : String} {decode : Decoder α} {absent : Layout → Option α} {default : Option Json}
    {outline : Outline} {inObject inArray : Option α} (respects : decode.Respects outline)
    (object : ∀ members, absent (.named members) = inObject) (array : ∀ items, absent (.positional items) = inArray)
    (stands : ∀ json, default = some json → inObject = (decode json).toOption) :
    (field name decode absent).Respects [(name, default, outline)] := by
  refine ⟨rfl, fun members others place equal => ?_, fun items others place equal => ?_⟩
  · have occur : ∀ members, occurrences name place (.named members) = Json.valuesOf name members := fun _ => rfl
    rw [toOption_read_field, toOption_read_field, occur, occur, object, object]
    rcases equal.1 with same | ⟨json, value, declared, standing, missing⟩
    · rw [respects.items same]
    · -- Left out on one side, the field is read there as the value on the other side.
      have read : inObject = (decode value).toOption :=
        (stands json declared).trans (respects json value standing)
      rcases missing with ⟨left, right⟩ | ⟨left, right⟩
      · rw [left, right, toOption_read_single, ← read]
        rfl
      · rw [left, right, toOption_read_single, ← read]
        rfl
  · have occur : ∀ items, occurrences name place (.positional items) = (items.drop place).head?.toList := by
      intro items
      rw [List.head?_drop]
      rfl
    rw [toOption_read_field, toOption_read_field, occur, occur, array, array]
    match items.drop place, others.drop place, equal with
    | [], [], _ => rfl
    | item :: _, other :: _, ⟨first, _⟩ =>
      exact congrArg (fun read => Option.bind read fun values => values.getLast?.or inArray)
        (respects.items (.cons first .nil))

/-- An object repeats no declared name if there is at most one value for each. -/
theorem repeatedName?_eq_none_iff {names : List String} {members : List (String × Json)} :
    repeatedName? names members = none ↔ ∀ name ∈ names, (Json.valuesOf name members).length ≤ 1 := by
  simp [repeatedName?, List.find?_eq_none, Json.valuesOf]

/-- An object gives a value where no declared name is repeated and the fields are read. -/
theorem toOption_decodeNamed (record : Record α) (members : List (String × Json)) :
    (record.decodeNamed members).toOption =
      if repeatedName? record.names members = none then (record.read (.named members) 0).toOption else none := by
  rw [decodeNamed]
  cases repeatedName? record.names members with
  | some name => rfl
  | none => cases record.read (.named members) 0 <;> rfl

/-- An array gives a value where the fields are read and it has no further items. -/
theorem toOption_decodePositional (name : String) (record : Record α) (items : List Json) :
    (record.decodePositional name items).toOption =
      if record.names.length < items.length then none else (record.read (.positional items) 0).toOption := by
  rw [decodePositional]
  cases record.read (.positional items) 0 with
  | error faults => exact (ite_self none).symm
  | ok value =>
    dsimp only
    split <;> rfl

/-- What is neither an object nor an array is no record. -/
theorem toOption_decode_of_kind {json : Json} (object : json.kind ≠ .map) (array : json.kind ≠ .sequence)
    (name : String) (record : Record α) : (record.decode name json).toOption = none := by
  cases json with
  | obj members => exact absurd rfl object
  | arr items => exact absurd rfl array
  | _ => rfl

/-- A record is the same where its fields are. -/
theorem Respects.decode {record : Record α} {fields : List Field} (respects : record.Respects fields)
    (name : String) : (record.decode name).Respects (.record fields) := by
  intro left right equal
  have kind := equal.kind_eq
  by_cases object : left.kind = .map
  · obtain ⟨members, rfl⟩ := Json.exists_obj_of_kind object
    obtain ⟨others, rfl⟩ := Json.exists_obj_of_kind (kind.symm.trans object)
    -- Neither object repeats a declared name, or both do.
    have repeated : repeatedName? record.names members = none ↔ repeatedName? record.names others = none := by
      rw [repeatedName?_eq_none_iff, repeatedName?_eq_none_iff, respects.declared]
      exact forall₂_congr fun declared member => repeats_of_equatesMembers equal member
    have read := respects.named members others 0 equal
    exact (toOption_decodeNamed record members).trans
      ((if_congr repeated read rfl).trans (toOption_decodeNamed record others).symm)
  by_cases array : left.kind = .sequence
  · obtain ⟨items, rfl⟩ := Json.exists_arr_of_kind array
    obtain ⟨others, rfl⟩ := Json.exists_arr_of_kind (kind.symm.trans array)
    -- The arrays are of one length, so neither has further items or both have.
    have read := respects.positional items others 0 equal
    have length := length_of_equatesItems equal
    refine (toOption_decodePositional name record items).trans ?_
    rw [length, read]
    exact (toOption_decodePositional name record others).symm
  · -- Neither document is a record.
    rw [toOption_decode_of_kind object array, toOption_decode_of_kind (kind ▸ object) (kind ▸ array)]

variable {function : Record (α → β)} {fields : List Field} {decode : Decoder α} {outline : Outline}

/-- Fields with one behind them that must be there are the same where they and its value are. -/
theorem Respects.required (earlier : function.Respects fields) {name : String} (respects : decode.Respects outline) :
    (function <*> Record.required name decode).Respects (fields ++ [Outline.required name outline]) :=
  earlier.seq (respects_field respects (fun _ => rfl) (fun _ => rfl) nofun)

/-- Fields with one behind them that has a default are the same if that is what the declared document is read as. -/
theorem Respects.defaulted (earlier : function.Respects fields) {name : String} {value : α} {default : Json}
    (respects : decode.Respects outline) (stands : decode default = .ok value) :
    (function <*> Record.defaulted name decode value).Respects
      (fields ++ [Outline.defaulted name default outline]) := by
  refine earlier.seq (respects_field respects (fun _ => rfl) (fun _ => rfl) ?_)
  rintro json declared
  obtain rfl := Option.some.inj declared
  rw [stands]
  rfl

/-- Fields with one behind them that may be null or missing are the same where they and its value are. -/
theorem Respects.optional {function : Record (Option α → β)} (earlier : function.Respects fields) {name : String}
    (respects : decode.Respects outline) :
    (function <*> Record.optional name decode).Respects (fields ++ [Outline.defaulted name .null outline]) := by
  refine earlier.seq (respects_field respects.nullable (fun _ => rfl) (fun _ => rfl) ?_)
  rintro json declared
  obtain rfl := Option.some.inj declared
  rfl

end Record

end StorageConfig
