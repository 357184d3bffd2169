import StorageConfig.Proofs.Json.Field
import StorageConfig.Proofs.Json.Outline

/-! Decoders that read a value back however the records in its document are written. -/

namespace StorageConfig

open Outline

variable {α β : Type}

/-- A decoder reads a value from a document, and from every other way to write that document. -/
def Decoder.Restores (decode : Decoder α) (outline : Outline) (json : Json) (value : α) : Prop :=
  ∀ written, outline.Recast json written → decode written = .ok value

namespace Decoder

variable {decode : Decoder α} {outline : Outline} {json : Json} {value : α}

/-- A scalar is written in one way only. -/
theorem restores_scalar (read : decode json = .ok value) : decode.Restores .scalar json value := by
  rintro written rfl
  exact read

/-- A document that counts as it stands is written in one way only. -/
theorem restores_whole (read : decode json = .ok value) : decode.Restores .whole json value := by
  rintro written rfl
  exact read

/-- What may be null is restored where a value for it is, or where it is null. -/
theorem restores_nullable {encode : α → Json} (restores : ∀ value, decode.Restores outline (encode value) value)
    (present : ∀ value, encode value ≠ .null) (value : Option α) :
    (nullable decode).Restores outline (.ofOption encode value) value := by
  intro written recast
  -- Null is written as null only, and nothing else is.
  rw [Record.nullable_eq_ok_iff]
  cases value with
  | none => exact .inl ⟨recast.eq_null, rfl⟩
  | some value => exact .inr ⟨recast.ne_null (present value), value, restores value written recast, rfl⟩

/-- Items that are restored one by one are restored in their order. -/
theorem items_of_forall₂ {encode : α → Json} (restores : ∀ value, decode.Restores outline (encode value) value)
    {values : List α} {written : List Json} (recast : List.Forall₂ outline.Recast (values.map encode) written) :
    items decode written = .ok values := by
  -- The items are read in their order, and each is written on its own.
  induction values generalizing written with
  | nil =>
    obtain rfl := List.forall₂_nil_left_iff.1 recast
    rfl
  | cons value values ih =>
    obtain ⟨first, rest, head, tail, rfl⟩ := List.forall₂_cons_left_iff.1 recast
    simp [items, restores value first head, ih tail, Bind.bind, Except.bind]

/-- A list is restored where its items are. -/
theorem restores_list {encode : α → Json} (restores : ∀ value, decode.Restores outline (encode value) value)
    (values : List α) : (list decode).Restores (.list outline) (.arr (values.map encode)) values := by
  rintro written (rfl | ⟨items, others, same, rfl, recast⟩)
  · exact items_of_forall₂ restores (List.forall₂_same.2 fun json _ => .refl outline json)
  · obtain rfl := Json.arr.inj same
    exact items_of_forall₂ restores recast

/-- A map is restored as it stands. -/
theorem restores_textMap (map : TextMap) : textMap.Restores .whole (.ofTextMap map) map :=
  restores_whole map.textMap_members

end Decoder

/-- Values stand in a layout, one after the other from a place on, each alone under its name. -/
def Layout.Shows (layout : Layout) (place : Nat) (bindings : List (String × Json)) : Prop :=
  ∀ index name json, bindings[index]? = some (name, json) →
    Record.occurrences name (place + index) layout = [json]

/-- An object shows its members if no two have one name. -/
theorem Layout.shows_named {members bindings : List (String × Json)} (distinct : (bindings.map Prod.fst).Nodup)
    (perm : members.Perm bindings) (place : Nat) : (Layout.named members).Shows place bindings := by
  intro index name json found
  have names : (members.map Prod.fst).Nodup := (perm.map Prod.fst).nodup_iff.2 distinct
  exact Json.valuesOf_of_mem names (perm.mem_iff.2 (List.mem_of_getElem? found))

/-- An array shows its items under any names. -/
theorem Layout.shows_positional (names : List String) (values : List Json) :
    (Layout.positional values).Shows 0 (names.zip values) := by
  intro index name json found
  rw [List.getElem?_zip_eq_some] at found
  simp [Record.occurrences, found.2]

/-- What is shown of two lists is shown of the first and, behind it, of the second. -/
theorem Layout.shows_append {layout : Layout} {place : Nat} {front back : List (String × Json)}
    (shows : layout.Shows place (front ++ back)) :
    layout.Shows place front ∧ layout.Shows (place + front.length) back := by
  constructor
  · intro index name json found
    obtain ⟨within, -⟩ := List.getElem?_eq_some_iff.1 found
    exact shows index name json (by rwa [List.getElem?_append_left within])
  · intro index name json found
    rw [Nat.add_assoc]
    refine shows (front.length + index) name json ?_
    rwa [List.getElem?_append_right (Nat.le_add_right _ _), Nat.add_sub_cancel_left]

/-- Fields that read a value from the declared members, wherever these stand and however their values are written. -/
structure Record.Restores (record : Record α) (fields : List Field) (members : List (String × Json)) (value : α) :
    Prop where
  declared : record.names = fields.map Prod.fst
  named : members.map Prod.fst = fields.map Prod.fst
  read : ∀ layout place values, RecastFields fields members values →
    layout.Shows place (record.names.zip values) → record.read layout place = .ok value

namespace Record

/-- What needs no field is there without members. -/
theorem restores_pure (value : α) : (pure value : Record α).Restores [] [] value :=
  ⟨rfl, rfl, fun _ _ _ _ _ => rfl⟩

/-- A field is restored where its value is. -/
theorem restores_field {name : String} {decode : Decoder α} {absent : Layout → Option α} {default : Option Json}
    {outline : Outline} {json : Json} {value : α} (restores : decode.Restores outline json value) :
    (field name decode absent).Restores [(name, default, outline)] [(name, json)] value := by
  refine ⟨rfl, rfl, fun layout place values recast shows => ?_⟩
  match values, recast with
  | [written], ⟨_, part, _⟩ =>
    have alone : occurrences name place layout = [written] := shows 0 name written rfl
    simp [field, alone, Decoder.items, restores written part, Bind.bind, Except.bind]

/-- Fields in sequence are restored where both parts are. -/
theorem Restores.seq {function : Record (α → β)} {argument : Record α} {early late : List Field}
    {first second : List (String × Json)} {f : α → β} {value : α} (left : function.Restores early first f)
    (right : argument.Restores late second value) :
    (function <*> argument).Restores (early ++ late) (first ++ second) (f value) := by
  have names : (function <*> argument).names = function.names ++ argument.names := rfl
  refine ⟨?_, ?_, fun layout place values recast shows => ?_⟩
  · rw [names, left.declared, right.declared, List.map_append]
  · rw [List.map_append, List.map_append, left.named, right.named]
  · obtain ⟨front, back, rfl, fromFirst, fromSecond⟩ := recastFields_append left.named recast
    -- The names of the first part are as many as its values, so the others stand right behind.
    have length : function.names.length = front.length := by
      rw [left.declared, List.length_map, (declared_of_recastFields fromFirst).2]
    rw [names, List.zip_append length] at shows
    obtain ⟨inFront, behind⟩ := Layout.shows_append shows
    rw [List.length_zip, length, Nat.min_self, ← length] at behind
    exact read_seq_eq_ok_iff.2 ⟨f, value, left.read layout place front fromFirst inFront,
      right.read layout _ back fromSecond behind, rfl⟩

/-- Fields with one more behind them are restored where they and its value are. -/
theorem Restores.field {function : Record (α → β)} {fields : List Field} {members : List (String × Json)} {f : α → β}
    (restores : function.Restores fields members f) {name : String} {decode : Decoder α}
    {absent : Layout → Option α} {default : Option Json} {outline : Outline} {json : Json} {value : α}
    (last : decode.Restores outline json value) :
    (function <*> Record.field name decode absent).Restores (fields ++ [(name, default, outline)])
      (members ++ [(name, json)]) (f value) :=
  restores.seq (restores_field last)

/-- A record of distinct fields is restored from an object in any order and from an array. -/
theorem Restores.decode {record : Record α} {fields : List Field} {members : List (String × Json)} {value : α}
    (restores : record.Restores fields members value) (distinct : (fields.map Prod.fst).Nodup) (name : String) :
    (record.decode name).Restores (.record fields) (.obj members) value := by
  have object {values : List Json} {others : List (String × Json)} (recast : RecastFields fields members values)
      (perm : others.Perm ((members.map Prod.fst).zip values)) : record.decode name (.obj others) = .ok value := by
    have count := (declared_of_recastFields recast).2
    rw [restores.named, ← restores.declared] at perm
    have names : (record.names.zip values).map Prod.fst = record.names := by
      refine List.map_fst_zip (Nat.le_of_eq ?_)
      rw [restores.declared, List.length_map, count]
    have apart : ((record.names.zip values).map Prod.fst).Nodup := by
      rw [names, restores.declared]
      exact distinct
    refine decode_obj_of_read ?_ (restores.read _ _ _ recast (Layout.shows_named apart perm 0))
    -- Under each declared name there is one value.
    rw [repeatedName?, List.find?_eq_none]
    intro declared member
    rw [← names] at member
    obtain ⟨⟨_, json⟩, bound, rfl⟩ := List.mem_map.1 member
    have others_apart : (others.map Prod.fst).Nodup := (perm.map Prod.fst).nodup_iff.2 apart
    have single := congrArg List.length (Json.valuesOf_of_mem others_apart (perm.mem_iff.2 bound))
    rw [Json.valuesOf, List.length_map] at single
    simp [single]
  -- The document may stay as it is, become an array, or have its members moved about.
  rintro written (rfl | ⟨_, values, same, recast, rfl | ⟨others, rfl, perm⟩⟩)
  · refine object (recastFields_self restores.named) (.of_eq ?_)
    exact List.zip_of_prod rfl rfl
  · obtain rfl := Json.obj.inj same
    have read := restores.read _ 0 values recast (Layout.shows_positional record.names values)
    have count : record.names.length = values.length := by
      rw [restores.declared, List.length_map, (declared_of_recastFields recast).2]
    simp [Record.decode, decodePositional, read, count]
  · obtain rfl := Json.obj.inj same
    exact object recast perm

end Record

end StorageConfig
