import StorageConfig.Json.Record

/-! What it takes to read a record: every one of its fields. -/

namespace StorageConfig

namespace Record

variable {α β : Type}

/-- Fields that give a value out of no field give it from anywhere. -/
@[simp] theorem read_pure (value : α) (layout : Layout) (place : Nat) :
    (pure value : Record α).read layout place = .ok value := rfl

/-- Fields in sequence are read where both parts are, and the one value is applied to the other. -/
theorem read_seq_eq_ok_iff {function : Record (α → β)} {argument : Record α} {layout : Layout} {place : Nat}
    {value : β} :
    (function <*> argument).read layout place = .ok value ↔
      ∃ f x, function.read layout place = .ok f ∧
        argument.read layout (place + function.names.length) = .ok x ∧ f x = value := by
  have spelled : function <*> argument = Record.seq function fun _ => argument := rfl
  rw [spelled]
  -- A fault of either part is a fault of the whole.
  cases first : function.read layout place with
  | error faults =>
    cases second : argument.read layout (place + function.names.length) <;> simp [Record.seq, first, second]
  | ok f =>
    cases second : argument.read layout (place + function.names.length) <;> simp [Record.seq, first, second]

/-- Mapped fields are read where the fields are. -/
theorem read_map_eq_ok_iff {f : α → β} {argument : Record α} {layout : Layout} {place : Nat} {value : β} :
    (f <$> argument).read layout place = .ok value ↔
      ∃ x, argument.read layout place = .ok x ∧ f x = value := by
  -- Mapping is a sequence with a function that needs no field.
  have mapped : f <$> argument = (pure f : Record (α → β)) <*> argument := rfl
  have none_before : (pure f : Record (α → β)).names.length = 0 := rfl
  rw [mapped, read_seq_eq_ok_iff]
  simp [none_before]

/-- An object is read loosely exactly where its members give all fields. -/
theorem decodeLoose_eq_ok_iff {wanted : String} {fields : Record α} {json : Json} {value : α} :
    fields.decodeLoose wanted json = .ok value ↔
      ∃ members, json = .obj members ∧ fields.read (.named members) 0 = .ok value := by
  cases json with
  | obj members =>
    have spelled : fields.decodeLoose wanted (.obj members) =
        (fields.read (.named members) 0).mapError namedMisfit := rfl
    cases read : fields.read (.named members) 0 with
    | error faults =>
      have fault : fields.decodeLoose wanted (.obj members) = .error (namedMisfit faults) := by
        rw [spelled, read]
        rfl
      simp [fault, read]
    | ok given =>
      have whole : fields.decodeLoose wanted (.obj members) = .ok given := by
        rw [spelled, read]
        rfl
      simp [whole, read]
  | _ => simp [decodeLoose, Decoder.reject]

/-- An object that repeats no name is read strictly where its members give all fields. -/
theorem decode_obj_of_read {record : String} {fields : Record α} {members : List (String × Json)} {value : α}
    (unrepeated : repeatedName? fields.names members = none) (read : fields.read (.named members) 0 = .ok value) :
    fields.decode record (.obj members) = .ok value := by
  rw [decode, decodeNamed, unrepeated, read]
  rfl

end Record

end StorageConfig
