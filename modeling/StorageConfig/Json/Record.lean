import StorageConfig.Json.Misfit

/-!
Reading records field by field, from objects and from arrays.

All fields are read before a fault is chosen: in an object the misfit with the least name comes first and then
the first missing field in declaration order, in an array the first fault by position.
-/

namespace StorageConfig

/-- Where the fields of a record stand: under their names, or one after the other. -/
inductive Layout where
  | named (members : List (String × Json))
  | positional (items : List Json)

/-- A field that could not be read. -/
structure FieldFault where
  /-- The place of the field among the declared ones. -/
  position : Nat
  name : String
  /-- Why its value does not fit; nothing if it is missing. -/
  cause : Option Misfit

/-- The fields that could not be read, of which there is at least one, in declaration order. -/
structure FieldFaults where
  first : FieldFault
  rest : List FieldFault

namespace FieldFaults

/-- The faults as a list. -/
def toList (faults : FieldFaults) : List FieldFault := faults.first :: faults.rest

/-- The faults of some fields and then those of further ones. -/
def append (early late : FieldFaults) : FieldFaults := ⟨early.first, early.rest ++ late.toList⟩

end FieldFaults

/-- Some fields of a record, and how their values make up a value. -/
structure Record (α : Type) where
  /-- The names of the fields, in declaration order. -/
  names : List String
  /-- Read the fields from a layout, the first of them at a given place. -/
  read : Layout → Nat → Except FieldFaults α

namespace Record

/-- A value that needs no field. -/
protected def pure {α : Type} (value : α) : Record α := ⟨[], fun _ _ => .ok value⟩

/-- Fields that give a function, then fields that give its argument; the faults of both are kept. -/
protected def seq {α β : Type} (function : Record (α → β)) (argument : Unit → Record α) : Record β :=
  { names := function.names ++ (argument ()).names
    read := fun layout place =>
      match function.read layout place, (argument ()).read layout (place + function.names.length) with
      | .ok f, .ok x => .ok (f x)
      | .error faults, .ok _ => .error faults
      | .ok _, .error faults => .error faults
      | .error early, .error late => .error (early.append late) }

instance : Applicative Record where
  pure := Record.pure
  seq := Record.seq

/-- The documents that stand for a field. -/
def occurrences (name : String) (place : Nat) : Layout → List Json
  | .named members => (members.filter fun entry => entry.1 == name).map (·.2)
  | .positional items => items[place]?.toList

/-- A field; what stands for a missing one may depend on the layout. -/
def field {α : Type} (name : String) (decode : Decoder α) (absent : Layout → Option α) : Record α :=
  { names := [name]
    read := fun layout place =>
      match Decoder.items decode (occurrences name place layout) with
      | .error cause => .error ⟨⟨place, name, some cause⟩, []⟩
      | .ok values =>
        match values.getLast? with
        | some value => .ok value
        | none =>
          match absent layout with
          | some value => .ok value
          | none => .error ⟨⟨place, name, none⟩, []⟩ }

/-- A field that must be there. -/
def required {α : Type} (name : String) (decode : Decoder α) : Record α :=
  field name decode fun _ => none

/-- A field with a value for its absence. -/
def defaulted {α : Type} (name : String) (decode : Decoder α) (value : α) : Record α :=
  field name decode fun _ => some value

/-- A field that may be null or missing, though not from an array. -/
def optional {α : Type} (name : String) (decode : Decoder α) : Record (Option α) :=
  field name (Decoder.nullable decode) fun
    | .named _ => some none
    | .positional _ => none

/-- A field that may be null or missing anywhere. -/
def optionalAnywhere {α : Type} (name : String) (decode : Decoder α) : Record (Option α) :=
  defaulted name (Decoder.nullable decode) none

/-- The misfit with the least name. -/
def leastMisfit : List FieldFault → Option (String × Misfit)
  | [] => none
  | fault :: rest =>
    match fault.cause, leastMisfit rest with
    | none, found => found
    | some cause, none => some (fault.name, cause)
    | some cause, some (name, other) =>
      if name < fault.name then some (name, other) else some (fault.name, cause)

/-- The fault to report about an object. -/
def namedMisfit (faults : FieldFaults) : Misfit :=
  match leastMisfit faults.toList with
  | some (_, misfit) => misfit
  | none => .missing faults.first.name

/-- The fault to report about an array. -/
def positionalMisfit (record : String) (fields : Nat) (faults : FieldFaults) : Misfit :=
  match faults.first.cause with
  | some misfit => misfit
  | none => .tooShort faults.first.position record fields

/-- The first declared name that an object has twice. -/
def repeatedName? (names : List String) (members : List (String × Json)) : Option String :=
  names.find? fun name => 1 < (members.filter fun entry => entry.1 == name).length

/-- Read a record from an object, each name at most once. -/
def decodeNamed {α : Type} (fields : Record α) (members : List (String × Json)) : Except Misfit α :=
  match repeatedName? fields.names members with
  | some name => .error (.repeated name)
  | none => (fields.read (.named members) 0).mapError namedMisfit

/-- Read a record from an array that holds nothing else. -/
def decodePositional {α : Type} (record : String) (fields : Record α) (items : List Json) :
    Except Misfit α :=
  match fields.read (.positional items) 0 with
  | .error faults => .error (positionalMisfit record fields.names.length faults)
  | .ok value =>
    if fields.names.length < items.length then .error (.tooLong items.length) else .ok value

/-- A record of the given name, from an object or an array. -/
def decode {α : Type} (record : String) (fields : Record α) : Decoder α
  | .obj members => fields.decodeNamed members
  | .arr items => fields.decodePositional record items
  | other => Decoder.reject ("struct " ++ record) other

/-- An object whose members may be null or missing; of several with one name all must fit and the last counts. -/
def decodeLoose {α : Type} (wanted : String) (fields : Record α) : Decoder α
  | .obj members => (fields.read (.named members) 0).mapError namedMisfit
  | other => Decoder.reject wanted other

end Record

end StorageConfig
