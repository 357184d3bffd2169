import Mathlib.Data.List.Forall2
import StorageConfig.Proofs.Json.Record

/-!
What a type declares of the documents that its values are written as.

An outline says nothing of what a decoder does. It tells which members have a name that is declared, what a missing
one stands for, and which objects are records, and so may be written as arrays.
-/

namespace StorageConfig

/-- What a type declares of its documents. -/
inductive Outline where
  /-- A value that has no declared parts: a truth value, a number, a text or a case. -/
  | scalar
  /-- A document that counts as it stands, such as a map of texts. -/
  | whole
  /-- A list of values. -/
  | list (item : Outline)
  /-- A record, by the names of its fields in order, what each stands for where it is missing, and its outline. -/
  | record (fields : List (String × Option Json × Outline))

namespace Outline

/-- A field of a record: its name, what it stands for where it is missing, if it may be, and its outline. -/
abbrev Field := String × Option Json × Outline

/-- A field that must be there. -/
def required (name : String) (outline : Outline) : Field := (name, none, outline)

/-- A field that stands for a document where it is missing. -/
def defaulted (name : String) (default : Json) (outline : Outline) : Field := (name, some default, outline)

mutual

/--
Whether a document is another one with some of its records written differently.

A record may be written as the array of its fields in declaration order, or as an object in any order.
-/
def Recast : Outline → Json → Json → Prop
  | scalar, json, written => written = json
  | whole, json, written => written = json
  | list item, json, written =>
    written = json ∨ ∃ items others, json = .arr items ∧ written = .arr others ∧ List.Forall₂ item.Recast items others
  | record fields, json, written =>
    written = json ∨ ∃ members values, json = .obj members ∧ RecastFields fields members values ∧
      (written = .arr values ∨
        ∃ others, written = .obj others ∧ others.Perm ((members.map Prod.fst).zip values))

/-- Whether members are the declared ones, and values are theirs with some of the records in them written differently. -/
def RecastFields : List Field → List (String × Json) → List Json → Prop
  | [], [], [] => True
  | (name, _, outline) :: fields, (other, json) :: members, value :: values =>
    other = name ∧ outline.Recast json value ∧ RecastFields fields members values
  | _, _, _ => False

end

/-- A document may stay as it is written. -/
theorem Recast.refl (outline : Outline) (json : Json) : outline.Recast json json := by
  cases outline with
  | scalar => rfl
  | whole => rfl
  | list item => exact .inl rfl
  | record fields => exact .inl rfl

/-- A document that is not null is not written as null. -/
theorem Recast.ne_null {outline : Outline} {json written : Json} (recast : outline.Recast json written)
    (present : json ≠ .null) : written ≠ .null := by
  cases outline with
  | scalar =>
    obtain rfl := recast
    exact present
  | whole =>
    obtain rfl := recast
    exact present
  | list item =>
    rcases recast with rfl | ⟨items, others, -, rfl, -⟩
    · exact present
    · exact nofun
  | record fields =>
    rcases recast with rfl | ⟨members, values, -, -, rfl | ⟨others, rfl, -⟩⟩
    · exact present
    · exact nofun
    · exact nofun

/-- Null is only written as null. -/
theorem Recast.eq_null {outline : Outline} {written : Json} (recast : outline.Recast .null written) :
    written = .null := by
  cases outline with
  | scalar => exact recast
  | whole => exact recast
  | list item =>
    rcases recast with same | ⟨items, others, list, -⟩
    · exact same
    · cases list
  | record fields =>
    rcases recast with same | ⟨members, values, object, -⟩
    · exact same
    · cases object

/-- Declared members may stay as they are written. -/
theorem recastFields_self {fields : List Field} {members : List (String × Json)}
    (declared : members.map Prod.fst = fields.map Prod.fst) :
    RecastFields fields members (members.map Prod.snd) := by
  -- Member by member, each value stays as it is.
  induction fields generalizing members with
  | nil =>
    obtain rfl : members = [] := by simpa using declared
    trivial
  | cons field fields ih =>
    cases members with
    | nil => simp at declared
    | cons entry members =>
      obtain ⟨named, rest⟩ := List.cons.inj declared
      exact ⟨named, .refl _ _, ih rest⟩

/-- The members are the declared ones, and there is a value for each. -/
theorem declared_of_recastFields {fields : List Field} {members : List (String × Json)} {values : List Json}
    (recast : RecastFields fields members values) :
    members.map Prod.fst = fields.map Prod.fst ∧ values.length = fields.length := by
  induction fields generalizing members values with
  | nil =>
    match members, values, recast with
    | [], [], _ => exact ⟨rfl, rfl⟩
  | cons field fields ih =>
    match members, values, recast with
    | (other, json) :: members, value :: values, ⟨named, _, rest⟩ =>
      obtain ⟨names, length⟩ := ih rest
      exact ⟨by simp [named, names], by simp [length]⟩

/-- The values of some fields and of further ones are those of the first and then those of the others. -/
theorem recastFields_append {early late : List Field} {first second : List (String × Json)} {values : List Json}
    (declared : first.map Prod.fst = early.map Prod.fst)
    (recast : RecastFields (early ++ late) (first ++ second) values) :
    ∃ front back, values = front ++ back ∧ RecastFields early first front ∧ RecastFields late second back := by
  -- The induction is on the first fields, each of which takes a member and a value along.
  induction early generalizing first values with
  | nil =>
    obtain rfl : first = [] := by simpa using declared
    exact ⟨[], values, rfl, trivial, recast⟩
  | cons field early ih =>
    match first, values, recast, declared with
    | (other, json) :: first, value :: values, ⟨named, part, rest⟩, declared =>
      obtain ⟨front, back, rfl, left, right⟩ := ih (List.cons.inj declared).2 rest
      exact ⟨value :: front, back, rfl, ⟨named, part, left⟩, right⟩

end Outline

end StorageConfig
