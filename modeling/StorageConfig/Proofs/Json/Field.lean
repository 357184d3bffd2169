import StorageConfig.ObjectMeta
import StorageConfig.Proofs.Json.MergePatch
import StorageConfig.Proofs.Json.Record
import StorageConfig.Proofs.TextMap

/-! What a field is read as depends on the values under its name only. -/

namespace StorageConfig

namespace Record

variable {α : Type} {name : String} {decode : Decoder α} {fallback value : α}

/-- Among members a field has a value: all that stands under its name is read, and the last of it counts. -/
def Holds (name : String) (decode : Decoder α) (fallback : α) (members : List (String × Json)) (value : α) : Prop :=
  ∃ values, Decoder.items decode (Json.valuesOf name members) = .ok values ∧ values.getLast?.getD fallback = value

/-- A field with a fallback is read as the value that it has. -/
theorem read_defaulted_eq_ok_iff {members : List (String × Json)} {place : Nat} :
    (defaulted name decode fallback).read (.named members) place = .ok value ↔
      Holds name decode fallback members value := by
  have standing : occurrences name place (.named members) = Json.valuesOf name members := rfl
  rw [Holds]
  -- What stands under the name is read, and nothing there is no fault.
  cases items : Decoder.items decode (Json.valuesOf name members) with
  | error cause => simp [defaulted, field, standing, items]
  | ok values => cases last : values.getLast? <;> simp [defaulted, field, standing, items, last]

/-- A field that may be null or missing is read as the value that it has. -/
theorem read_optionalAnywhere_eq_ok_iff {members : List (String × Json)} {place : Nat} {value : Option α} :
    (optionalAnywhere name decode).read (.named members) place = .ok value ↔
      Holds name (Decoder.nullable decode) none members value := read_defaulted_eq_ok_iff

/-- A field has the same value wherever the same stands under its name. -/
theorem Holds.congr {before after : List (String × Json)} (holds : Holds name decode fallback before value)
    (same : Json.valuesOf name after = Json.valuesOf name before) : Holds name decode fallback after value := by
  rw [Holds, same]
  exact holds

/-- What alone stands under a name is the value of its field. -/
theorem holds_of_single {members : List (String × Json)} {json : Json} (only : Json.valuesOf name members = [json])
    (read : decode json = .ok value) : Holds name decode fallback members value := by
  refine ⟨[value], ?_, rfl⟩
  simp [only, Decoder.items, read, Bind.bind, Except.bind]

/-- A field that must be there is read as what alone stands under its name. -/
theorem read_required_of_single {members : List (String × Json)} {json : Json}
    (only : Json.valuesOf name members = [json]) (read : decode json = .ok value) (place : Nat) :
    (required name decode).read (.named members) place = .ok value := by
  have standing : occurrences name place (.named members) = [json] := only
  simp [required, field, standing, Decoder.items, read, Bind.bind, Except.bind]

/-- Where nothing stands under a name, the field has its fallback. -/
theorem holds_of_nothing {members : List (String × Json)} (nothing : Json.valuesOf name members = []) :
    Holds name decode fallback members fallback := by
  refine ⟨[], ?_, rfl⟩
  rw [nothing, Decoder.items]

/-- A field has the last value under its name, or its fallback where there is none. -/
theorem Holds.last {members : List (String × Json)} (holds : Holds name decode fallback members value) :
    ((Json.valuesOf name members).getLast? = none ∧ value = fallback) ∨
      ∃ json, (Json.valuesOf name members).getLast? = some json ∧ decode json = .ok value := by
  obtain ⟨values, read, last⟩ := holds
  -- The induction is on what stands under the name; what counts of it is the last.
  generalize Json.valuesOf name members = jsons at read ⊢
  induction jsons generalizing values fallback with
  | nil =>
    rw [Decoder.items] at read
    obtain rfl := Except.ok.inj read
    exact .inl ⟨rfl, last.symm⟩
  | cons json jsons ih =>
    rw [Decoder.items] at read
    cases first : decode json with
    | error misfit => simp [first, Bind.bind, Except.bind] at read
    | ok head =>
      cases rest : Decoder.items decode jsons with
      | error misfit => simp [first, rest, Bind.bind, Except.bind] at read
      | ok tail =>
        obtain rfl : head :: tail = values := by simpa [first, rest, Bind.bind, Except.bind] using read
        have later := ih tail (by simpa [List.getLast?_cons] using last) rest
        refine .inr ?_
        rcases later with ⟨none_left, same⟩ | ⟨other, found, decoded⟩
        · exact ⟨json, by simp [List.getLast?_cons, none_left], by rw [first, same]⟩
        · exact ⟨other, by simp [List.getLast?_cons, found], decoded⟩

/-- What is null is read as nothing, and anything else as itself. -/
theorem nullable_eq_ok_iff {json : Json} {value : Option α} :
    Decoder.nullable decode json = .ok value ↔
      (json = .null ∧ value = none) ∨ (json ≠ .null ∧ ∃ given, decode json = .ok given ∧ value = some given) := by
  cases json with
  | null => simp [Decoder.nullable, eq_comm]
  | _ =>
    simp only [Decoder.nullable, ne_eq, reduceCtorEq, not_false_eq_true, true_and, false_and, false_or]
    generalize decode _ = result
    cases result <;> simp [Except.map, eq_comm]

/-- An object that is read is read where it might be null as well. -/
theorem nullable_obj {members : List (String × Json)} (read : decode (.obj members) = .ok value) :
    Decoder.nullable decode (.obj members) = .ok (some value) := by
  rw [Decoder.nullable, read]
  · rfl
  · simp

/-- An array that is read is read where it might be null as well. -/
theorem nullable_arr {items : List Json} (read : decode (.arr items) = .ok value) :
    Decoder.nullable decode (.arr items) = .ok (some value) := by
  rw [Decoder.nullable, read]
  · rfl
  · simp

/--
A field that is read from objects is read from the members that stand under its name.

Where it is null or missing there are none, which are read as the value for that.
-/
theorem Holds.members {members : List (String × Json)} {value : Option α} {empty : α}
    (holds : Holds name (Decoder.nullable decode) none members value)
    (objects : ∀ json given, decode json = .ok given → ∃ inner, json = .obj inner)
    (nothing : decode (.obj []) = .ok empty) :
    decode (.obj ((Json.valuesOf name members).getLast?.getD .null).members) = .ok (value.getD empty) := by
  rcases holds.last with ⟨missing, rfl⟩ | ⟨json, last, read⟩
  · rw [missing]
    exact nothing
  · rw [last, Option.getD_some]
    rcases nullable_eq_ok_iff.1 read with ⟨rfl, rfl⟩ | ⟨-, given, decoded, rfl⟩
    · exact nothing
    · obtain ⟨inner, rfl⟩ := objects json given decoded
      exact decoded

end Record

namespace Decoder

/-- A natural number in range is read as itself. -/
theorem natural_nat {value bits : Nat} (small : value < Nat.pow 2 bits) (wanted : String) :
    natural bits wanted (.nat value) = .ok value := by
  have range : (0 : Int) ≤ value ∧ (value : Int) ≤ ((Nat.pow 2 bits : Nat) : Int) - 1 := by omega
  simp only [natural, Json.nat, Json.int, integer]
  rw [if_pos range]
  rfl

/-- Members that are read as a map are texts, of which the last for a key is bound to it. -/
theorem bindings_ok {members : List (String × Json)} {map result : TextMap}
    (read : bindings map members = .ok result) :
    (∀ entry ∈ members, ∃ text, entry.2 = .str text) ∧
      ∀ key, result.get? key = ((Json.valuesOf key members).getLast?.bind Json.asText?).or (map.get? key) := by
  induction members generalizing map with
  | nil =>
    obtain rfl := Except.ok.inj read
    exact ⟨by simp, fun key => rfl⟩
  | cons entry members ih =>
    obtain ⟨name, json⟩ := entry
    cases json with
    | str value =>
      have later : bindings (map.insert name value) members = .ok result := read
      obtain ⟨texts, bound⟩ := ih later
      refine ⟨fun entry member => ?_, fun key => ?_⟩
      · rcases List.mem_cons.1 member with rfl | other
        · exact ⟨value, rfl⟩
        · exact texts entry other
      · rw [bound, TextMap.get?_insert, Json.valuesOf_cons]
        by_cases same : name = key
        · -- The text stands unless another one follows, and whatever follows is a text.
          rw [if_pos same, if_pos same, List.getLast?_cons]
          cases last : (Json.valuesOf key members).getLast? with
          | none => rfl
          | some json =>
            obtain ⟨entry, member, rfl⟩ := List.mem_map.1 (List.mem_of_getLast? last)
            obtain ⟨text, spelled⟩ := texts entry (List.mem_filter.1 member).1
            rw [Option.getD_some, spelled]
            rfl
        · rw [if_neg same, if_neg same]
    | _ => cases read

/-- Members that are texts are read as a map. -/
theorem exists_bindings {members : List (String × Json)} (texts : ∀ entry ∈ members, ∃ text, entry.2 = .str text)
    (map : TextMap) : ∃ result, bindings map members = .ok result := by
  induction members generalizing map with
  | nil => exact ⟨map, rfl⟩
  | cons entry members ih =>
    obtain ⟨value, spelled⟩ := texts entry List.mem_cons_self
    obtain ⟨result, read⟩ := ih (fun other member => texts other (List.mem_cons_of_mem entry member))
      (map.insert entry.1 value)
    refine ⟨result, ?_⟩
    rw [bindings, spelled]
    exact read

/-- Members are read as a map exactly if they are texts and bind its keys. -/
theorem textMap_eq_ok_iff {members : List (String × Json)} {map : TextMap} :
    textMap (.obj members) = .ok map ↔
      (∀ entry ∈ members, ∃ text, entry.2 = .str text) ∧
        ∀ key, map.get? key = (Json.valuesOf key members).getLast?.bind Json.asText? := by
  have empty : ∀ key, (∅ : TextMap).get? key = none := fun key => rfl
  constructor
  · intro read
    obtain ⟨texts, bound⟩ := bindings_ok read
    exact ⟨texts, fun key => by rw [bound, empty, Option.or_none]⟩
  · rintro ⟨texts, bound⟩
    obtain ⟨result, read⟩ := exists_bindings texts ∅
    -- The map that is read binds the same keys, and so is the same.
    obtain rfl : result = map := TextMap.ext_get? fun key => by
      rw [(bindings_ok read).2, bound, empty, Option.or_none]
    exact read

end Decoder

/-- The members that a map is written as. -/
def TextMap.members (map : TextMap) : List (String × Json) := map.entries.map fun (key, value) => (key, .str value)

namespace TextMap

/-- No two of the members have the same name. -/
theorem nodup_members (map : TextMap) : (map.members.map Prod.fst).Nodup := by
  have names : map.members.map Prod.fst = map.entries.map Prod.fst := by
    rw [members, List.map_map]
    rfl
  rw [names]
  exact map.nodup_keys

/-- A bound key is a member with its text. -/
theorem mem_members_of_get? {map : TextMap} {key value : String} (bound : map.get? key = some value) :
    (key, .str value) ∈ map.members :=
  List.mem_map.2 ⟨(key, value), get?_eq_some_iff.1 bound, rfl⟩

/-- A key that is not bound is no member. -/
theorem not_mem_members_of_get? {map : TextMap} {key : String} (unbound : map.get? key = none) :
    key ∉ map.members.map Prod.fst := by
  rw [members, List.map_map]
  exact get?_eq_none_iff.1 unbound

/-- A map is read from its members. -/
theorem textMap_members (map : TextMap) : Decoder.textMap (.obj map.members) = .ok map := by
  refine Decoder.textMap_eq_ok_iff.2 ⟨fun entry member => ?_, fun key => ?_⟩
  · obtain ⟨binding, -, rfl⟩ := List.mem_map.1 member
    exact ⟨binding.2, rfl⟩
  · cases value : map.get? key with
    | none => rw [Json.valuesOf_of_not_mem (not_mem_members_of_get? value)]; rfl
    | some text => rw [Json.valuesOf_of_mem map.nodup_members (mem_members_of_get? value)]; rfl

/-- The members that a map is merged into are read as that map laid over the one before. -/
theorem textMap_mergeMembers (map : TextMap) {before : TextMap} {members : List (String × Json)}
    (read : Decoder.textMap (.obj members) = .ok before) :
    Decoder.textMap (.obj (Json.mergeMembers members map.members)) = .ok (map.laidOver before) := by
  obtain ⟨texts, bound⟩ := Decoder.textMap_eq_ok_iff.1 read
  refine Decoder.textMap_eq_ok_iff.2 ⟨?_, fun key => ?_⟩
  · refine @Json.forall_mergeMembers (fun json => ∃ text, json = .str text) _ ?_ _ texts
    intro entry member target _
    -- A text takes the place of whatever it is merged into.
    obtain ⟨binding, -, rfl⟩ := List.mem_map.1 member
    exact ⟨binding.2, rfl⟩
  · rw [get?_laidOver]
    cases value : map.get? key with
    | none =>
      -- What the map does not bind stays as it was.
      rw [Json.valuesOf_mergeMembers_of_not_mem (not_mem_members_of_get? value), ← bound]
      rfl
    | some text =>
      rw [Json.valuesOf_mergeMembers_of_mem map.nodup_members (mem_members_of_get? value)]
      rfl

end TextMap

namespace ObjectMeta

/-- The owners and the version of metadata are what their fields have. -/
theorem holds_of_ofJson {members : List (String × Json)} {metadata : ObjectMeta}
    (read : ofJson (.obj members) = .ok metadata) :
    Record.Holds "ownerReferences" (Decoder.nullable (Decoder.list OwnerRef.ofApiJson)) none members
        metadata.ownerRefs ∧
      Record.Holds "resourceVersion" (Decoder.nullable Decoder.text) none members metadata.resourceVersion := by
  simp only [ofJson, fields, Record.decodeLoose_eq_ok_iff, Record.read_seq_eq_ok_iff,
    Record.read_map_eq_ok_iff, Record.read_optionalAnywhere_eq_ok_iff, Json.obj.injEq, exists_eq_left'] at read
  -- The fields nest to the left, so the last of them stands outermost.
  obtain ⟨_, _, ⟨_, _, ⟨_, _, ⟨_, _, ⟨_, _, ⟨_, _, ⟨_, _, ⟨_, _, ⟨_, _, ⟨_, _, ⟨_, _, ⟨_, _, ⟨_, _, ⟨_, _,
    ⟨_, -, rfl⟩, -, rfl⟩, -, rfl⟩, -, rfl⟩, -, rfl⟩, -, rfl⟩, -, rfl⟩, -, rfl⟩, -, rfl⟩, -, rfl⟩, -, rfl⟩,
    owned, rfl⟩, versioned, rfl⟩, -, rfl⟩, -, rfl⟩ := read
  exact ⟨owned, versioned⟩

/-- Metadata with other owners and another version is read as such, whatever else it holds. -/
theorem ofJson_update {before after : List (String × Json)} {metadata : ObjectMeta}
    (read : ofJson (.obj before) = .ok metadata)
    (others : ∀ name, name ≠ "ownerReferences" → name ≠ "resourceVersion" →
      Json.valuesOf name after = Json.valuesOf name before)
    {ownerRefs : Option (List OwnerRef)} {version : Option String}
    (owned : Record.Holds "ownerReferences" (Decoder.nullable (Decoder.list OwnerRef.ofApiJson)) none after ownerRefs)
    (versioned : Record.Holds "resourceVersion" (Decoder.nullable Decoder.text) none after version) :
    ofJson (.obj after) = .ok { metadata with ownerRefs := ownerRefs, resourceVersion := version } := by
  have kept {α : Type} {name : String} {decode : Decoder α} {fallback value : α}
      (holds : Record.Holds name decode fallback before value) (owners : name ≠ "ownerReferences")
      (versions : name ≠ "resourceVersion") : Record.Holds name decode fallback after value :=
    holds.congr (others name owners versions)
  simp only [ofJson, fields, Record.decodeLoose_eq_ok_iff, Record.read_seq_eq_ok_iff,
    Record.read_map_eq_ok_iff, Record.read_optionalAnywhere_eq_ok_iff, Json.obj.injEq, exists_eq_left'] at read ⊢
  obtain ⟨_, _, ⟨_, _, ⟨_, _, ⟨_, _, ⟨_, _, ⟨_, _, ⟨_, _, ⟨_, _, ⟨_, _, ⟨_, _, ⟨_, _, ⟨_, _, ⟨_, _, ⟨_, _,
    ⟨_, annotations, rfl⟩, creation, rfl⟩, grace, rfl⟩, deletion, rfl⟩, finalizers, rfl⟩, generated, rfl⟩,
    generation, rfl⟩, labels, rfl⟩, managed, rfl⟩, named, rfl⟩, placed, rfl⟩, -, rfl⟩, -, rfl⟩, linked, rfl⟩,
    identified, rfl⟩ := read
  exact ⟨_, _, ⟨_, _, ⟨_, _, ⟨_, _, ⟨_, _, ⟨_, _, ⟨_, _, ⟨_, _, ⟨_, _, ⟨_, _, ⟨_, _, ⟨_, _, ⟨_, _, ⟨_, _,
    ⟨_, kept annotations (by decide) (by decide), rfl⟩, kept creation (by decide) (by decide), rfl⟩,
    kept grace (by decide) (by decide), rfl⟩, kept deletion (by decide) (by decide), rfl⟩,
    kept finalizers (by decide) (by decide), rfl⟩, kept generated (by decide) (by decide), rfl⟩,
    kept generation (by decide) (by decide), rfl⟩, kept labels (by decide) (by decide), rfl⟩,
    kept managed (by decide) (by decide), rfl⟩, kept named (by decide) (by decide), rfl⟩,
    kept placed (by decide) (by decide), rfl⟩, owned, rfl⟩, versioned, rfl⟩,
    kept linked (by decide) (by decide), rfl⟩, kept identified (by decide) (by decide), rfl⟩

end ObjectMeta

end StorageConfig
