import StorageConfig.Api.Object
import StorageConfig.Proofs.Json.Field
import StorageConfig.Proofs.Merge

/-! Config maps as documents: what is written is read again, and a replacement touches what it replaces only. -/

namespace StorageConfig

/-- A reference is read as it was written. -/
theorem OwnerRef.ofApiJson_toApiJson (ref : OwnerRef) : OwnerRef.ofApiJson ref.toApiJson = .ok ref := by
  obtain ⟨owner, controller, blocksDeletion⟩ := ref
  -- Flags that are not set are left out, and read as not set.
  cases controller <;> cases blocksDeletion <;> rfl

/-- References are read as they were written. -/
theorem OwnerRef.list_ofApiJson (refs : List OwnerRef) :
    Decoder.list OwnerRef.ofApiJson (.arr (refs.map OwnerRef.toApiJson)) = .ok refs := by
  induction refs with
  | nil => rfl
  | cons ref refs ih =>
    have later : Decoder.items OwnerRef.ofApiJson (refs.map OwnerRef.toApiJson) = .ok refs := ih
    simp [Decoder.list, Decoder.items, OwnerRef.ofApiJson_toApiJson, later, Bind.bind, Except.bind]

namespace Api

/-- The version and kind are read where both are missing or right. -/
theorem read_coreKind_eq_ok_iff {kind : String} {members : List (String × Json)} {place : Nat} {value : Unit} :
    (coreKind kind).read (.named members) place = .ok value ↔
      Record.Holds "apiVersion" (exactly "v1") () members () ∧ Record.Holds "kind" (exactly kind) () members () := by
  rw [coreKind, Record.read_seq_eq_ok_iff]
  simp only [Record.read_map_eq_ok_iff, Record.read_defaulted_eq_ok_iff]
  constructor
  · rintro ⟨_, _, ⟨_, version, -⟩, named, -⟩
    exact ⟨version, named⟩
  · rintro ⟨version, named⟩
    exact ⟨fun _ => (), (), ⟨(), version, trivial⟩, named, trivial⟩

/-- The members of the metadata of an object. -/
def metadataOf (json : Json) : List (String × Json) :=
  ((Json.valuesOf "metadata" json.members).getLast?.getD .null).members

/-- The members of the data of an object. -/
def dataOf (json : Json) : List (String × Json) := ((Json.valuesOf "data" json.members).getLast?.getD .null).members

/-- What is read from the data and the metadata of an object. -/
structure Parts (json : Json) (data : Option TextMap) (metadata : Option ObjectMeta) : Prop where
  data : Record.Holds "data" (Decoder.nullable Decoder.textMap) none json.members data
  metadata : Record.Holds "metadata" (Decoder.nullable ObjectMeta.ofJson) none json.members metadata

/-- The config map of a key with the given parts. -/
def assemble (key : ResourceKey) (data : Option TextMap) (metadata : Option ObjectMeta) : ConfigMap :=
  ⟨key, data.getD ∅, (metadata.getD {}).ownerRefs.getD [], (metadata.getD {}).resourceVersion⟩

/-- A config map that is read is put together from its parts. -/
theorem parts_of_configMapOfJson {key : ResourceKey} {json : Json} {resource : ConfigMap}
    (read : configMapOfJson key json = .ok resource) :
    ∃ data metadata, Parts json data metadata ∧ resource = assemble key data metadata := by
  obtain ⟨members, rfl, fields⟩ := Record.decodeLoose_eq_ok_iff.1 read
  -- Version, kind, binary data and immutability are read as well, but not kept.
  simp only [Record.read_seq_eq_ok_iff, Record.read_map_eq_ok_iff, Api.metadata,
    Record.read_optionalAnywhere_eq_ok_iff] at fields
  obtain ⟨_, _, ⟨_, _, ⟨_, data, ⟨_, _, ⟨_, -, rfl⟩, -, rfl⟩, heldData, rfl⟩, -, rfl⟩, ⟨metadata, heldMetadata, rfl⟩,
    rfl⟩ := fields
  exact ⟨data, metadata, ⟨heldData, heldMetadata⟩, rfl⟩

/-- A config map that is read has the key that it was asked for under. -/
theorem key_of_configMapOfJson {key : ResourceKey} {json : Json} {resource : ConfigMap}
    (read : configMapOfJson key json = .ok resource) : resource.key = key := by
  -- The key is no part of the object, and is put in whatever the parts are.
  obtain ⟨data, metadata, -, rfl⟩ := parts_of_configMapOfJson read
  rfl

/-- The metadata of an object are read from their members. -/
theorem Parts.ofJson_metadataOf {json : Json} {data : Option TextMap} {metadata : Option ObjectMeta}
    (parts : Parts json data metadata) : ObjectMeta.ofJson (.obj (metadataOf json)) = .ok (metadata.getD {}) :=
  parts.metadata.members (fun _ _ read => (Record.decodeLoose_eq_ok_iff.1 read).imp fun _ object => object.1) rfl

/-- The data of an object are read from their members. -/
theorem Parts.textMap_dataOf {json : Json} {data : Option TextMap} {metadata : Option ObjectMeta}
    (parts : Parts json data metadata) : Decoder.textMap (.obj (dataOf json)) = .ok (data.getD ∅) :=
  parts.data.members (fun json _ read => by
    -- Nothing but an object is read as a map.
    cases json with
    | obj members => exact ⟨members, rfl⟩
    | _ => cases read) rfl

/-- An object that has other parts is read as the config map of those, if the rest of it stays. -/
theorem configMapOfJson_update {key : ResourceKey} {before : Json} {after : List (String × Json)}
    {resource : ConfigMap} (read : configMapOfJson key before = .ok resource)
    (others : ∀ name, name ≠ "metadata" → name ≠ "data" → Json.valuesOf name after = Json.valuesOf name before.members)
    {data : Option TextMap} {metadata : Option ObjectMeta} (parts : Parts (.obj after) data metadata) :
    configMapOfJson key (.obj after) = .ok (assemble key data metadata) := by
  obtain ⟨members, rfl, fields⟩ := Record.decodeLoose_eq_ok_iff.1 read
  have kept {α : Type} {name : String} {decode : Decoder α} {fallback value : α}
      (holds : Record.Holds name decode fallback members value) (apart : name ≠ "metadata") (other : name ≠ "data") :
      Record.Holds name decode fallback after value := holds.congr (others name apart other)
  -- Of the six fields two are the new parts, and the others stand as they stood.
  refine Record.decodeLoose_eq_ok_iff.2 ⟨after, rfl, ?_⟩
  simp only [Api.metadata, Record.read_seq_eq_ok_iff, Record.read_map_eq_ok_iff,
    Record.read_optionalAnywhere_eq_ok_iff, read_coreKind_eq_ok_iff] at fields ⊢
  obtain ⟨_, _, ⟨_, _, ⟨_, _, ⟨_, _, ⟨_, ⟨version, kind⟩, -⟩, binary, -⟩, -, -⟩, immutable, -⟩, -, -⟩ := fields
  have core : Record.Holds "apiVersion" (exactly "v1") () after () ∧
      Record.Holds "kind" (exactly "ConfigMap") () after () :=
    ⟨kept version (by decide) (by decide), kept kind (by decide) (by decide)⟩
  exact ⟨_, _, ⟨_, _, ⟨_, _, ⟨_, _, ⟨(), core, rfl⟩, kept binary (by decide) (by decide), rfl⟩, parts.data, rfl⟩,
    kept immutable (by decide) (by decide), rfl⟩, ⟨_, parts.metadata, rfl⟩, rfl⟩

/-- A patch of owners, version and data gives an object that is read with those, and with what it had else. -/
theorem configMapOfJson_mergePatch {key : ResourceKey} {json : Json} {resource : ConfigMap}
    (read : configMapOfJson key json = .ok resource) {changes inner : List (String × Json)}
    (distinct : (changes.map Prod.fst).Nodup) (patched : ("metadata", .obj inner) ∈ changes)
    (only : ∀ name ∈ changes.map Prod.fst, name = "metadata" ∨ name = "data")
    (inside : ∀ name ∈ inner.map Prod.fst, name = "ownerReferences" ∨ name = "resourceVersion")
    {ownerRefs : Option (List OwnerRef)} {version : Option String} {data : Option TextMap}
    (owned : Record.Holds "ownerReferences" (Decoder.nullable (Decoder.list OwnerRef.ofApiJson)) none
      (Json.mergeMembers (metadataOf json) inner) ownerRefs)
    (versioned : Record.Holds "resourceVersion" (Decoder.nullable Decoder.text) none
      (Json.mergeMembers (metadataOf json) inner) version)
    (filled : Record.Holds "data" (Decoder.nullable Decoder.textMap) none
      (json.mergePatch (.obj changes)).members data) :
    configMapOfJson key (json.mergePatch (.obj changes)) = .ok ⟨key, data.getD ∅, ownerRefs.getD [], version⟩ := by
  obtain ⟨before, metadata, parts, -⟩ := parts_of_configMapOfJson read
  -- The metadata that the patch makes are read as before, but for owners and version.
  have updated : ObjectMeta.ofJson (.obj (Json.mergeMembers (metadataOf json) inner)) =
      .ok { metadata.getD {} with ownerRefs := ownerRefs, resourceVersion := version } := by
    refine ObjectMeta.ofJson_update parts.ofJson_metadataOf (fun name owners versions => ?_) owned versioned
    exact Json.valuesOf_mergeMembers_of_not_mem (fun member => (inside name member).elim owners versions) _
  have spelled : json.mergePatch (.obj changes) = .obj (Json.mergeMembers json.members changes) := by
    rw [Json.mergePatch]
  -- They stand alone under their name, even where there were none or several before.
  have placed := Json.valuesOf_mergePatch_of_obj distinct patched json
  rw [spelled] at filled placed ⊢
  have described : Record.Holds "metadata" (Decoder.nullable ObjectMeta.ofJson) none
      (Json.mergeMembers json.members changes)
      (some { metadata.getD {} with ownerRefs := ownerRefs, resourceVersion := version }) :=
    Record.holds_of_single placed (Record.nullable_obj updated)
  have others : ∀ name, name ≠ "metadata" → name ≠ "data" →
      Json.valuesOf name (Json.mergeMembers json.members changes) = Json.valuesOf name json.members :=
    fun name apart other => Json.valuesOf_mergeMembers_of_not_mem (fun member => (only name member).elim apart other) _
  exact configMapOfJson_update read others ⟨filled, described⟩

/-- The version of an object. -/
def versionOf (json : Json) : Option String :=
  (Json.valuesOf "resourceVersion" (metadataOf json)).getLast?.bind Json.asText?

/-- The patch that gives an object a version. -/
def versionPatch (version : String) : Json := .obj [("metadata", .obj [("resourceVersion", .str version)])]

/-- The version of an object is that of the config map that is read from it. -/
theorem versionOf_eq {key : ResourceKey} {json : Json} {resource : ConfigMap}
    (read : configMapOfJson key json = .ok resource) : versionOf json = resource.version := by
  obtain ⟨data, metadata, parts, rfl⟩ := parts_of_configMapOfJson read
  have versioned := (ObjectMeta.holds_of_ofJson parts.ofJson_metadataOf).2
  change versionOf json = (metadata.getD {}).resourceVersion
  rw [versionOf]
  -- Null and nothing alike are no version.
  rcases versioned.last with ⟨missing, absent⟩ | ⟨found, last, decoded⟩
  · rw [missing, absent]
    rfl
  · rw [last]
    rcases Record.nullable_eq_ok_iff.1 decoded with ⟨rfl, absent⟩ | ⟨-, text, spelled, given⟩
    · rw [absent]
      rfl
    · rw [given]
      cases found with
      | str value =>
        obtain rfl := Except.ok.inj spelled
        rfl
      | _ => cases spelled

/-- An object that gets a version is read as its config map under that version. -/
theorem configMapOfJson_versionPatch {key : ResourceKey} {json : Json} {resource : ConfigMap}
    (read : configMapOfJson key json = .ok resource) (version : String) :
    configMapOfJson key (json.mergePatch (versionPatch version)) = .ok (resource.atVersion (some version)) := by
  obtain ⟨data, metadata, parts, rfl⟩ := parts_of_configMapOfJson read
  have owned := (ObjectMeta.holds_of_ofJson parts.ofJson_metadataOf).1
  have mentioned : ("resourceVersion", Json.str version) ∈ [("resourceVersion", Json.str version)] := List.mem_cons_self
  have put := Json.valuesOf_mergeMembers_of_mem (by simp) mentioned (metadataOf json)
  refine configMapOfJson_mergePatch read (by simp) List.mem_cons_self (by simp) (by simp)
    (owned.congr (Json.valuesOf_mergeMembers_of_not_mem (by simp) _)) (Record.holds_of_single put rfl)
    (parts.data.congr ?_)
  -- The data have another name than what is patched.
  rw [Json.mergePatch]
  exact Json.valuesOf_mergeMembers_of_not_mem (by simp) _

/-- What a replacement patches in the metadata. -/
def ownershipOf (resource : ConfigMap) : List (String × Json) :=
  [("resourceVersion", .ofOption .str resource.version),
    ("ownerReferences", .arr (resource.ownerRefs.map OwnerRef.toApiJson))]

/-- The two members that are patched have different names. -/
theorem nodup_ownershipOf (resource : ConfigMap) : ((ownershipOf resource).map Prod.fst).Nodup := by
  simp [ownershipOf]

/-- The version that a replacement was made from ends up in the metadata, or null removes what was there. -/
theorem holds_resourceVersion (resource : ConfigMap) (members : List (String × Json)) :
    Record.Holds "resourceVersion" (Decoder.nullable Decoder.text) none
      (Json.mergeMembers members (ownershipOf resource)) resource.version := by
  have mentioned : ("resourceVersion", .ofOption .str resource.version) ∈ ownershipOf resource := List.mem_cons_self
  have put := Json.valuesOf_mergeMembers_of_mem (nodup_ownershipOf resource) mentioned members
  cases given : resource.version with
  | none =>
    -- Null takes the member away, and a missing version is read as none.
    rw [given] at put
    exact Record.holds_of_nothing put
  | some version =>
    rw [given] at put
    exact Record.holds_of_single put rfl

/-- The owners of a replacement take the place of those before. -/
theorem holds_ownerReferences (resource : ConfigMap) (members : List (String × Json)) :
    Record.Holds "ownerReferences" (Decoder.nullable (Decoder.list OwnerRef.ofApiJson)) none
      (Json.mergeMembers members (ownershipOf resource)) (some resource.ownerRefs) := by
  have mentioned : ("ownerReferences", .arr (resource.ownerRefs.map OwnerRef.toApiJson)) ∈ ownershipOf resource :=
    List.mem_cons_of_mem _ List.mem_cons_self
  have put := Json.valuesOf_mergeMembers_of_mem (nodup_ownershipOf resource) mentioned members
  exact Record.holds_of_single put (Record.nullable_arr (OwnerRef.list_ofApiJson resource.ownerRefs))

/-- An object that is replaced is read as what replaces it, with the data laid over those before. -/
theorem configMapOfJson_replacementToJson (resource : ConfigMap) {json : Json} {existing : ConfigMap}
    (read : configMapOfJson resource.key json = .ok existing) :
    configMapOfJson resource.key (json.mergePatch (replacementToJson resource)) =
      .ok { resource with data := resource.data.laidOver existing.data } := by
  obtain ⟨data, metadata, parts, rfl⟩ := parts_of_configMapOfJson read
  -- The data that are merged are texts again, under the keys of either side.
  have merged : Decoder.textMap (.obj (Json.mergeMembers (dataOf json) resource.data.members)) =
      .ok (resource.data.laidOver (data.getD ∅)) :=
    TextMap.textMap_mergeMembers resource.data parts.textMap_dataOf
  have distinct : ([("metadata", Json.obj (ownershipOf resource)), ("data", .obj resource.data.members)].map
      Prod.fst).Nodup := by simp
  have filled := Json.valuesOf_mergePatch_of_obj distinct (List.mem_cons_of_mem _ List.mem_cons_self) json
  exact configMapOfJson_mergePatch read distinct List.mem_cons_self (by simp) (by simp [ownershipOf])
    (holds_ownerReferences resource _) (holds_resourceVersion resource _)
    (Record.holds_of_single filled (Record.nullable_obj merged))

/-- An object that is replaced is read as what replaces it, if that keeps every key. -/
theorem configMapOfJson_replacementToJson_of_kept (resource : ConfigMap) {json : Json} {existing : ConfigMap}
    (read : configMapOfJson resource.key json = .ok existing)
    (kept : ∀ key, (existing.data.get? key).isSome → (resource.data.get? key).isSome) :
    configMapOfJson resource.key (json.mergePatch (replacementToJson resource)) = .ok resource := by
  rw [configMapOfJson_replacementToJson resource read, TextMap.laidOver_eq_self kept]

/-- The members of the metadata of an object as it is first written. -/
theorem metadataOf_configMapToJson (resource : ConfigMap) :
    metadataOf (configMapToJson resource) = [("name", .str resource.key.name),
      ("namespace", .str resource.key.namespaceName),
      ("ownerReferences", .arr (resource.ownerRefs.map OwnerRef.toApiJson))] := rfl

/-- The metadata of an object as it is first written name it and its owners. -/
theorem ofJson_metadata_configMapToJson (resource : ConfigMap) :
    ObjectMeta.ofJson (.obj (metadataOf (configMapToJson resource))) =
      .ok { name := some resource.key.name
            namespaceName := some resource.key.namespaceName
            ownerRefs := some resource.ownerRefs } := by
  have named : ObjectMeta.ofJson (.obj [("name", .str resource.key.name),
      ("namespace", .str resource.key.namespaceName)]) =
      .ok { name := some resource.key.name, namespaceName := some resource.key.namespaceName } := rfl
  rw [metadataOf_configMapToJson]
  refine ObjectMeta.ofJson_update named (fun other owners _ => ?_) (Record.holds_of_single rfl ?_)
    (Record.holds_of_nothing rfl)
  · simp [Json.valuesOf_cons, Ne.symm owners]
  · exact Record.nullable_arr (OwnerRef.list_ofApiJson resource.ownerRefs)

/-- An object as it is first written is read as its config map, which has no version yet. -/
theorem configMapOfJson_configMapToJson (resource : ConfigMap) :
    configMapOfJson resource.key (configMapToJson resource) = .ok (resource.atVersion none) := by
  -- The version and kind alone make a config map that holds nothing.
  have bare : configMapOfJson resource.key (.obj [("apiVersion", .str "v1"), ("kind", .str "ConfigMap")]) =
      .ok (.fresh resource.key) := rfl
  have others : ∀ name, name ≠ "metadata" → name ≠ "data" →
      Json.valuesOf name (configMapToJson resource).members =
        Json.valuesOf name [("apiVersion", .str "v1"), ("kind", .str "ConfigMap")] := by
    intro name apart unfilled
    simp [configMapToJson, Json.members, Json.valuesOf_cons, Ne.symm apart, Ne.symm unfilled]
  have filled : Record.Holds "data" (Decoder.nullable Decoder.textMap) none (configMapToJson resource).members
      (some resource.data) :=
    Record.holds_of_single rfl (Record.nullable_obj resource.data.textMap_members)
  have described : Record.Holds "metadata" (Decoder.nullable ObjectMeta.ofJson) none (configMapToJson resource).members
      (some _) := Record.holds_of_single rfl
    (Record.nullable_obj (ofJson_metadata_configMapToJson resource))
  exact configMapOfJson_update bare others ⟨filled, described⟩

section Plain

variable {depth : Nat}

/-- A reference is plain. -/
theorem plain_toApiJson (ref : OwnerRef) : Json.Plain (depth + 1) ref.toApiJson := by
  obtain ⟨owner, controller, blocksDeletion⟩ := ref
  have named : Json.Plain (depth + 1) (.obj [("kind", .str owner.kind), ("name", .str owner.name),
      ("uid", .str owner.uid)]) := .cons (.str _) (.cons (.str _) (.cons (.str _) .nil))
  -- The flags are members where they are set.
  cases controller <;> cases blocksDeletion
  case none.none => exact .cons (.str _) named
  case none.some => exact .cons (.str _) (.cons (.bool _) named)
  case some.none => exact .cons (.str _) (.cons (.bool _) named)
  case some.some => exact .cons (.str _) (.cons (.bool _) (.cons (.bool _) named))

/-- References are plain. -/
theorem plain_ownerReferences (refs : List OwnerRef) : Json.Plain (depth + 2) (.arr (refs.map OwnerRef.toApiJson)) := by
  refine .arr fun item member => ?_
  obtain ⟨ref, -, rfl⟩ := List.mem_map.1 member
  exact plain_toApiJson ref

/-- A map is plain. -/
theorem plain_ofTextMap (map : TextMap) : Json.Plain (depth + 1) (.ofTextMap map) := by
  refine .obj fun entry member => ?_
  obtain ⟨binding, -, rfl⟩ := List.mem_map.1 member
  exact .str binding.2

/-- The patch that gives a version is plain. -/
theorem plain_versionPatch (version : String) : Json.Plain (depth + 2) (versionPatch version) :=
  .cons (.cons (.str version) .nil) .nil

/-- A replacement is plain. -/
theorem plain_replacementToJson (resource : ConfigMap) : Json.Plain (depth + 4) (replacementToJson resource) := by
  have version : Json.Plain (depth + 2) (.ofOption .str resource.version) := by
    cases resource.version with
    | none => exact .null
    | some version => exact .str version
  exact .cons (.cons version (.cons (plain_ownerReferences resource.ownerRefs) .nil))
    (.cons (plain_ofTextMap resource.data) .nil)

/-- An object as it is first written is plain. -/
theorem plain_configMapToJson (resource : ConfigMap) : Json.Plain (depth + 4) (configMapToJson resource) :=
  .cons (.str _) (.cons (.str _) (.cons
    (.cons (.str _) (.cons (.str _) (.cons (plain_ownerReferences resource.ownerRefs) .nil)))
    (.cons (plain_ofTextMap resource.data) .nil)))

end Plain

/-- An object is the same but for its data, its owners and its version. -/
structure Untouched (before after : Json) : Prop where
  fields : ∀ name, name ≠ "data" → name ≠ "metadata" → after.member? name = before.member? name
  metadata : ∀ name, name ≠ "ownerReferences" → name ≠ "resourceVersion" →
    (after.member? "metadata").bind (Json.member? name) = (before.member? "metadata").bind (Json.member? name)

/-- What is not touched at all is the same. -/
theorem Untouched.refl (json : Json) : Untouched json json := ⟨fun _ _ _ => rfl, fun _ _ _ => rfl⟩

/-- What is the same through two changes is the same after both. -/
theorem Untouched.trans {before middle after : Json} (first : Untouched before middle)
    (second : Untouched middle after) : Untouched before after := by
  refine ⟨fun name unfilled apart => ?_, fun name owners versions => ?_⟩
  · rw [second.fields name unfilled apart, first.fields name unfilled apart]
  · rw [second.metadata name owners versions, first.metadata name owners versions]

/-- A member of the metadata is the last one of its name there. -/
theorem member?_metadata (name : String) (json : Json) :
    (json.member? "metadata").bind (Json.member? name) = (Json.valuesOf name (metadataOf json)).getLast? := by
  rw [metadataOf, Json.member?_eq_getLast?]
  -- Without metadata there is no member to find, as there is none in null.
  cases (Json.valuesOf "metadata" json.members).getLast? with
  | none => rfl
  | some metadata => exact Json.member?_eq_getLast? name metadata

/-- A patch of owners, version and data touches nothing else. -/
theorem untouched_mergePatch (json : Json) {changes inner : List (String × Json)}
    (distinct : (changes.map Prod.fst).Nodup) (patched : ("metadata", .obj inner) ∈ changes)
    (only : ∀ name ∈ changes.map Prod.fst, name = "metadata" ∨ name = "data")
    (inside : ∀ name ∈ inner.map Prod.fst, name = "ownerReferences" ∨ name = "resourceVersion") :
    Untouched json (json.mergePatch (.obj changes)) := by
  refine ⟨fun name unfilled apart => ?_, fun name owners versions => ?_⟩
  · have outside : name ∉ changes.map Prod.fst := fun member => (only name member).elim apart unfilled
    rw [Json.member?_eq_getLast?, Json.member?_eq_getLast?, Json.mergePatch, Json.members,
      Json.valuesOf_mergeMembers_of_not_mem outside]
  · have outside : name ∉ inner.map Prod.fst := fun member => (inside name member).elim owners versions
    have merged : metadataOf (json.mergePatch (.obj changes)) = Json.mergeMembers (metadataOf json) inner := by
      rw [metadataOf, Json.valuesOf_mergePatch_of_obj distinct patched]
      rfl
    rw [member?_metadata, member?_metadata, merged, Json.valuesOf_mergeMembers_of_not_mem outside]

/-- Giving an object a version touches nothing else. -/
theorem untouched_versionPatch (json : Json) (version : String) :
    Untouched json (json.mergePatch (versionPatch version)) :=
  untouched_mergePatch json (by simp) List.mem_cons_self (by simp) (by simp)

/-- Replacing an object touches nothing but what it is replaced for. -/
theorem untouched_replacementToJson (json : Json) (resource : ConfigMap) :
    Untouched json (json.mergePatch (replacementToJson resource)) :=
  untouched_mergePatch json (by simp) List.mem_cons_self (by simp) (by simp)

end Api

end StorageConfig
