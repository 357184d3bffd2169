import StorageConfig.Proofs.Api.ConfigMapServer
import StorageConfig.Proofs.Memory.World

/-!
Bringing a config map in line through an API server, next to doing so in memory.

The two give the same results and end with the same config map, although the one replaces what it holds and the
other merges a patch into it.
-/

namespace StorageConfig

open Api

/-- A server and a world in memory hold the same under a key, but for the version. -/
inductive Mirrors (dialect : Dialect) (key : ResourceKey) (server : ConfigMapServer) (world : MemoryWorld) : Prop
  | missing (absent : server.objects (configMapPath key) = none) (nothing : world.store.objects key = none)
  | held {json : Json} {resource : ConfigMap} {version : Option String}
    (stored : server.objects (configMapPath key) = some json) (spelled : dialect.Spells json)
    (read : configMapOfJson key json = .ok (resource.atVersion version))
    (same : world.store.objects key = some resource)

/-- What bringing a config map in line comes to, through a server and in memory. -/
structure Agrees (dialect : Dialect) (key : ResourceKey) (values : CsiValues) (owner : Owner)
    (server : ConfigMapServer) (world : MemoryWorld) (result : Except Failure Bool) (served : ConfigMapServer)
    (kept : MemoryWorld) : Prop where
  throughServer :
    (converge (collaborators (ConfigMapServer.transport dialect)) values key owner).run server = (result, served)
  inMemory : (converge MemoryWorld.collaborators values key owner).run world = (result, kept)
  calm : kept.Calm
  mirrors : Mirrors dialect key served kept
  /-- What else the server stores stays. -/
  others : ∀ path, path ≠ configMapPath key → served.objects path = server.objects path
  /-- What the server stored under the key stays but for data, owners and version. -/
  untouched : ∀ json, server.objects (configMapPath key) = some json →
    ∃ after, served.objects (configMapPath key) = some after ∧ Untouched json after

namespace ConfigMapServer

variable {dialect : Dialect} {key : ResourceKey} {values : CsiValues} {owner : Owner} {server : ConfigMapServer}
  {json : Json} {resource : ConfigMap}

/-- What is missing is created. -/
theorem run_converge_of_missing (routable : Routable key) (absent : server.objects (configMapPath key) = none) :
    (converge (collaborators (transport dialect)) values key owner).run server =
      (.ok true, ((server.noting (getRequest key)).noting (postRequest (values.merged owner (.fresh key)))).stored
        dialect (configMapPath key) (configMapToJson (values.merged owner (.fresh key)))) :=
  run_converge_of_ok (run_get_of_missing routable absent) (WritePlan.make_mergeInto_none values owner key)
    (run_create_of_missing routable absent)

/-- What is in line is read and left alone. -/
theorem run_converge_of_settled (routable : Routable key) (stored : server.objects (configMapPath key) = some json)
    (spelled : dialect.Spells json) (read : configMapOfJson key json = .ok resource)
    (free : ∀ name, holderOf owner.groupKind resource.ownerRefs = some name → name = owner.name)
    (settled : values.merged owner resource = resource) :
    (converge (collaborators (transport dialect)) values key owner).run server =
      (.ok false, server.noting (getRequest key)) :=
  run_converge_of_ok (run_get_of_stored routable stored spelled read)
    (WritePlan.make_mergeInto_of_eq (key_of_configMapOfJson read) free settled) rfl

/-- What is not in line is replaced. -/
theorem run_converge_of_unsettled (routable : Routable key) (stored : server.objects (configMapPath key) = some json)
    (spelled : dialect.Spells json) (read : configMapOfJson key json = .ok resource)
    (free : ∀ name, holderOf owner.groupKind resource.ownerRefs = some name → name = owner.name)
    (differs : values.merged owner resource ≠ resource) :
    (converge (collaborators (transport dialect)) values key owner).run server =
      (.ok true, ((server.noting (getRequest key)).noting (patchRequest (values.merged owner resource))).stored
        dialect (configMapPath key) (json.mergePatch (replacementToJson (values.merged owner resource)))) := by
  obtain rfl := key_of_configMapOfJson read
  have replaced : ((collaborators (transport dialect)).replace (values.merged owner resource)).run
      (server.noting (getRequest resource.key)) = _ :=
    run_replace_of_stored routable stored spelled read fun _ current => current
  exact run_converge_of_ok (run_get_of_stored routable stored spelled read)
    (WritePlan.make_mergeInto_of_ne rfl free differs) replaced

/-- What a rival holds is read and left alone. -/
theorem run_converge_of_rival (routable : Routable key) (stored : server.objects (configMapPath key) = some json)
    (spelled : dialect.Spells json) (read : configMapOfJson key json = .ok resource) {name : String}
    (held : holderOf owner.groupKind resource.ownerRefs = some name) (rival : name ≠ owner.name) :
    (converge (collaborators (transport dialect)) values key owner).run server =
      (.error (.alreadyOwned ("ConfigMap/" ++ resource.key.render) owner.kind name),
        server.noting (getRequest key)) :=
  run_converge_of_error (run_get_of_stored routable stored spelled read) (WritePlan.make_mergeInto_rival held rival)

end ConfigMapServer

variable {dialect : Dialect} {key : ResourceKey} {server : ConfigMapServer} {world : MemoryWorld}

/-- A world mirrors what a server stores that it holds itself under whatever version. -/
theorem mirrors_stored {json : Json} {resource : ConfigMap} {version later : Option String}
    (spelled : dialect.Spells json) (read : configMapOfJson key json = .ok (resource.atVersion version))
    (same : world.store.objects key = some (resource.atVersion later)) :
    Mirrors dialect key (server.stored dialect (configMapPath key) json) world := by
  -- The version of the write takes the place of any other.
  have written : configMapOfJson key (server.stamped dialect json) =
      .ok ((resource.atVersion later).atVersion (some (dialect.version server.writes))) := by
    rw [server.configMapOfJson_stamped dialect read]
    rfl
  exact .held (server.objects_stored dialect _ json) (server.spells_stamped spelled) written same

/-- Where neither holds anything, both create the same. -/
theorem exists_agrees_of_missing (routable : Routable key) (calm : world.Calm) (values : CsiValues) (owner : Owner)
    (absent : server.objects (configMapPath key) = none) (nothing : world.store.objects key = none) :
    ∃ result served kept, Agrees dialect key values owner server world result served kept := by
  have made := WritePlan.make_mergeInto_none values owner key
  rw [← nothing] at made
  -- In memory the merge is stored as it is, under the next version.
  obtain ⟨version, found, -⟩ := WritePlan.objects_applied (WritePlan.merges_of_make made)
  rw [nothing, Option.getD_none] at found
  -- The server stores a document that is read as the same merge.
  have spelled : dialect.Spells (configMapToJson (values.merged owner (.fresh key))) :=
    dialect.plain (plain_configMapToJson _)
  have read : configMapOfJson key (configMapToJson (values.merged owner (.fresh key))) =
      .ok ((values.merged owner (.fresh key)).atVersion none) :=
    configMapOfJson_configMapToJson (values.merged owner (.fresh key))
  refine ⟨_, _, _, ConfigMapServer.run_converge_of_missing routable absent, calm.run_converge made, calm.applied _,
    mirrors_stored spelled read found, fun path apart => ConfigMapServer.objects_stored_of_ne apart, ?_⟩
  -- There was no document to be left as it was.
  intro json stored
  rw [absent] at stored
  cases stored

/-- Where both leave alone what they hold, they agree if their results do. -/
theorem Mirrors.agrees_of_alone (mirrors : Mirrors dialect key server world) (calm : world.Calm) {values : CsiValues}
    {owner : Owner} {result : Except Failure Bool}
    (through : (converge (collaborators (ConfigMapServer.transport dialect)) values key owner).run server =
      (result, server.noting (getRequest key)))
    (inside : (converge MemoryWorld.collaborators values key owner).run world = (result, world)) :
    Agrees dialect key values owner server world result (server.noting (getRequest key)) world := by
  refine ⟨through, inside, calm, ?_, fun _ _ => rfl, fun json stored => ⟨json, stored, .refl json⟩⟩
  -- The server has taken note of a request, which is nothing that it stores.
  cases mirrors with
  | missing absent nothing => exact .missing absent nothing
  | held stored spelled read same => exact .held stored spelled read same

section Held

variable {json : Json} {resource : ConfigMap} {version : Option String}

/-- What both hold and is not in line is replaced in memory, and merged into by the server, to the same end. -/
theorem exists_agrees_of_unsettled (routable : Routable key) (calm : world.Calm) {values : CsiValues} {owner : Owner}
    (stored : server.objects (configMapPath key) = some json) (spelled : dialect.Spells json)
    (read : configMapOfJson key json = .ok (resource.atVersion version))
    (same : world.store.objects key = some resource)
    (free : ∀ name, holderOf owner.groupKind resource.ownerRefs = some name → name = owner.name)
    (differs : values.merged owner resource ≠ resource) :
    ∃ result served kept, Agrees dialect key values owner server world result served kept := by
  have at_key : (resource.atVersion version).key = key := key_of_configMapOfJson read
  obtain rfl : resource.key = key := at_key
  have made := WritePlan.make_mergeInto_of_ne rfl free differs
  rw [← same] at made
  obtain ⟨later, found, -⟩ := WritePlan.objects_applied (WritePlan.merges_of_make made)
  rw [same, Option.getD_some] at found
  -- The server comes to the same decision, whatever version it has read.
  have out_of_line := mt (values.merged_atVersion_eq_iff owner resource version).1 differs
  -- A merge keeps every key, so that there is none left over that the patch should have removed.
  have replaced : configMapOfJson resource.key
      (json.mergePatch (replacementToJson ((values.merged owner resource).atVersion version))) =
      .ok ((values.merged owner resource).atVersion version) :=
    configMapOfJson_replacementToJson_of_kept ((values.merged owner resource).atVersion version) read
      (values.keptIn_merged owner resource).bound
  refine ⟨_, _, _, ConfigMapServer.run_converge_of_unsettled routable stored spelled read free out_of_line,
    calm.run_converge made, calm.applied _,
    mirrors_stored (dialect.merged spelled (plain_replacementToJson _)) replaced found,
    fun path apart => ConfigMapServer.objects_stored_of_ne apart, ?_⟩
  -- Neither the patch nor the version that the server adds touches anything else.
  intro before held
  obtain rfl := Option.some.inj (stored.symm.trans held)
  have patched := untouched_replacementToJson json (values.merged owner (resource.atVersion version))
  exact ⟨_, ConfigMapServer.objects_stored _ _ _ _, patched.trans (ConfigMapServer.untouched_stamped dialect _ _)⟩

/-- What both hold is left alone, replaced or refused by both alike. -/
theorem exists_agrees_of_held (routable : Routable key) (calm : world.Calm) (values : CsiValues) (owner : Owner)
    (stored : server.objects (configMapPath key) = some json) (spelled : dialect.Spells json)
    (read : configMapOfJson key json = .ok (resource.atVersion version))
    (same : world.store.objects key = some resource) :
    ∃ result served kept, Agrees dialect key values owner server world result served kept := by
  have mirrors : Mirrors dialect key server world := .held stored spelled read same
  have read_key : (resource.atVersion version).key = key := key_of_configMapOfJson read
  have at_key : resource.key = key := read_key
  by_cases free : ∀ name, holderOf owner.groupKind resource.ownerRefs = some name → name = owner.name
  · by_cases settled : values.merged owner resource = resource
    · -- Both find nothing to do.
      have made := WritePlan.make_mergeInto_of_eq at_key free settled
      rw [← same] at made
      have in_line := (values.merged_atVersion_eq_iff owner resource version).2 settled
      have through := ConfigMapServer.run_converge_of_settled routable stored spelled read free in_line
      exact ⟨_, _, _, mirrors.agrees_of_alone calm through (calm.run_converge made)⟩
    · exact exists_agrees_of_unsettled routable calm stored spelled read same free settled
  · -- Both refuse to take it from the rival that holds it, and name the same one.
    simp only [Classical.not_forall] at free
    obtain ⟨name, held, rival⟩ := free
    have refused : WritePlan.make key (values.mergeInto owner) (some resource) = _ :=
      WritePlan.make_mergeInto_rival held rival
    rw [← same] at refused
    exact ⟨_, _, _, mirrors.agrees_of_alone calm
      (ConfigMapServer.run_converge_of_rival routable stored spelled read held rival)
      (run_converge_of_error (calm.run_get key) refused)⟩

end Held

/-- Whatever both hold or do not hold, bringing it in line comes to the same. -/
theorem Mirrors.exists_agrees (mirrors : Mirrors dialect key server world) (routable : Routable key)
    (calm : world.Calm) (values : CsiValues) (owner : Owner) :
    ∃ result served kept, Agrees dialect key values owner server world result served kept := by
  cases mirrors with
  | missing absent nothing => exact exists_agrees_of_missing routable calm values owner absent nothing
  | held stored spelled read same => exact exists_agrees_of_held routable calm values owner stored spelled read same

/-- Once a config map was brought in line, doing so again reads it and sends nothing else. -/
theorem Agrees.run_again {values : CsiValues} {owner : Owner} {changed : Bool} {served : ConfigMapServer}
    {kept : MemoryWorld} (agrees : Agrees dialect key values owner server world (.ok changed) served kept)
    (routable : Routable key) (calm : world.Calm) :
    (converge (collaborators (ConfigMapServer.transport dialect)) values key owner).run served =
      (.ok false, served.noting (getRequest key)) := by
  -- The success in memory has left a merge there, which the server mirrors.
  obtain ⟨settled, found, holder, in_line⟩ := calm.converge_ok agrees.inMemory
  cases agrees.mirrors with
  | missing absent nothing =>
    rw [nothing] at found
    cases found
  | @held json resource version stored spelled read same =>
    obtain rfl := Option.some.inj (found.symm.trans same)
    -- Its holder is the owner, so that no rival is in the way.
    have free : ∀ name, holderOf owner.groupKind settled.ownerRefs = some name → name = owner.name :=
      fun name held => Option.some.inj (held.symm.trans holder)
    exact ConfigMapServer.run_converge_of_settled routable stored spelled read free
      ((values.merged_atVersion_eq_iff owner settled version).2 in_line)

/--
Bringing a config map in line through an API server is the same as doing so in memory, under every key that can be
written into a request.

The server may hold any document that is read as what the memory holds, or nothing. Both give the same result and
hold the same afterwards, nothing but data, owners and version of the document has changed, and after a success
the next call sends no write.
-/
theorem converge_refines_memory (routable : Routable key) (calm : world.Calm)
    (mirrors : Mirrors dialect key server world) (values : CsiValues) (owner : Owner) :
    ∃ result served kept, Agrees dialect key values owner server world result served kept ∧
      ∀ changed, result = .ok changed →
        (converge (collaborators (ConfigMapServer.transport dialect)) values key owner).run served =
          (.ok false, served.noting (getRequest key)) := by
  obtain ⟨result, served, kept, agrees⟩ := mirrors.exists_agrees routable calm values owner
  refine ⟨result, served, kept, agrees, ?_⟩
  rintro changed rfl
  exact agrees.run_again routable calm

/-- The key of the config map of an operator. -/
def operatorKey : ResourceKey := ⟨"ocs-operator-config", "openshift-storage"⟩

/-- A config map with labels, a finalizer and binary data, but without owners and data. -/
def sealedDocument : Json :=
  .obj [("kind", .str "ConfigMap"),
    ("metadata", .obj [("resourceVersion", .str "7"), ("labels", .obj [("team", .str "storage")]),
      ("finalizers", .arr [.str "keep"]), ("generation", .int 3)]),
    ("binaryData", .obj [("seal", .str "AAEC")]), ("immutable", .null)]

/-- A server that holds that config map. -/
def sealedServer : ConfigMapServer :=
  ⟨fun path => if path = configMapPath operatorKey then some sealedDocument else none, 8, []⟩

/-- A world in memory that holds what is read from it. -/
def sealedWorld : MemoryWorld :=
  { MemoryWorld.empty none with store := MemoryStore.empty.insert (.fresh operatorKey) }

/-- Settings for a config map to hold. -/
def clusterValues : CsiValues := ⟨"cluster-1", true, .preferCrc, false, ""⟩

/-- The cluster that owns them. -/
def clusterOwner : Owner := ⟨"ocs.openshift.io/v1", "StorageCluster", "a", "1"⟩

/-- The config map with a seal is plain. -/
theorem plain_sealedDocument : Json.Plain 127 sealedDocument := by
  have labels : Json.Plain 125 (.obj [("team", .str "storage")]) := .cons (.str _) .nil
  have finalizers : Json.Plain 125 (.arr [.str "keep"]) := .arr (by simpa using .str "keep")
  have generation : Json.Plain 125 (.int 3) := .int ⟨by decide, by decide⟩
  have binary : Json.Plain 126 (.obj [("seal", .str "AAEC")]) := .cons (.str _) .nil
  exact .cons (.str _) (.cons (.cons (.str _) (.cons labels (.cons finalizers (.cons generation .nil))))
    (.cons binary (.cons .null .nil)))

/-- A cluster takes over that config map in both worlds, and has no write to send when it calls again. -/
theorem converge_refines_memory_sealed :
    Routable operatorKey ∧ sealedWorld.Calm ∧ Mirrors .compact operatorKey sealedServer sealedWorld ∧
    ∃ served kept,
      Agrees .compact operatorKey clusterValues clusterOwner sealedServer sealedWorld (.ok true) served kept ∧
      (converge (collaborators (ConfigMapServer.transport .compact)) clusterValues operatorKey clusterOwner).run
        served = (.ok false, served.noting (getRequest operatorKey)) := by
  have name : "ocs-operator-config".toList.all Target.isPathChar = true := by decide +kernel
  have namespaceName : "openshift-storage".toList.all Target.isPathChar = true := by decide +kernel
  have routable : Routable operatorKey :=
    ⟨List.all_eq_true.1 name, List.all_eq_true.1 namespaceName, by decide +kernel⟩
  have calm : sealedWorld.Calm := ⟨rfl, rfl, rfl⟩
  have stored : sealedServer.objects (configMapPath operatorKey) = some sealedDocument := by simp [sealedServer]
  -- The memory has given it another version.
  have read : configMapOfJson operatorKey sealedDocument =
      .ok (((ConfigMap.fresh operatorKey).atVersion (some "1")).atVersion (some "7")) := rfl
  have same : sealedWorld.store.objects operatorKey = some ((ConfigMap.fresh operatorKey).atVersion (some "1")) := rfl
  have mirrors : Mirrors .compact operatorKey sealedServer sealedWorld :=
    .held stored plain_sealedDocument read same
  obtain ⟨result, served, kept, agrees, again⟩ :=
    converge_refines_memory routable calm mirrors clusterValues clusterOwner
  -- In memory the call can be followed to its result.
  have written : ((converge MemoryWorld.collaborators clusterValues operatorKey clusterOwner).run sealedWorld).1 =
      .ok true := rfl
  obtain rfl : result = .ok true := by
    rw [agrees.inMemory] at written
    exact written
  exact ⟨routable, calm, mirrors, served, kept, agrees, again true rfl⟩

/-- A key with a blank in its name, for which no request can be written down. -/
def blankKey : ResourceKey := ⟨"a b", "openshift-storage"⟩

/-- A server that holds nothing. -/
def emptyServer : ConfigMapServer := ⟨fun _ => none, 0, []⟩

/--
The refinement needs a key that can be written into a request.

Neither side holds anything under a blank key. In memory a config map is created there, while nothing is sent to the
server, as the first request cannot be written down.
-/
theorem converge_disagrees_blank :
    (MemoryWorld.empty none).Calm ∧ Mirrors .compact blankKey emptyServer (.empty none) ∧ ¬ Routable blankKey ∧
    (converge (collaborators (ConfigMapServer.transport .compact)) clusterValues blankKey clusterOwner).run
      emptyServer = (.error (.api (.unwritable .invalidCharacter)), emptyServer) ∧
    ((converge MemoryWorld.collaborators clusterValues blankKey clusterOwner).run (.empty none)).1 = .ok true ∧
    ¬ ∃ result served kept,
      Agrees .compact blankKey clusterValues clusterOwner emptyServer (.empty none) result served kept := by
  have through : (converge (collaborators (ConfigMapServer.transport .compact)) clusterValues blankKey
      clusterOwner).run emptyServer = (.error (.api (.unwritable .invalidCharacter)), emptyServer) := rfl
  have inside : ((converge MemoryWorld.collaborators clusterValues blankKey clusterOwner).run (.empty none)).1 =
      .ok true := rfl
  refine ⟨MemoryWorld.calm_empty none, .missing rfl rfl, ?_, through, inside, ?_⟩
  · -- The blank is no character of a path.
    intro routable
    exact absurd (routable.name ' ' (by decide)) (by decide)
  · rintro ⟨result, served, kept, agrees⟩
    -- One result cannot be both a failure and a success.
    have failed := (Prod.mk.inj (agrees.throughServer.symm.trans through)).1
    rw [agrees.inMemory] at inside
    cases failed.symm.trans inside

/-- Bring a config map in line by one call after the other, whether they succeed or not. -/
def convergeInTurn {σ : Type} (world : Collaborators σ) (key : ResourceKey) :
    List (CsiValues × Owner) → Action σ (List (Except Failure Bool))
  | [] => pure []
  | (values, owner) :: calls => do
    let result ← (converge world values key owner).attempt
    let results ← convergeInTurn world key calls
    pure (result :: results)

/-- However many owners call in turn, each of them gets the result that it would get in memory. -/
theorem convergeInTurn_refines_memory (routable : Routable key) (calm : world.Calm)
    (mirrors : Mirrors dialect key server world) (calls : List (CsiValues × Owner)) :
    ∃ results served kept,
      (convergeInTurn (collaborators (ConfigMapServer.transport dialect)) key calls).run server =
        (.ok results, served) ∧
      (convergeInTurn MemoryWorld.collaborators key calls).run world = (.ok results, kept) ∧
      kept.Calm ∧ Mirrors dialect key served kept := by
  -- The induction is on the calls, from whatever states mirror each other.
  induction calls generalizing server world with
  | nil => exact ⟨[], server, world, rfl, rfl, calm, mirrors⟩
  | cons call calls ih =>
    obtain ⟨values, owner⟩ := call
    obtain ⟨result, served, kept, agrees⟩ := mirrors.exists_agrees routable calm values owner
    obtain ⟨results, last, final, through, inside, still, mirrored⟩ := ih agrees.calm agrees.mirrors
    refine ⟨result :: results, last, final, ?_, ?_, still, mirrored⟩
    · rw [convergeInTurn, Action.run_bind_of_ok (Action.run_attempt_of_run agrees.throughServer),
        Action.run_bind_of_ok through]
      rfl
    · rw [convergeInTurn, Action.run_bind_of_ok (Action.run_attempt_of_run agrees.inMemory),
        Action.run_bind_of_ok inside]
      rfl

end StorageConfig
