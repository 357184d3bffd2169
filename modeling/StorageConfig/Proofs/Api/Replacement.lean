import StorageConfig.Proofs.Api.Refinement

/-!
Replacing a config map through an API server, next to doing so in memory.

Memory stores what it is given, and a server merges it into what it holds. Both check the version first, and a
replacement that names one goes through in both places or in neither.
-/

namespace StorageConfig

open Api

/-- What a server and a world in memory both hold under a key, version and all, or that both hold nothing. -/
inductive Reflects (dialect : Dialect) (key : ResourceKey) (server : ConfigMapServer) (world : MemoryWorld) :
    Option ConfigMap → Prop
  | missing (absent : server.objects (configMapPath key) = none) (nothing : world.store.objects key = none) :
    Reflects dialect key server world none
  | held {json : Json} {existing : ConfigMap} (stored : server.objects (configMapPath key) = some json)
    (spelled : dialect.Spells json) (read : configMapOfJson key json = .ok existing)
    (same : world.store.objects key = some existing) : Reflects dialect key server world (some existing)

/--
How replacing what was stored ends, through a server that held it and in a world in memory that did.

The same failures come of the same causes, and differ in the words of a conflict at most.
-/
inductive EndsAlike (dialect : Dialect) (resource : ConfigMap) (stored : Option ConfigMap) (server : ConfigMapServer)
    (world : MemoryWorld) {α : Type} (done : α) :
    Except Failure α × ConfigMapServer → Except Failure α × MemoryWorld → Prop
  /-- What names the stored version goes through, and is found again; a server lays its data over those before. -/
  | replaced {existing : ConfigMap} {served : ConfigMapServer} {kept : MemoryWorld} (held : stored = some existing)
    (current : existing.version = resource.version)
    (throughServer : ((collaborators (ConfigMapServer.transport dialect)).get resource.key).run served =
      (.ok (some { resource with
        data := resource.data.laidOver existing.data
        version := some (dialect.version server.writes) }), served.noting (getRequest resource.key)))
    (inMemory : (MemoryWorld.collaborators.get resource.key).run kept =
      (.ok (some (resource.atVersion (some world.store.nextVersion))), kept)) :
    EndsAlike dialect resource stored server world done (.ok done, served) (.ok done, kept)
  /-- What names another version is refused, and neither store has changed. -/
  | stale {existing : ConfigMap} {served : ConfigMapServer} {words : String} (held : stored = some existing)
    (other : existing.version ≠ resource.version) (unchanged : served.objects = server.objects) :
    EndsAlike dialect resource stored server world done
      (.error (.conflict "ConfigMap" resource.key.render words), served)
      (.error (.conflict "ConfigMap" resource.key.render "resourceVersion mismatch"), world)
  /-- Where nothing was stored, nothing is. -/
  | missing {served : ConfigMapServer} (nothing : stored = none) (unchanged : served.objects = server.objects) :
    EndsAlike dialect resource stored server world done
      (.error (.notFound "ConfigMap" resource.key.render), served)
      (.error (.notFound "ConfigMap" resource.key.render), world)

/-- A replacement names a version where the stored one has a version to name. -/
def Versioned (resource : ConfigMap) (stored : Option ConfigMap) : Prop :=
  ∀ existing, stored = some existing → resource.version = none → existing.version = none

section Ends

variable {dialect : Dialect} {resource : ConfigMap} {stored : Option ConfigMap} {server : ConfigMapServer}
  {world : MemoryWorld} {α β : Type} {done : α}

/-- The requests that a server has taken note of before make no difference. -/
theorem EndsAlike.of_noting {request : Request} {through : Except Failure α × ConfigMapServer}
    {inside : Except Failure α × MemoryWorld}
    (ends : EndsAlike dialect resource stored (server.noting request) world done through inside) :
    EndsAlike dialect resource stored server world done through inside := by
  -- Notes count neither as objects nor as writes.
  cases ends with
  | replaced held current throughServer inMemory => exact .replaced held current throughServer inMemory
  | stale held other unchanged => exact .stale held other unchanged
  | missing nothing unchanged => exact .missing nothing unchanged

/-- What goes on after a replacement only if it went through ends the same way. -/
theorem EndsAlike.map {through : Except Failure α × ConfigMapServer} {inside : Except Failure α × MemoryWorld}
    (ends : EndsAlike dialect resource stored server world done through inside) (next : α → β) :
    EndsAlike dialect resource stored server world (next done) (through.1.map next, through.2)
      (inside.1.map next, inside.2) := by
  cases ends with
  | replaced held current throughServer inMemory => exact .replaced held current throughServer inMemory
  | stale held other unchanged => exact .stale held other unchanged
  | missing nothing unchanged => exact .missing nothing unchanged

/-- What both hold is read by both, and neither reading changes what is held. -/
theorem Reflects.run_get {key : ResourceKey} (reflects : Reflects dialect key server world stored)
    (routable : Routable key) (calm : world.Calm) :
    ((collaborators (ConfigMapServer.transport dialect)).get key).run server =
        (.ok stored, server.noting (getRequest key)) ∧
      (MemoryWorld.collaborators.get key).run world = (.ok stored, world) := by
  cases reflects with
  | missing absent nothing =>
    exact ⟨ConfigMapServer.run_get_of_missing routable absent, nothing ▸ calm.run_get key⟩
  | held stored spelled read same =>
    exact ⟨ConfigMapServer.run_get_of_stored routable stored spelled read, same ▸ calm.run_get key⟩

/-- What both hold is still held by both once the server has taken note of a request. -/
theorem Reflects.noting {key : ResourceKey} (reflects : Reflects dialect key server world stored) (request : Request) :
    Reflects dialect key (server.noting request) world stored := by
  cases reflects with
  | missing absent nothing => exact .missing absent nothing
  | held stored spelled read same => exact .held stored spelled read same

/-- What names the stored version is merged by a server and stored in memory, and both find it again. -/
theorem endsAlike_of_current (routable : Routable resource.key) (calm : world.Calm) {json : Json}
    {existing : ConfigMap} (held : server.objects (configMapPath resource.key) = some json)
    (spelled : dialect.Spells json) (read : configMapOfJson resource.key json = .ok existing)
    (same : world.store.objects resource.key = some existing) (current : existing.version = resource.version) :
    EndsAlike dialect resource (some existing) server world ()
      (((collaborators (ConfigMapServer.transport dialect)).replace resource).run server)
      ((MemoryWorld.collaborators.replace resource).run world) := by
  rw [ConfigMapServer.run_replace_of_stored routable held spelled read fun _ named => current.trans named,
    calm.run_replace_of_current same current]
  refine .replaced rfl current ?_ ?_
  · -- The server finds the merge that it stored, under the version that it gave it.
    have merged : dialect.Spells (json.mergePatch (replacementToJson resource)) :=
      dialect.merged spelled (plain_replacementToJson resource)
    have written := (server.noting (patchRequest resource)).configMapOfJson_stamped dialect
      (configMapOfJson_replacementToJson resource read)
    exact ConfigMapServer.run_get_of_stored routable (ConfigMapServer.objects_stored dialect _ _ _)
      (ConfigMapServer.spells_stamped _ merged) written
  · -- Memory finds what it was given, and is as calm as before.
    have still : MemoryWorld.Calm { world with store := world.store.write resource } :=
      calm.applied (.replace resource)
    rw [still.run_get, world.store.objects_write rfl]
    rfl

/-- What names another version than the stored one is refused by both. -/
theorem endsAlike_of_stale (routable : Routable resource.key) (calm : world.Calm) {json : Json}
    {existing : ConfigMap} (held : server.objects (configMapPath resource.key) = some json)
    (read : configMapOfJson resource.key json = .ok existing)
    (same : world.store.objects resource.key = some existing) {version : String}
    (named : resource.version = some version) (other : existing.version ≠ resource.version) :
    EndsAlike dialect resource (some existing) server world ()
      (((collaborators (ConfigMapServer.transport dialect)).replace resource).run server)
      ((MemoryWorld.collaborators.replace resource).run world) := by
  have newer : existing.version ≠ some version := fun same => other (same.trans named.symm)
  -- The server refuses in words of its own.
  obtain ⟨words, refused⟩ := ConfigMapServer.run_replace_of_stale routable held read named newer
  rw [refused, calm.run_replace_of_stale same other]
  exact .stale rfl other rfl

/-- Replacing what both hold ends alike, if the replacement names a version where it has to. -/
theorem Reflects.endsAlike_replace (reflects : Reflects dialect resource.key server world stored)
    (routable : Routable resource.key) (calm : world.Calm) (versioned : Versioned resource stored) :
    EndsAlike dialect resource stored server world ()
      (((collaborators (ConfigMapServer.transport dialect)).replace resource).run server)
      ((MemoryWorld.collaborators.replace resource).run world) := by
  cases reflects with
  | missing absent nothing =>
    rw [ConfigMapServer.run_replace_of_missing routable absent, calm.run_replace_of_missing nothing]
    exact .missing rfl rfl
  | @held json existing held spelled read same =>
    by_cases current : existing.version = resource.version
    · exact endsAlike_of_current routable calm held spelled read same current
    · -- A replacement without a version would have matched, as there is none to be named.
      cases named : resource.version with
      | none => exact absurd ((versioned existing rfl named).trans named.symm) current
      | some version => exact endsAlike_of_stale routable calm held read same named current

/-- A create-or-update ends as the replacement does that its change calls for. -/
theorem Reflects.endsAlike_createOrUpdate (reflects : Reflects dialect resource.key server world stored)
    (routable : Routable resource.key) (calm : world.Calm) (versioned : Versioned resource stored) {change : Mutation}
    (planned : WritePlan.make resource.key change stored = .ok (.replace resource)) :
    EndsAlike dialect resource stored server world WriteOutcome.updated
      ((createOrUpdate (collaborators (ConfigMapServer.transport dialect)) resource.key change).run server)
      ((createOrUpdate MemoryWorld.collaborators resource.key change).run world) := by
  -- Both read the same first, and go on from there.
  obtain ⟨asked, looked⟩ := reflects.run_get routable calm
  rw [run_createOrUpdate_of_replace asked planned, run_createOrUpdate_of_replace looked planned]
  have ends := (reflects.noting (getRequest resource.key)).endsAlike_replace routable calm versioned
  exact ends.of_noting.map fun _ => WriteOutcome.updated

/-- Where the stored version is named, both writes go through and both stores find what was written. -/
theorem EndsAlike.of_current {existing : ConfigMap} {through : Except Failure α × ConfigMapServer}
    {inside : Except Failure α × MemoryWorld}
    (ends : EndsAlike dialect resource (some existing) server world done through inside)
    (current : existing.version = resource.version) :
    through.1 = .ok done ∧ inside.1 = .ok done ∧
      ((collaborators (ConfigMapServer.transport dialect)).get resource.key).run through.2 =
        (.ok (some { resource with
          data := resource.data.laidOver existing.data
          version := some (dialect.version server.writes) }), through.2.noting (getRequest resource.key)) ∧
      (MemoryWorld.collaborators.get resource.key).run inside.2 =
        (.ok (some (resource.atVersion (some world.store.nextVersion))), inside.2) := by
  cases ends with
  | replaced held _ throughServer inMemory =>
    obtain rfl := Option.some.inj held
    exact ⟨rfl, rfl, throughServer, inMemory⟩
  | stale held other =>
    -- What was refused as stale would not have named the stored version.
    obtain rfl := Option.some.inj held
    exact absurd current other
  | missing nothing => cases nothing

/--
Replacing a config map comes to the same through an API server and in memory.

Whatever both hold under its key or do not hold, a replacement that names a version where the stored one has one
goes through in both places or fails for the same reason in both. So does a create-or-update whose change calls for
that replacement.
-/
theorem replace_agrees_with_memory (routable : Routable resource.key) (calm : world.Calm)
    (reflects : Reflects dialect resource.key server world stored) (versioned : Versioned resource stored) :
    EndsAlike dialect resource stored server world ()
        (((collaborators (ConfigMapServer.transport dialect)).replace resource).run server)
        ((MemoryWorld.collaborators.replace resource).run world) ∧
      ∀ change, WritePlan.make resource.key change stored = .ok (.replace resource) →
        EndsAlike dialect resource stored server world WriteOutcome.updated
          ((createOrUpdate (collaborators (ConfigMapServer.transport dialect)) resource.key change).run server)
          ((createOrUpdate MemoryWorld.collaborators resource.key change).run world) :=
  ⟨reflects.endsAlike_replace routable calm versioned,
    fun _ planned => reflects.endsAlike_createOrUpdate routable calm versioned planned⟩

end Ends

/-- A config map with a note, as it is stored under the seventh version. -/
def notedConfigMap : ConfigMap := ⟨operatorKey, TextMap.ofList [("NOTE", "keep")], [], some "7"⟩

/-- The document that holds it. -/
def notedDocument : Json :=
  .obj [("kind", .str "ConfigMap"), ("metadata", .obj [("resourceVersion", .str "7")]),
    ("data", .obj [("NOTE", .str "keep")])]

/-- A server that holds that document. -/
def notedServer : ConfigMapServer :=
  ⟨fun path => if path = configMapPath operatorKey then some notedDocument else none, 8, []⟩

/-- A world in memory that holds that config map. -/
def notedWorld : MemoryWorld :=
  { MemoryWorld.empty none with
    store := { MemoryStore.empty with
      objects := fun key => if key = operatorKey then some notedConfigMap else none
      version := 7 } }

/-- Take the note away. -/
def dropNote : Mutation := fun resource => .ok { resource with data := resource.data.erase "NOTE" }

/-- The config map without its note. -/
def notelessConfigMap : ConfigMap := { notedConfigMap with data := ∅ }

/-- The config map of an operator has a path of its own. -/
theorem routable_operatorKey : Routable operatorKey := by
  have name : "ocs-operator-config".toList.all Target.isPathChar = true := by decide +kernel
  have namespaceName : "openshift-storage".toList.all Target.isPathChar = true := by decide +kernel
  exact ⟨List.all_eq_true.1 name, List.all_eq_true.1 namespaceName, by decide +kernel⟩

/-- The world with the note is calm. -/
theorem calm_notedWorld : notedWorld.Calm := ⟨rfl, rfl, rfl⟩

/-- The server stores the document with the note. -/
theorem stored_notedDocument : notedServer.objects (configMapPath operatorKey) = some notedDocument := by
  simp [notedServer]

/-- The document with the note is plain. -/
theorem plain_notedDocument : Json.Plain 127 notedDocument :=
  .cons (.str _) (.cons (.cons (.str _) .nil) (.cons (.cons (.str _) .nil) .nil))

/-- The world holds the config map with the note. -/
theorem held_notedConfigMap : notedWorld.store.objects operatorKey = some notedConfigMap := by simp [notedWorld]

/-- The server and the world hold the same note. -/
theorem reflects_noted : Reflects .compact operatorKey notedServer notedWorld (some notedConfigMap) :=
  .held stored_notedDocument plain_notedDocument rfl held_notedConfigMap

/-- Without its note the config map still names the stored version. -/
theorem versioned_noteless : Versioned notelessConfigMap (some notedConfigMap) := by
  intro existing _ unnamed
  cases unnamed

/-- Taking the note away calls for a replacement. -/
theorem make_dropNote :
    WritePlan.make operatorKey dropNote (some notedConfigMap) = .ok (.replace notelessConfigMap) := by
  have dropped : dropNote notedConfigMap = .ok notelessConfigMap := rfl
  have differs : notelessConfigMap ≠ notedConfigMap := by decide +kernel
  have stays : notelessConfigMap.key = operatorKey := rfl
  rw [WritePlan.make_some_of_ok dropped stays, if_neg differs]

/-- Taking the note away goes through in both places, as does the replacement that it calls for. -/
theorem replace_agrees_with_memory_noted :
    Routable notelessConfigMap.key ∧ notedWorld.Calm ∧
    Reflects .compact notelessConfigMap.key notedServer notedWorld (some notedConfigMap) ∧
    Versioned notelessConfigMap (some notedConfigMap) ∧
    (((collaborators (ConfigMapServer.transport .compact)).replace notelessConfigMap).run notedServer).1 = .ok () ∧
    ((MemoryWorld.collaborators.replace notelessConfigMap).run notedWorld).1 = .ok () ∧
    ((createOrUpdate (collaborators (ConfigMapServer.transport .compact)) notelessConfigMap.key dropNote).run
      notedServer).1 = .ok .updated ∧
    ((createOrUpdate MemoryWorld.collaborators notelessConfigMap.key dropNote).run notedWorld).1 = .ok .updated := by
  have routable : Routable notelessConfigMap.key := routable_operatorKey
  have reflects : Reflects .compact notelessConfigMap.key notedServer notedWorld (some notedConfigMap) := reflects_noted
  obtain ⟨replaced, updated⟩ := replace_agrees_with_memory routable calm_notedWorld reflects versioned_noteless
  -- The stored version is named, so that neither can be refused.
  obtain ⟨through, inside, -⟩ := replaced.of_current rfl
  obtain ⟨overServer, overMemory, -⟩ := (updated dropNote make_dropNote).of_current rfl
  exact ⟨routable, calm_notedWorld, reflects, versioned_noteless, through, inside, overServer, overMemory⟩

/--
The agreement needs its hypotheses, and leaves out what a merge leaves in place.

A note that was taken away is gone in memory, but still there for who asks the server. A replacement that names no
version is refused in memory, but overwrites what the server holds. A key that cannot be written into a request is
missing in memory, but a fault of the request to the server.
-/
theorem replace_disagreements :
    (∃ served kept found recalled,
      (createOrUpdate (collaborators (ConfigMapServer.transport .compact)) operatorKey dropNote).run notedServer =
        (.ok .updated, served) ∧
      (createOrUpdate MemoryWorld.collaborators operatorKey dropNote).run notedWorld = (.ok .updated, kept) ∧
      ((collaborators (ConfigMapServer.transport .compact)).get operatorKey).run served =
        (.ok (some found), served.noting (getRequest operatorKey)) ∧
      found.data.get? "NOTE" = some "keep" ∧
      (MemoryWorld.collaborators.get operatorKey).run kept = (.ok (some recalled), kept) ∧
      recalled.data.get? "NOTE" = none) ∧
    ((((collaborators (ConfigMapServer.transport .compact)).replace (notedConfigMap.atVersion none)).run
        notedServer).1 = .ok () ∧
      (MemoryWorld.collaborators.replace (notedConfigMap.atVersion none)).run notedWorld =
        (.error (MemoryStore.conflict operatorKey "resourceVersion mismatch"), notedWorld)) ∧
    ((collaborators (ConfigMapServer.transport .compact)).replace (.fresh blankKey)).run notedServer =
        (.error (.api (.unwritable .invalidCharacter)), notedServer) ∧
      (MemoryWorld.collaborators.replace (.fresh blankKey)).run notedWorld =
        (.error (.notFound "ConfigMap" blankKey.render), notedWorld) := by
  refine ⟨?dropped, ⟨?overwritten, ?refused⟩, ?unwritable, ?unknown⟩
  case dropped =>
    have ends : EndsAlike .compact notelessConfigMap (some notedConfigMap) notedServer notedWorld WriteOutcome.updated
        _ _ :=
      reflects_noted.endsAlike_createOrUpdate routable_operatorKey calm_notedWorld versioned_noteless make_dropNote
    -- The patch has no word on the note, so that the merge leaves it.
    obtain ⟨through, inside, found, recalled⟩ := ends.of_current rfl
    exact ⟨_, _, _, _, Prod.ext through rfl, Prod.ext inside rfl, found, by decide +kernel, recalled, rfl⟩
  case overwritten =>
    -- Without a version there is none that the server could find to be stale.
    have unnamed : ∀ version, (notedConfigMap.atVersion none).version = some version →
        notedConfigMap.version = some version := fun _ named => nomatch named
    have routable : Routable (notedConfigMap.atVersion none).key := routable_operatorKey
    exact congrArg Prod.fst
      (ConfigMapServer.run_replace_of_stored routable stored_notedDocument plain_notedDocument rfl unnamed)
  case refused =>
    have other : notedConfigMap.version ≠ (notedConfigMap.atVersion none).version := nofun
    exact calm_notedWorld.run_replace_of_stale held_notedConfigMap other
  -- No request for the blank key is ever sent, while memory looks it up like any other.
  case unwritable => rfl
  case unknown =>
    have missing : notedWorld.store.objects blankKey = none := by simp [notedWorld, blankKey, operatorKey]
    exact calm_notedWorld.run_replace_of_missing missing

end StorageConfig
