import StorageConfig.Api.Server
import StorageConfig.Proofs.Api.Client
import StorageConfig.Proofs.Api.Document
import StorageConfig.Proofs.Http.Uri

/-!
An API server for config maps, and what requests to it come to.

It gives out what is stored, stores what is posted, merges patches into what they were made from, and stores
everything that is written under a version of its own choice.
-/

namespace StorageConfig

/-- How a server puts things into words, and which versions it gives out. -/
structure Dialect where
  /-- The text of a document. -/
  print : Json → String
  /-- The documents that there are texts for. -/
  Spells : Json → Prop
  /-- Each of these texts stands for its document. -/
  faithful : ∀ {json}, Spells json → Json.parse? (print json) = some json
  /-- There are texts for plain documents. -/
  plain : ∀ {json}, Json.Plain 127 json → Spells json
  /-- There is a text for what a plain patch makes out of a document that has one. -/
  merged : ∀ {json patch}, Spells json → Json.Plain 127 patch → Spells (json.mergePatch patch)
  /-- The report on a request that is refused, by code and reason. -/
  report : Nat → String → Json
  /-- There are texts for reports, and they are read as refusals for the same reason. -/
  reported : ∀ {code reason}, code < 600 → Spells (report code reason) ∧
    ∃ status message, Refusal.ofJson (report code reason) = .ok ⟨status, message, reason, code⟩
  /-- The version for the write of a number; these may well be all different. -/
  version : Nat → String

/-- A report with a code and a reason, and no more than that. -/
def bareReport (code : Nat) (reason : String) : Json :=
  .obj [("status", .str "Failure"), ("reason", .str reason), ("code", .nat code)]

/-- A bare report is plain. -/
theorem plain_bareReport {code : Nat} (short : code < 600) (reason : String) :
    Json.Plain 127 (bareReport code reason) := by
  have small : (code : Int) < Nat.pow 2 64 := Int.lt_trans (by omega : (code : Int) < 600) (by decide)
  have range : Json.InRange code := ⟨Int.le_trans (by decide) (Int.natCast_nonneg code), small⟩
  exact .cons (.str _) (.cons (.str _) (.cons (.int range) .nil))

/-- A bare report is read as a refusal without a message. -/
theorem ofJson_bareReport {code : Nat} (short : code < 600) (reason : String) :
    Refusal.ofJson (bareReport code reason) = .ok ⟨"Failure", "", reason, code⟩ := by
  have small : code < Nat.pow 2 16 := Nat.lt_trans short (by decide)
  have fits : Decoder.natural 16 "u16" (.nat code) = .ok code := Decoder.natural_nat small "u16"
  refine Record.decode_obj_of_read rfl ?_
  -- Only the code may be out of range, and the message is left to its default.
  simp only [Refusal.fields, Record.read_seq_eq_ok_iff, Record.read_map_eq_ok_iff, Record.read_defaulted_eq_ok_iff]
  exact ⟨_, code, ⟨_, reason, ⟨_, "", ⟨"Failure", rfl, rfl⟩, Record.holds_of_nothing rfl, rfl⟩,
    Record.holds_of_single rfl rfl, rfl⟩, Record.read_required_of_single rfl fits _, rfl⟩

/-- Compact texts, bare reports, and versions that count up. -/
def Dialect.compact : Dialect where
  print := Json.render
  Spells := Json.Plain 127
  faithful := Json.parse?_render
  plain := id
  merged := Json.Plain.mergePatch
  report := bareReport
  reported short := ⟨plain_bareReport short _, _, _, ofJson_bareReport short _⟩
  version := toString

/-- A server of config maps. -/
structure ConfigMapServer where
  /-- What is stored, by path. -/
  objects : String → Option Json
  /-- How many writes there were. -/
  writes : Nat
  /-- What was asked, in order. -/
  received : List Request

namespace ConfigMapServer

/-- The object of a document under the next version. -/
def stamped (dialect : Dialect) (server : ConfigMapServer) (json : Json) : Json :=
  json.mergePatch (Api.versionPatch (dialect.version server.writes))

/-- The server once it has stored a document under the next version. -/
def stored (dialect : Dialect) (server : ConfigMapServer) (path : String) (json : Json) : ConfigMapServer :=
  { server with
    objects := fun other => if other = path then some (server.stamped dialect json) else server.objects other
    writes := server.writes + 1 }

/-- The name that an object gives itself. -/
def nameIn (json : Json) : String :=
  ((Json.valuesOf "name" (Api.metadataOf json)).getLast?.bind Json.asText?).getD ""

/-- Whether a patch was made from another version than the stored one; without a version it was made from any. -/
def isStale (patch json : Json) : Bool :=
  match Api.versionOf patch with
  | some version => Api.versionOf json != some version
  | none => false

/-- Refuse a request. -/
def refuse (dialect : Dialect) (server : ConfigMapServer) (code : Nat) (reason : String) : Reply × ConfigMapServer :=
  (.answered code (dialect.print (dialect.report code reason)), server)

/-- Store a document and answer with what was stored. -/
def accept (dialect : Dialect) (server : ConfigMapServer) (status : Nat) (path : String) (json : Json) :
    Reply × ConfigMapServer :=
  (.answered status (dialect.print (server.stamped dialect json)), server.stored dialect path json)

/-- What a server answers. -/
def answer (dialect : Dialect) (server : ConfigMapServer) (request : Request) : Reply × ConfigMapServer :=
  match request.method, request.body with
  | .get, _ =>
    match server.objects request.target.path with
    | some json => (.answered 200 (dialect.print json), server)
    | none => server.refuse dialect 404 "NotFound"
  | .post, some json =>
    match server.objects (request.target.path ++ "/" ++ nameIn json) with
    | some _ => server.refuse dialect 409 "AlreadyExists"
    | none => server.accept dialect 201 (request.target.path ++ "/" ++ nameIn json) json
  | .patch, some patch =>
    match server.objects request.target.path with
    | some json =>
      if isStale patch json then server.refuse dialect 409 "Conflict"
      else server.accept dialect 200 request.target.path (json.mergePatch patch)
    | none => server.refuse dialect 404 "NotFound"
  | _, _ => server.refuse dialect 405 "MethodNotAllowed"

/-- The server once it has taken note of a request. -/
def noting (server : ConfigMapServer) (request : Request) : ConfigMapServer :=
  { server with received := server.received ++ [request] }

/-- Sending requests to a server. -/
def transport (dialect : Dialect) : Transport ConfigMapServer :=
  ⟨fun request server => (server.noting request).answer dialect request⟩

end ConfigMapServer

namespace Api

/-- The path of the config map of a key. -/
def configMapPath (key : ResourceKey) : String := configMapsPath key.namespaceName ++ "/" ++ key.name

/-- A key whose config map has a path of its own, with room for a query after it. -/
structure Routable (key : ResourceKey) : Prop where
  name : ∀ c ∈ key.name.toList, Target.isPathChar c = true
  namespaceName : ∀ c ∈ key.namespaceName.toList, Target.isPathChar c = true
  short : (configMapPath key).utf8ByteSize < Target.maxLength

/-- The request for the config map of a key. -/
def getRequest (key : ResourceKey) : Request := ⟨.get, ⟨configMapPath key, none⟩, none, none⟩

/-- The request that creates a config map. -/
def postRequest (resource : ConfigMap) : Request :=
  ⟨.post, ⟨configMapsPath resource.key.namespaceName, some ""⟩, some jsonType, some (configMapToJson resource)⟩

/-- The request that replaces a config map. -/
def patchRequest (resource : ConfigMap) : Request :=
  ⟨.patch, ⟨configMapPath resource.key, some ""⟩, some mergePatchType, some (replacementToJson resource)⟩

variable {key : ResourceKey}

/-- The config maps of a namespace have a path in path characters. -/
theorem Routable.chars_configMapsPath (routable : Routable key) :
    ∀ c ∈ (configMapsPath key.namespaceName).toList, Target.isPathChar c = true := by
  have front : "/api/v1/namespaces/".toList.all Target.isPathChar = true := by decide +kernel
  have back : "/configmaps".toList.all Target.isPathChar = true := by decide +kernel
  exact Target.isPathChar_append (Target.isPathChar_append (List.all_eq_true.1 front) routable.namespaceName)
    (List.all_eq_true.1 back)

/-- The config map of a key has a path in path characters. -/
theorem Routable.chars_configMapPath (routable : Routable key) :
    ∀ c ∈ (configMapPath key).toList, Target.isPathChar c = true := by
  have slash : "/".toList.all Target.isPathChar = true := by decide +kernel
  exact Target.isPathChar_append (Target.isPathChar_append routable.chars_configMapsPath (List.all_eq_true.1 slash))
    routable.name

/-- The path of all config maps of a namespace is shorter than that of any one of them. -/
theorem Routable.short_configMapsPath (routable : Routable key) :
    (configMapsPath key.namespaceName).utf8ByteSize < Target.maxLength := by
  have short := routable.short
  simp only [configMapPath, String.utf8ByteSize_append] at short
  omega

/-- The targets of the three requests are written down as they are meant. -/
theorem Routable.parse (routable : Routable key) :
    Target.parse (configMapPath key) = .ok ⟨configMapPath key, none⟩ ∧
      Target.parse (configMapsPath key.namespaceName ++ "?") = .ok ⟨configMapsPath key.namespaceName, some ""⟩ ∧
      Target.parse (configMapPath key ++ "?") = .ok ⟨configMapPath key, some ""⟩ :=
  ⟨Target.parse_path routable.chars_configMapPath (Nat.le_of_lt routable.short),
    Target.parse_path_query routable.chars_configMapsPath routable.short_configMapsPath,
    Target.parse_path_query routable.chars_configMapPath routable.short⟩

/-- A config map as it is first written has the name of its key. -/
theorem nameIn_configMapToJson (resource : ConfigMap) :
    ConfigMapServer.nameIn (configMapToJson resource) = resource.key.name := by
  simp [ConfigMapServer.nameIn, metadataOf_configMapToJson, Json.valuesOf, Json.asText?]

/-- A replacement was made from the version of the config map. -/
theorem versionOf_replacementToJson (resource : ConfigMap) :
    versionOf (replacementToJson resource) = resource.version := by
  obtain ⟨key, data, ownerRefs, version⟩ := resource
  cases version <;> rfl

end Api

namespace ConfigMapServer

open Api

variable {dialect : Dialect} {key : ResourceKey} {server : ConfigMapServer} {json : Json} {resource : ConfigMap}

section Answers

variable {request : Request}

/-- A server refuses to give out what is missing. -/
theorem answer_get_of_missing (asked : request.method = .get) (missing : server.objects request.target.path = none) :
    server.answer dialect request = server.refuse dialect 404 "NotFound" := by
  simp only [answer, asked, missing]

/-- A server gives out what is stored. -/
theorem answer_get_of_stored (asked : request.method = .get) (stored : server.objects request.target.path = some json) :
    server.answer dialect request = (.answered 200 (dialect.print json), server) := by
  simp only [answer, asked, stored]

/-- A server stores what is posted, under the name that it gives itself. -/
theorem answer_post_of_missing (asked : request.method = .post) (sent : request.body = some json)
    (missing : server.objects (request.target.path ++ "/" ++ nameIn json) = none) :
    server.answer dialect request = server.accept dialect 201 (request.target.path ++ "/" ++ nameIn json) json := by
  simp only [answer, asked, sent, missing]

/-- A server merges a patch into what it was made from. -/
theorem answer_patch_of_stored {patch : Json} (asked : request.method = .patch) (sent : request.body = some patch)
    (stored : server.objects request.target.path = some json) (fresh : isStale patch json = false) :
    server.answer dialect request = server.accept dialect 200 request.target.path (json.mergePatch patch) := by
  simp [answer, asked, sent, stored, fresh]

/-- A server refuses a patch that was made from another version than the stored one. -/
theorem answer_patch_of_stale {patch : Json} (asked : request.method = .patch) (sent : request.body = some patch)
    (stored : server.objects request.target.path = some json) (stale : isStale patch json = true) :
    server.answer dialect request = server.refuse dialect 409 "Conflict" := by
  simp [answer, asked, sent, stored, stale]

/-- A server refuses to patch what is missing. -/
theorem answer_patch_of_missing {patch : Json} (asked : request.method = .patch) (sent : request.body = some patch)
    (missing : server.objects request.target.path = none) :
    server.answer dialect request = server.refuse dialect 404 "NotFound" := by
  simp only [answer, asked, sent, missing]

end Answers

/-- What is stored under a path is found there. -/
@[simp] theorem objects_stored (dialect : Dialect) (server : ConfigMapServer) (path : String) (json : Json) :
    (server.stored dialect path json).objects path = some (server.stamped dialect json) := if_pos rfl

/-- What is stored elsewhere stays. -/
theorem objects_stored_of_ne {path other : String} (apart : other ≠ path) :
    (server.stored dialect path json).objects other = server.objects other := if_neg apart

/-- What the server has a text for is read from its reply. -/
theorem readReply_print (spelled : dialect.Spells json) (read : configMapOfJson key json = .ok resource) {status : Nat}
    (welcome : status < 400) :
    readReply (configMapOfJson key) (.answered status (dialect.print json)) = .ok resource :=
  readReply_eq_ok_iff.2 ⟨status, _, json, rfl, by omega, dialect.faithful spelled, read⟩

/-- The report on a refused request is read as a refusal with its code and reason. -/
theorem readReply_report {α : Type} (dialect : Dialect) (decode : Decoder α) {code : Nat} (reason : String)
    (refuses : 400 ≤ code ∧ code < 600) : ∃ status message,
    readReply decode (.answered code (dialect.print (dialect.report code reason))) =
      .error (.refused ⟨status, message, reason, code⟩) := by
  -- The status refuses the request, and its report is one that can be read.
  obtain ⟨spelled, status, message, read⟩ := @Dialect.reported dialect code reason refuses.2
  refine ⟨status, message, readReply_eq_refused_iff.2 ⟨code, _, rfl, by omega, ?_⟩⟩
  rw [refusalOf, dialect.faithful spelled, Option.map_some, read]

/-- A request that is written down is noted and answered, and the answer is read. -/
theorem run_request_of_answer {α : Type} {decode : Decoder α} {text : String} {request : Request}
    (parsed : Target.parse text = .ok request.target) {reply : Reply} {after : ConfigMapServer}
    (answered : (server.noting request).answer dialect request = (reply, after)) {result : Except ApiFailure α}
    (read : readReply decode reply = result) :
    (Api.request (transport dialect) decode request.method text request.contentType request.body).run server =
      (.ok result, after) := by
  have sent : (transport dialect).send request server = (reply, after) := answered
  rw [run_request_of_parse (transport dialect) decode parsed, ← read]
  exact congrArg (fun pair : Reply × ConfigMapServer => (Except.ok (readReply decode pair.1), pair.2)) sent

/-- Reading what is missing finds nothing. -/
theorem run_get_of_missing (routable : Routable key) (missing : server.objects (configMapPath key) = none) :
    ((collaborators (transport dialect)).get key).run server = (.ok none, server.noting (getRequest key)) := by
  have answered : (server.noting (getRequest key)).answer dialect (getRequest key) = _ :=
    answer_get_of_missing rfl missing
  -- Whatever else the report says, it says why.
  obtain ⟨status, message, refused⟩ := readReply_report dialect (configMapOfJson key) "NotFound" (by omega : 400 ≤ 404 ∧ 404 < 600)
  exact Action.run_bind_of_ok (run_request_of_answer routable.parse.1 answered refused) _

/-- Reading what is stored finds its config map. -/
theorem run_get_of_stored (routable : Routable key) (stored : server.objects (configMapPath key) = some json)
    (spelled : dialect.Spells json) (read : configMapOfJson key json = .ok resource) :
    ((collaborators (transport dialect)).get key).run server =
      (.ok (some resource), server.noting (getRequest key)) := by
  have answered : (server.noting (getRequest key)).answer dialect (getRequest key) = _ :=
    answer_get_of_stored rfl stored
  have given := readReply_print spelled read (by omega : 200 < 400)
  exact Action.run_bind_of_ok (run_request_of_answer routable.parse.1 answered given) _

/-- What the server has a text for, it has one for under any version. -/
theorem spells_stamped (server : ConfigMapServer) (spelled : dialect.Spells json) :
    dialect.Spells (server.stamped dialect json) :=
  dialect.merged spelled (plain_versionPatch _)

/-- What the server stores is read as its config map under the version of the write. -/
theorem configMapOfJson_stamped (dialect : Dialect) (server : ConfigMapServer)
    (read : configMapOfJson key json = .ok resource) :
    configMapOfJson key (server.stamped dialect json) =
      .ok (resource.atVersion (some (dialect.version server.writes))) :=
  configMapOfJson_versionPatch read _

/-- What the server stores is as it was given, but for the version. -/
theorem untouched_stamped (dialect : Dialect) (server : ConfigMapServer) (json : Json) :
    Untouched json (server.stamped dialect json) := untouched_versionPatch json _

/-- What is missing is created as it is first written. -/
theorem run_create_of_missing (routable : Routable resource.key)
    (missing : server.objects (configMapPath resource.key) = none) :
    ((collaborators (transport dialect)).create resource).run server =
      (.ok (), (server.noting (postRequest resource)).stored dialect (configMapPath resource.key)
        (configMapToJson resource)) := by
  -- The name that the object gives itself is that of its key.
  have placed : (postRequest resource).target.path ++ "/" ++ nameIn (configMapToJson resource) =
      configMapPath resource.key := by
    rw [nameIn_configMapToJson]
    rfl
  have answered : (server.noting (postRequest resource)).answer dialect (postRequest resource) =
      (server.noting (postRequest resource)).accept dialect 201 (configMapPath resource.key)
        (configMapToJson resource) := by
    rw [← placed] at missing ⊢
    exact answer_post_of_missing rfl rfl missing
  -- What comes back is what was sent, under its first version.
  have spelled : dialect.Spells (configMapToJson resource) := dialect.plain (plain_configMapToJson resource)
  have written := configMapOfJson_stamped dialect (server.noting (postRequest resource))
    (configMapOfJson_configMapToJson resource)
  have created := readReply_print (spells_stamped _ spelled) written (by omega : 201 < 400)
  exact Action.run_bind_of_ok (run_request_of_answer routable.parse.2.1 answered created) _

section Replace

variable {existing : ConfigMap}

/-- What is stored is replaced by what is made from its version, or from none in particular. -/
theorem run_replace_of_stored (routable : Routable resource.key)
    (stored : server.objects (configMapPath resource.key) = some json) (spelled : dialect.Spells json)
    (read : configMapOfJson resource.key json = .ok existing)
    (current : ∀ version, resource.version = some version → existing.version = some version) :
    ((collaborators (transport dialect)).replace resource).run server =
      (.ok (), (server.noting (patchRequest resource)).stored dialect (configMapPath resource.key)
        (json.mergePatch (replacementToJson resource))) := by
  have fresh : isStale (replacementToJson resource) json = false := by
    -- The stored version is the one that the replacement names, if it names any.
    rw [isStale, versionOf_replacementToJson, versionOf_eq read]
    cases named : resource.version with
    | none => rfl
    | some version => simp [current version named]
  have answered : (server.noting (patchRequest resource)).answer dialect (patchRequest resource) = _ :=
    answer_patch_of_stored rfl rfl stored fresh
  -- What comes back is the merge, which is read as a config map again.
  have merged : dialect.Spells (json.mergePatch (replacementToJson resource)) :=
    dialect.merged spelled (plain_replacementToJson resource)
  have written := configMapOfJson_stamped dialect (server.noting (patchRequest resource))
    (configMapOfJson_replacementToJson resource read)
  have replaced := readReply_print (spells_stamped _ merged) written (by omega : 200 < 400)
  exact Action.run_bind_of_ok (run_request_of_answer routable.parse.2.2 answered replaced) _

/-- What was made from another version than the stored one is refused. -/
theorem run_replace_of_stale (routable : Routable resource.key)
    (stored : server.objects (configMapPath resource.key) = some json)
    (read : configMapOfJson resource.key json = .ok existing) {version : String}
    (named : resource.version = some version) (newer : existing.version ≠ some version) :
    ∃ message, ((collaborators (transport dialect)).replace resource).run server =
      (.error (.conflict "ConfigMap" resource.key.render message), server.noting (patchRequest resource)) := by
  have stale : isStale (replacementToJson resource) json = true := by
    rw [isStale, versionOf_replacementToJson, versionOf_eq read, named]
    simpa using newer
  have answered : (server.noting (patchRequest resource)).answer dialect (patchRequest resource) = _ :=
    answer_patch_of_stale rfl rfl stored stale
  -- The message is the server's own, the code is what tells the failure.
  obtain ⟨status, message, refused⟩ :=
    readReply_report dialect (configMapOfJson resource.key) "Conflict" (by omega : 400 ≤ 409 ∧ 409 < 600)
  exact ⟨message, Action.run_bind_of_ok (run_request_of_answer routable.parse.2.2 answered refused) _⟩

/-- What is missing cannot be replaced. -/
theorem run_replace_of_missing (routable : Routable resource.key)
    (missing : server.objects (configMapPath resource.key) = none) :
    ((collaborators (transport dialect)).replace resource).run server =
      (.error (.notFound "ConfigMap" resource.key.render), server.noting (patchRequest resource)) := by
  have answered : (server.noting (patchRequest resource)).answer dialect (patchRequest resource) = _ :=
    answer_patch_of_missing rfl rfl missing
  obtain ⟨status, message, refused⟩ :=
    readReply_report dialect (configMapOfJson resource.key) "NotFound" (by omega : 400 ≤ 404 ∧ 404 < 600)
  exact Action.run_bind_of_ok (run_request_of_answer routable.parse.2.2 answered refused) _

end Replace

end ConfigMapServer

end StorageConfig
