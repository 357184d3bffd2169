import StorageConfig.Api.Server
import StorageConfig.Proofs.Api.Client
import StorageConfig.Proofs.Api.Document
import StorageConfig.Proofs.Pass

/-!
The requests of a pass, in order, for every way in which an API server may answer them.

Pods are deleted only after they were listed, listed only after a write that was acknowledged, and nothing is
written but what follows from the config map that was read.
-/

namespace StorageConfig

namespace Api

/-- A reply tells what is stored under a key: a config map, or that there is none. -/
inductive Stored (key : ResourceKey) (reply : Reply) : Option ConfigMap → Prop
  | found {resource : ConfigMap} (gives : Gives (configMapOfJson key) reply resource) :
    Stored key reply (some resource)
  | absent {refusal : Refusal} (refuses : Refuses reply refusal) (reason : refusal.reason = "NotFound") :
    Stored key reply none

/-- A reply acknowledges a write with the config map that was written. -/
def Acknowledged (key : ResourceKey) (reply : Reply) : Prop := ∃ resource, Gives (configMapOfJson key) reply resource

/-- A reply lists pods; one that names no namespace is in the one that was asked for. -/
def Listed (namespaceName : String) (reply : Reply) (pods : List PodRef) : Prop :=
  ∃ items, Gives podListOfJson reply items ∧
    pods = items.map fun pod => ⟨pod.namespaceName.getD namespaceName, pod.displayName⟩

/-- A reply accepts a deletion, or tells that the pod is gone already. -/
def Accepted (reply : Reply) : Prop :=
  Gives deletionOfJson reply () ∨ ∃ refusal, Refuses reply refusal ∧ refusal.code = 404

/-- The identity that a reply tells, nothing if it tells none. -/
def identityIn (reply : Reply) : String :=
  match readReply clusterIdOfJson reply with
  | .ok (some identity) => identity
  | _ => ""

/-- The version that the body of a request names. -/
def versionIn (request : Request) : Option Json :=
  (request.body.bind (Json.member? "metadata")).bind (Json.member? "resourceVersion")

/-- The deletions of pods: one for each in turn, up to the last pod or to the first that is not accepted. -/
structure Deletions (pods : List PodRef) (exchanges : List Exchange) : Prop where
  /-- Each deletion is of the pod at its place in the list. -/
  inTurn : ∀ (place : Nat) (exchange : Exchange), exchanges[place]? = some exchange →
    ∃ pod : PodRef, pods[place]? = some pod ∧
    Asks .delete (podsPath pod.namespaceName ++ "/" ++ pod.name ++ "?") (some jsonType) (some (.obj []))
      exchange.request
  /-- Only the last deletion may fail. -/
  goesOn : ∀ (place : Nat) (exchange : Exchange), exchanges[place]? = some exchange → place + 1 < exchanges.length →
    Accepted exchange.reply
  /-- It fails, or there is no pod left. -/
  stops : exchanges.length = pods.length ∨ ∃ last : Exchange, exchanges.getLast? = some last ∧ ¬ Accepted last.reply

section Trace

variable (settings : Settings) (target : ResourceKey)

/-- What follows a write, by the reply to it. -/
inductive RestartTrace (written : Reply) : List Exchange → Prop
  /-- Without an acknowledgement nothing does. -/
  | unacknowledged (lost : ¬ Acknowledged target written) : RestartTrace written []
  /-- After a listing that fails nothing does. -/
  | unlisted {listing : Exchange} (acknowledged : Acknowledged target written)
      (lists : Asks .get (podsPath target.namespaceName ++ "?&labelSelector=" ++ Form.encode settings.dependents.render)
        none none listing.request)
      (failed : ∀ pods, ¬ Listed target.namespaceName listing.reply pods) : RestartTrace written [listing]
  | restarts {listing : Exchange} {pods : List PodRef} {deletions : List Exchange}
      (acknowledged : Acknowledged target written)
      (lists : Asks .get (podsPath target.namespaceName ++ "?&labelSelector=" ++ Form.encode settings.dependents.render)
        none none listing.request)
      (listed : Listed target.namespaceName listing.reply pods) (deletes : Deletions pods deletions) :
    RestartTrace written (listing :: deletions)

/-- What follows the reading of the config map, by the reply to it. -/
inductive WriteTrace (owner : Owner) (values : CsiValues) (read : Reply) : List Exchange → Prop
  /-- Nothing does if it tells neither of a config map nor that there is none. -/
  | unread (failed : ∀ stored, ¬ Stored target read stored) : WriteTrace owner values read []
  /-- Nothing does if the merge is refused. -/
  | refused {existing : ConfigMap} {failure : Failure} (found : Stored target read (some existing))
      (refuses : values.mergeInto owner existing = .error failure) : WriteTrace owner values read []
  /-- Nothing does if the merge makes no difference. -/
  | kept {existing : ConfigMap} (found : Stored target read (some existing))
      (keeps : values.mergeInto owner existing = .ok existing) : WriteTrace owner values read []
  | creates {write : Exchange} {resource : ConfigMap} {rest : List Exchange} (absent : Stored target read none)
      (merges : values.mergeInto owner (.fresh target) = .ok resource)
      (posts : Asks .post (configMapsPath target.namespaceName ++ "?") (some jsonType)
        (some (configMapToJson resource)) write.request)
      (continues : RestartTrace settings target write.reply rest) : WriteTrace owner values read (write :: rest)
  | replaces {write : Exchange} {existing resource : ConfigMap} {rest : List Exchange}
      (found : Stored target read (some existing)) (merges : values.mergeInto owner existing = .ok resource)
      (differs : resource ≠ existing)
      (patches : Asks .patch (configMapsPath target.namespaceName ++ "/" ++ target.name ++ "?") (some mergePatchType)
        (some (replacementToJson resource)) write.request)
      /- Null stands for a version that was not given. -/
      (versioned : versionIn write.request = some (.ofOption .str existing.version))
      (continues : RestartTrace settings target write.reply rest) : WriteTrace owner values read (write :: rest)

end Trace

/-- The requests of a pass with their replies, in order. -/
inductive PassTrace (settings : Settings) (cluster : StorageCluster) : List Exchange → Prop
  | unowned (missing : cluster.metadata.uid = none) : PassTrace settings cluster []
  | reads {uid : String} {identity stored : Exchange} {rest : List Exchange} (owned : cluster.metadata.uid = some uid)
      (asksIdentity : Asks .get (clusterVersionsPath ++ "/" ++ settings.identitySingleton) none none identity.request)
      (asksStored : Asks .get (configMapsPath (settings.targetOf cluster).namespaceName ++ "/"
        ++ (settings.targetOf cluster).name) none none stored.request)
      (continues : WriteTrace settings (settings.targetOf cluster)
        ⟨StorageCluster.apiVersion, StorageCluster.kind, cluster.displayName, uid⟩
        (.derive cluster.spec (identityIn identity.reply) cluster.topologyLabel) stored.reply rest) :
    PassTrace settings cluster (identity :: stored :: rest)

/-- Everything that a pass may ask for can be written down, the pods that it finds listed included. -/
structure Addressable (settings : Settings) (cluster : StorageCluster) (script : Script) : Prop where
  identity : Writable (clusterVersionsPath ++ "/" ++ settings.identitySingleton)
  stored : Writable (configMapsPath (settings.targetOf cluster).namespaceName ++ "/" ++ (settings.targetOf cluster).name)
  creation : Writable (configMapsPath (settings.targetOf cluster).namespaceName ++ "?")
  replacement : Writable (configMapsPath (settings.targetOf cluster).namespaceName ++ "/"
    ++ (settings.targetOf cluster).name ++ "?")
  listing : Writable (podsPath (settings.targetOf cluster).namespaceName ++ "?&labelSelector="
    ++ Form.encode settings.dependents.render)
  /-- The reply to a listing is the fourth one, if a pass comes to list. -/
  deletion : ∀ pods, Listed (settings.targetOf cluster).namespaceName (script.replyTo 3) pods →
    ∀ pod ∈ pods, Writable (podsPath pod.namespaceName ++ "/" ++ pod.name ++ "?")

/-- The pods that a reply lists, if it lists any. -/
def listedIn (namespaceName : String) (reply : Reply) : Option (List PodRef) :=
  (readReply podListOfJson reply).toOption.map fun items =>
    items.map fun pod => ⟨pod.namespaceName.getD namespaceName, pod.displayName⟩

/-- What a reply lists is what the client reads from it. -/
theorem listed_iff {namespaceName : String} {reply : Reply} {pods : List PodRef} :
    Listed namespaceName reply pods ↔ pods ∈ listedIn namespaceName reply := by
  simp only [Listed, listedIn, ← readReply_eq_ok_iff]
  cases readReply podListOfJson reply <;> simp [Except.toOption, eq_comm]

/-- Everything can be written down exactly if the targets can, one for each pod that is listed among them. -/
theorem addressable_iff {settings : Settings} {cluster : StorageCluster} {script : Script} :
    Addressable settings cluster script ↔
      Writable (clusterVersionsPath ++ "/" ++ settings.identitySingleton) ∧
      Writable (configMapsPath (settings.targetOf cluster).namespaceName ++ "/"
        ++ (settings.targetOf cluster).name) ∧
      Writable (configMapsPath (settings.targetOf cluster).namespaceName ++ "?") ∧
      Writable (configMapsPath (settings.targetOf cluster).namespaceName ++ "/"
        ++ (settings.targetOf cluster).name ++ "?") ∧
      Writable (podsPath (settings.targetOf cluster).namespaceName ++ "?&labelSelector="
        ++ Form.encode settings.dependents.render) ∧
      ∀ pods ∈ listedIn (settings.targetOf cluster).namespaceName (script.replyTo 3),
        ∀ pod ∈ pods, Writable (podsPath pod.namespaceName ++ "/" ++ pod.name ++ "?") := by
  simp only [← listed_iff]
  constructor
  · rintro ⟨identity, stored, creation, replacement, listing, deletion⟩
    exact ⟨identity, stored, creation, replacement, listing, deletion⟩
  · rintro ⟨identity, stored, creation, replacement, listing, deletion⟩
    exact ⟨identity, stored, creation, replacement, listing, deletion⟩

instance (settings : Settings) (cluster : StorageCluster) (script : Script) :
    Decidable (Addressable settings cluster script) := decidable_of_iff' _ addressable_iff

variable {script : Script}

/-- Looking up the identity is one request, and what comes back decides on the identity. -/
theorem run_resolveIdentity {singleton : String} (writable : Writable (clusterVersionsPath ++ "/" ++ singleton))
    (script : Script) :
    ∃ sent, Asks .get (clusterVersionsPath ++ "/" ++ singleton) none none sent ∧
      (resolveIdentity (collaborators Script.transport) singleton).run script =
        (.ok (identityIn (script.replyTo 0)), script.next sent) := by
  obtain ⟨sent, asks, ran⟩ := run_request clusterIdOfJson writable .get none none script
  refine ⟨sent, asks, ?_⟩
  -- Every failure ends up as the empty identity.
  have looked : (identity Script.transport singleton).run script = _ := Action.run_bind_of_ok ran _
  simp only [resolveIdentity, collaborators, Action.run_bind, Action.run_attempt, looked, identityIn]
  rcases readReply clusterIdOfJson (script.replyTo 0) with cause | _ | identity <;> rfl

/-- What is stored is told by what the client makes of the reply. -/
theorem stored_iff {key : ResourceKey} {reply : Reply} {stored : Option ConfigMap} :
    Stored key reply stored ↔
      (∃ resource, stored = some resource ∧ readReply (configMapOfJson key) reply = .ok resource) ∨
      (stored = none ∧ ∃ refusal, readReply (configMapOfJson key) reply = .error (.refused refusal) ∧
        refusal.reason = "NotFound") := by
  constructor
  · rintro (gives | ⟨refuses, reason⟩)
    · exact .inl ⟨_, rfl, readReply_eq_ok_iff.2 gives⟩
    · exact .inr ⟨rfl, _, readReply_eq_refused_iff.2 refuses, reason⟩
  · rintro (⟨resource, rfl, read⟩ | ⟨rfl, refusal, read, reason⟩)
    · exact .found (readReply_eq_ok_iff.1 read)
    · exact .absent (readReply_eq_refused_iff.1 read) reason

/-- Reading the config map is one request, and what comes back decides on the result. -/
theorem run_get {key : ResourceKey} (writable : Writable (configMapsPath key.namespaceName ++ "/" ++ key.name))
    (script : Script) :
    ∃ sent, Asks .get (configMapsPath key.namespaceName ++ "/" ++ key.name) none none sent ∧
      (((collaborators Script.transport).get key).run script).2 = script.next sent ∧
      ∀ stored, (((collaborators Script.transport).get key).run script).1 = .ok stored ↔
        Stored key (script.replyTo 0) stored := by
  obtain ⟨sent, asks, ran⟩ := run_request (configMapOfJson key) writable .get none none script
  have got : ((collaborators Script.transport).get key).run script = _ := Action.run_bind_of_ok ran _
  refine ⟨sent, asks, ?_⟩
  simp only [stored_iff, got]
  -- Only an object and the refusal of what does not exist are no failures.
  rcases readReply (configMapOfJson key) (script.replyTo 0) with ⟨refusal | _ | _ | _⟩ | resource
  · by_cases missing : refusal.reason = "NotFound"
    · simp [missing, eq_comm]
    · simp [missing]
  all_goals simp [eq_comm]

/-- Creating a config map is one request, and succeeds exactly if it is acknowledged. -/
theorem run_create (resource : ConfigMap) (writable : Writable (configMapsPath resource.key.namespaceName ++ "?"))
    (script : Script) :
    ∃ sent, Asks .post (configMapsPath resource.key.namespaceName ++ "?") (some jsonType)
        (some (configMapToJson resource)) sent ∧
      (((collaborators Script.transport).create resource).run script).2 = script.next sent ∧
      ((((collaborators Script.transport).create resource).run script).1 = .ok () ↔
        Acknowledged resource.key (script.replyTo 0)) := by
  obtain ⟨sent, asks, ran⟩ := run_request (configMapOfJson resource.key) writable .post (some jsonType)
    (some (configMapToJson resource)) script
  have wrote : ((collaborators Script.transport).create resource).run script = _ := Action.run_bind_of_ok ran _
  refine ⟨sent, asks, ?_⟩
  simp only [Acknowledged, ← readReply_eq_ok_iff, wrote]
  -- Every failure stays one, whatever its code makes of it.
  rcases readReply (configMapOfJson resource.key) (script.replyTo 0) with ⟨_ | _ | _ | _⟩ | written <;> simp

/-- Replacing a config map is one request, and succeeds exactly if it is acknowledged. -/
theorem run_replace (resource : ConfigMap)
    (writable : Writable (configMapsPath resource.key.namespaceName ++ "/" ++ resource.key.name ++ "?"))
    (script : Script) :
    ∃ sent, Asks .patch (configMapsPath resource.key.namespaceName ++ "/" ++ resource.key.name ++ "?")
        (some mergePatchType) (some (replacementToJson resource)) sent ∧
      (((collaborators Script.transport).replace resource).run script).2 = script.next sent ∧
      ((((collaborators Script.transport).replace resource).run script).1 = .ok () ↔
        Acknowledged resource.key (script.replyTo 0)) := by
  obtain ⟨sent, asks, ran⟩ := run_request (configMapOfJson resource.key) writable .patch
    (some mergePatchType) (some (replacementToJson resource)) script
  have wrote : ((collaborators Script.transport).replace resource).run script = _ := Action.run_bind_of_ok ran _
  refine ⟨sent, asks, ?_⟩
  simp only [Acknowledged, ← readReply_eq_ok_iff, wrote]
  rcases readReply (configMapOfJson resource.key) (script.replyTo 0) with ⟨_ | _ | _ | _⟩ | written <;> simp

/-- Listing pods is one request, and what comes back decides on the result. -/
theorem run_list {namespaceName : String} {selector : Selector}
    (writable : Writable (podsPath namespaceName ++ "?&labelSelector=" ++ Form.encode selector.render))
    (script : Script) :
    ∃ sent, Asks .get (podsPath namespaceName ++ "?&labelSelector=" ++ Form.encode selector.render) none none sent ∧
      (((collaborators Script.transport).list namespaceName selector).run script).2 = script.next sent ∧
      ∀ pods, (((collaborators Script.transport).list namespaceName selector).run script).1 = .ok pods ↔
        Listed namespaceName (script.replyTo 0) pods := by
  obtain ⟨sent, asks, ran⟩ := run_request podListOfJson writable .get none none script
  have listed : ((collaborators Script.transport).list namespaceName selector).run script = _ :=
    Action.run_bind_of_ok ran _
  refine ⟨sent, asks, ?_⟩
  simp only [Listed, ← readReply_eq_ok_iff, listed]
  rcases readReply podListOfJson (script.replyTo 0) with cause | items
  · simp [orFail, Except.mapError, Action.run_bind]
  · simp [orFail, Except.mapError, eq_comm]

/-- Terminating a pod is one request, and succeeds exactly if it is accepted. -/
theorem run_terminate {pod : PodRef} (writable : Writable (podsPath pod.namespaceName ++ "/" ++ pod.name ++ "?"))
    (script : Script) :
    ∃ sent, Asks .delete (podsPath pod.namespaceName ++ "/" ++ pod.name ++ "?") (some jsonType) (some (.obj [])) sent ∧
      (((collaborators Script.transport).terminate pod).run script).2 = script.next sent ∧
      ((((collaborators Script.transport).terminate pod).run script).1 = .ok () ↔ Accepted (script.replyTo 0)) := by
  obtain ⟨sent, asks, ran⟩ := run_request deletionOfJson writable .delete (some jsonType)
    (some (.obj [])) script
  have deleted : ((collaborators Script.transport).terminate pod).run script = _ := Action.run_bind_of_ok ran _
  refine ⟨sent, asks, ?_⟩
  simp only [Accepted, ← readReply_eq_ok_iff, ← @readReply_eq_refused_iff _ deletionOfJson, deleted]
  -- A pod that is gone already counts as terminated.
  rcases readReply deletionOfJson (script.replyTo 0) with ⟨refusal | _ | _ | _⟩ | done
  · by_cases gone : refusal.code = 404 <;> simp [gone]
  all_goals simp

/-- Without pods there is nothing to delete. -/
theorem Deletions.nil : Deletions [] [] := ⟨by simp, by simp, .inl rfl⟩

/-- The deletions end with one that is not accepted. -/
theorem Deletions.refused {pod : PodRef} {pods : List PodRef} {exchange : Exchange}
    (asks : Asks .delete (podsPath pod.namespaceName ++ "/" ++ pod.name ++ "?") (some jsonType) (some (.obj []))
      exchange.request) (failed : ¬ Accepted exchange.reply) : Deletions (pod :: pods) [exchange] := by
  refine ⟨fun place found here => ?_, fun place found here more => ?_, .inr ⟨exchange, rfl, failed⟩⟩
  · cases place with
    | zero =>
      obtain rfl := Option.some.inj here
      exact ⟨pod, rfl, asks⟩
    | succ place => simp at here
  · simp at more

/-- A deletion that is accepted is followed by those of the other pods. -/
theorem Deletions.cons {pod : PodRef} {pods : List PodRef} {exchange : Exchange} {rest : List Exchange}
    (asks : Asks .delete (podsPath pod.namespaceName ++ "/" ++ pod.name ++ "?") (some jsonType) (some (.obj []))
      exchange.request) (accepted : Accepted exchange.reply) (deletes : Deletions pods rest) :
    Deletions (pod :: pods) (exchange :: rest) := by
  refine ⟨fun place found here => ?_, fun place found here more => ?_, ?_⟩
  · cases place with
    | zero =>
      obtain rfl := Option.some.inj here
      exact ⟨pod, rfl, asks⟩
    | succ place => exact deletes.inTurn place found here
  · cases place with
    | zero =>
      obtain rfl := Option.some.inj here
      exact accepted
    | succ place => exact deletes.goesOn place found here (by simpa using more)
  · rcases deletes.stops with all | ⟨last, found, failed⟩
    · exact .inl (by simp [all])
    · -- Where the others end with a last one, it is the last of all.
      refine .inr ⟨last, ?_, failed⟩
      rw [List.getLast?_cons, found]
      rfl

/-- Terminating pods in turn sends their deletions, up to the first that is not accepted. -/
theorem run_terminateInTurn {pods : List PodRef}
    (writable : ∀ pod ∈ pods, Writable (podsPath pod.namespaceName ++ "/" ++ pod.name ++ "?")) (script : Script) :
    ∃ exchanges result after, (terminateInTurn (collaborators Script.transport) pods).run script = (.ok result, after) ∧
      script.Exchanged exchanges after ∧ Deletions pods exchanges := by
  -- The induction is on the pods still to delete, from whatever replies are left by then.
  induction pods generalizing script with
  | nil => exact ⟨[], (0, false), script, rfl, .none script, .nil⟩
  | cons pod pods ih =>
    obtain ⟨sent, asks, after, accepts⟩ := run_terminate (writable pod List.mem_cons_self) script
    have past := Script.Exchanged.one script sent
    rw [← after] at past
    cases run : ((collaborators Script.transport).terminate pod).run script with
    | mk result middle =>
      rw [run] at past accepts
      cases result with
      | error failure =>
        have refused : ¬ Accepted (script.replyTo 0) := fun accepted => absurd (accepts.2 accepted) (by simp)
        exact ⟨_, (0, true), middle, run_terminateInTurn_of_error run, past, .refused asks refused⟩
      | ok done =>
        obtain ⟨rest, ⟨count, aborted⟩, final, ran, later, deletes⟩ :=
          ih (fun other member => writable other (List.mem_cons_of_mem pod member)) middle
        exact ⟨_, (count + 1, aborted), final, run_terminateInTurn_of_ok run ran, past.append later,
          .cons asks (accepts.1 rfl) deletes⟩

variable {settings : Settings} {cluster : StorageCluster}

/-- A restart after an acknowledged write sends a listing, and the deletions of the pods that are listed. -/
theorem run_restartDependents {target : ResourceKey} {written : Reply} (acknowledged : Acknowledged target written)
    (lists : Writable (podsPath target.namespaceName ++ "?&labelSelector=" ++ Form.encode settings.dependents.render))
    (deletes : ∀ pods, Listed target.namespaceName (script.replyTo 0) pods →
      ∀ pod ∈ pods, Writable (podsPath pod.namespaceName ++ "/" ++ pod.name ++ "?")) :
    ∃ exchanges report after,
      (restartDependents (collaborators Script.transport) target.namespaceName settings.dependents).run script =
        (.ok report, after) ∧
      script.Exchanged exchanges after ∧ RestartTrace settings target written exchanges := by
  obtain ⟨sent, asks, after, gives⟩ := run_list lists script
  have past := Script.Exchanged.one script sent
  rw [← after] at past
  cases run : ((collaborators Script.transport).list target.namespaceName settings.dependents).run script with
  | mk result middle =>
    rw [run] at past gives
    cases result with
    | error failure =>
      have unlisted : ∀ pods, ¬ Listed target.namespaceName (script.replyTo 0) pods :=
        fun pods listed => absurd ((gives pods).2 listed) (by simp)
      exact ⟨_, _, middle, run_restartDependents_of_error run, past, .unlisted acknowledged asks unlisted⟩
    | ok pods =>
      have listed := (gives pods).1 rfl
      obtain ⟨deletions, ⟨count, aborted⟩, final, ran, later, follow⟩ :=
        run_terminateInTurn (deletes pods listed) middle
      exact ⟨_, ⟨pods.length, count, aborted⟩, final, run_restartDependents_of_ok run ran, past.append later,
        .restarts acknowledged asks listed follow⟩

/-- A config map that a reply tells of has the key that it was asked for under. -/
theorem Stored.key_eq {key : ResourceKey} {reply : Reply} {resource : ConfigMap}
    (stored : Stored key reply (some resource)) : resource.key = key := by
  cases stored with
  | found gives =>
    obtain ⟨status, text, json, -, -, -, read⟩ := gives
    exact key_of_configMapOfJson read

/-- The second step of a pass that writes sends its write, and what follows that. -/
theorem run_finishPass_of_write (reading : PassReading) {plan : WritePlan} {asked : Request → Prop}
    (made : WritePlan.make (settings.targetOf cluster) (reading.values.mergeInto reading.owner) reading.stored =
      .ok plan) (writes : plan ≠ .keep)
    (performs : ∃ sent, asked sent ∧
      ((plan.perform (collaborators Script.transport)).run script).2 = script.next sent ∧
      (((plan.perform (collaborators Script.transport)).run script).1 = .ok () ↔
        Acknowledged (settings.targetOf cluster) (script.replyTo 0)))
    (lists : Writable (podsPath (settings.targetOf cluster).namespaceName ++ "?&labelSelector="
      ++ Form.encode settings.dependents.render))
    (deletes : ∀ pods, Listed (settings.targetOf cluster).namespaceName (script.replyTo 1) pods →
      ∀ pod ∈ pods, Writable (podsPath pod.namespaceName ++ "/" ++ pod.name ++ "?")) :
    ∃ (write : Exchange) (rest : List Exchange), asked write.request ∧
      RestartTrace settings (settings.targetOf cluster) write.reply rest ∧
      script.Exchanged (write :: rest)
        ((finishPass (collaborators Script.transport) settings cluster reading).run script).2 := by
  obtain ⟨sent, asks, after, succeeds⟩ := performs
  have past := Script.Exchanged.one script sent
  rw [← after] at past
  cases run : (plan.perform (collaborators Script.transport)).run script with
  | mk result middle =>
    rw [run] at past succeeds
    cases result with
    | error failure =>
      -- A write that fails ends the pass.
      have failed : (writeBack (collaborators Script.transport) (settings.targetOf cluster)
          (reading.values.mergeInto reading.owner) reading.stored).run script = (.error failure, middle) := by
        rw [writeBack, made, Action.ofExcept_ok_bind, Action.run_bind_of_error run]
      refine ⟨⟨sent, script.replyTo 0⟩, [], asks,
        .unacknowledged (fun acknowledged => absurd (succeeds.2 acknowledged) (by simp)), ?_⟩
      rw [finishPass, Action.run_bind_of_error failed]
      exact past
    | ok done =>
      have wrote : (writeBack (collaborators Script.transport) (settings.targetOf cluster)
          (reading.values.mergeInto reading.owner) reading.stored).run script = (.ok plan.outcome, middle) := by
        rw [writeBack, made, Action.ofExcept_ok_bind, Action.run_bind_of_ok run]
        rfl
      have later : ∀ pods, Listed (settings.targetOf cluster).namespaceName (middle.replyTo 0) pods →
          ∀ pod ∈ pods, Writable (podsPath pod.namespaceName ++ "/" ++ pod.name ++ "?") := by
        rw [past.replyTo]
        exact deletes
      obtain ⟨rest, report, final, ran, follows, trace⟩ :=
        run_restartDependents (succeeds.1 rfl) lists later
      refine ⟨⟨sent, script.replyTo 0⟩, rest, asks, trace, ?_⟩
      rw [finishPass, Action.run_bind_of_ok wrote, if_pos ((WritePlan.isChange_outcome plan).2 writes),
        Action.run_bind_of_ok ran]
      exact past.append follows

/-- The second step of a pass that plans nothing, or cannot plan, sends nothing. -/
theorem run_finishPass_of_idle (settings : Settings) (cluster : StorageCluster) (reading : PassReading)
    (idle : ∀ plan, WritePlan.make (settings.targetOf cluster) (reading.values.mergeInto reading.owner)
      reading.stored = .ok plan → plan = .keep) (script : Script) :
    ((finishPass (collaborators Script.transport) settings cluster reading).run script).2 = script := by
  cases made : WritePlan.make (settings.targetOf cluster) (reading.values.mergeInto reading.owner)
      reading.stored with
  | error failure =>
    have failed : (writeBack (collaborators Script.transport) (settings.targetOf cluster)
        (reading.values.mergeInto reading.owner) reading.stored).run script = (.error failure, script) := by
      rw [writeBack, made]
      rfl
    rw [finishPass, Action.run_bind_of_error failed]
  | ok plan =>
    obtain rfl := idle plan made
    have kept : (writeBack (collaborators Script.transport) (settings.targetOf cluster)
        (reading.values.mergeInto reading.owner) reading.stored).run script = (.ok .unchanged, script) := by
      rw [writeBack, made]
      rfl
    rw [finishPass, Action.run_bind_of_ok kept]
    rfl

/-- The second step of a pass sends what follows from the reading. -/
theorem run_finishPass (settings : Settings) (cluster : StorageCluster) (reading : PassReading) {read : Reply}
    (stored : Stored (settings.targetOf cluster) read reading.stored)
    (creation : Writable (configMapsPath (settings.targetOf cluster).namespaceName ++ "?"))
    (replacement : Writable (configMapsPath (settings.targetOf cluster).namespaceName ++ "/"
      ++ (settings.targetOf cluster).name ++ "?"))
    (lists : Writable (podsPath (settings.targetOf cluster).namespaceName ++ "?&labelSelector="
      ++ Form.encode settings.dependents.render))
    (deletes : ∀ pods, Listed (settings.targetOf cluster).namespaceName (script.replyTo 1) pods →
      ∀ pod ∈ pods, Writable (podsPath pod.namespaceName ++ "/" ++ pod.name ++ "?")) :
    ∃ exchanges, WriteTrace settings (settings.targetOf cluster) reading.owner reading.values read exchanges ∧
      script.Exchanged exchanges
        ((finishPass (collaborators Script.transport) settings cluster reading).run script).2 := by
  obtain ⟨owner, values, held⟩ := reading
  dsimp only at stored ⊢
  cases held with
  | none =>
    -- Without references a fresh config map has no rival, so it is created.
    have merges := WritePlan.mergeInto_of_merges
      (.create : WritePlan.Merges values owner (settings.targetOf cluster) none _)
    have placed : (values.merged owner (.fresh (settings.targetOf cluster))).key = settings.targetOf cluster := rfl
    have performs := run_create (values.merged owner (.fresh (settings.targetOf cluster)))
      (by rw [placed]; exact creation) script
    rw [placed] at performs
    obtain ⟨write, rest, posts, trace, past⟩ := run_finishPass_of_write ⟨owner, values, none⟩
      (WritePlan.make_mergeInto_none values owner _) (by simp) performs lists deletes
    exact ⟨_, .creates stored merges posts trace, past⟩
  | some existing =>
    have placed := stored.key_eq
    cases merges : values.mergeInto owner existing with
    | error failure =>
      have unplanned : WritePlan.make (settings.targetOf cluster) (values.mergeInto owner) (some existing) =
          .error failure := WritePlan.make_of_error merges
      have idle := run_finishPass_of_idle settings cluster ⟨owner, values, some existing⟩
        (fun plan made => by cases unplanned.symm.trans made) script
      rw [idle]
      exact ⟨[], .refused stored merges, .none script⟩
    | ok resource =>
      obtain ⟨free, rfl⟩ := CsiValues.mergeInto_eq_ok_iff.1 merges
      have made : WritePlan.make (settings.targetOf cluster) (values.mergeInto owner) (some existing) = _ :=
        WritePlan.make_mergeInto_some placed free
      by_cases same : values.merged owner existing = existing
      · -- What is as it should be is kept.
        rw [if_pos same] at made
        have idle := run_finishPass_of_idle settings cluster ⟨owner, values, some existing⟩ (fun plan other => by
            rw [made] at other
            exact (Except.ok.inj other).symm) script
        rw [idle]
        rw [same] at merges
        exact ⟨[], .kept stored merges, .none script⟩
      · rw [if_neg same] at made
        have there : (values.merged owner existing).key = settings.targetOf cluster := placed
        have performs := run_replace (values.merged owner existing)
          (by rw [there]; exact replacement) script
        rw [there] at performs
        obtain ⟨write, rest, patches, trace, past⟩ := run_finishPass_of_write
          ⟨owner, values, some existing⟩ made (by simp) performs lists deletes
        have versioned : versionIn write.request = some (.ofOption .str existing.version) := by
          rw [versionIn, patches.body]
          rfl
        exact ⟨_, .replaces stored merges same patches versioned trace, past⟩

end Api

/--
Whatever an API server replies, a pass sends the requests of the protocol in their order and nothing else.

An API server counts as having acknowledged a write once its reply is no refusal and can be read.
-/
theorem pass_follows_protocol {settings : Settings} {cluster : StorageCluster} {script : Script}
    (addressable : Api.Addressable settings cluster script) :
    ∃ exchanges, Api.PassTrace settings cluster exchanges ∧
      script.Exchanged exchanges
        ((runPass (Api.collaborators Script.transport) settings cluster).run script).2 := by
  rw [runPass_eq, readForPass]
  cases given : cluster.metadata.uid with
  | none =>
    have unowned : cluster.owner = .error (.internal
        ("StorageCluster " ++ cluster.displayName ++ " has no uid; it must be read from the API server")) := by
      rw [StorageCluster.owner, given]
    rw [unowned]
    exact ⟨[], .unowned given, .none script⟩
  | some uid =>
    have owned : cluster.owner = .ok ⟨StorageCluster.apiVersion, StorageCluster.kind, cluster.displayName, uid⟩ := by
      rw [StorageCluster.owner, given]
    -- The identity is asked for first and never ends the pass, whatever the reply.
    obtain ⟨first, asksIdentity, resolved⟩ := Api.run_resolveIdentity addressable.identity script
    obtain ⟨second, asksStored, after, tells⟩ := Api.run_get addressable.stored (script.next first)
    have past := (Script.Exchanged.one script first).append (.one (script.next first) second)
    rw [owned, Action.ofExcept_ok_bind, Action.bind_assoc, Action.run_bind_of_ok resolved, Action.bind_assoc]
    cases run : ((Api.collaborators Script.transport).get (settings.targetOf cluster)).run (script.next first) with
    | mk result middle =>
      rw [run] at after tells
      rw [← after] at past
      cases result with
      | error failure =>
        rw [Action.run_bind_of_error run]
        have untold : ∀ stored, ¬ Api.Stored (settings.targetOf cluster) ((script.next first).replyTo 0) stored :=
          fun stored told => absurd ((tells stored).2 told) (by simp)
        exact ⟨_, .reads given asksIdentity asksStored (.unread untold), past⟩
      | ok stored =>
        rw [Action.run_bind_of_ok run]
        -- The reply to the listing is the fourth one.
        obtain ⟨rest, trace, later⟩ := Api.run_finishPass settings cluster
          ⟨_, .derive cluster.spec (Api.identityIn (script.replyTo 0)) cluster.topologyLabel, stored⟩
          ((tells stored).1 rfl) addressable.creation addressable.replacement addressable.listing (by
            rw [past.replyTo]
            exact addressable.deletion)
        exact ⟨_, .reads given asksIdentity asksStored trace, past.append later⟩

/-- A cluster as an API server knows it. -/
def servedCluster : StorageCluster :=
  { metadata := { name := some "a", namespaceName := some "openshift-storage", uid := some "u-1" } }

/-- A reply that tells that there is no such object. -/
def absenceReply : Reply :=
  .answered 404 "\x7b\"status\":\"Failure\",\"message\":\"\",\"reason\":\"NotFound\",\"code\":404\x7d"

/-- Replies to a pass that changes a config map; of three pods the first is gone, and about the others none comes. -/
def interruptedScript : Script :=
  { replies := [.lost "gone", .answered 200 "\x7b\"metadata\":\x7b\"resourceVersion\":\"7\"\x7d\x7d",
      .answered 200 "\x7b\x7d",
      .answered 200 ("\x7b\"metadata\":\x7b\x7d,\"items\":[\x7b\"metadata\":\x7b\"name\":\"p\"\x7d\x7d,"
        ++ "\x7b\"metadata\":\x7b\"name\":\"q\"\x7d\x7d,\x7b\"metadata\":\x7b\"name\":\"r\"\x7d\x7d]\x7d"),
      absenceReply]
    otherwise := .lost "gone"
    sent := [] }

/-- The pod after the one whose deletion fails is left alone. -/
theorem pass_follows_protocol_interrupted :
    Api.Addressable .standard servedCluster interruptedScript ∧
    ∃ exchanges, Api.PassTrace .standard servedCluster exchanges ∧
      exchanges.map (fun exchange => exchange.request.method) =
        [.get, .get, .patch, .get, .delete, .delete] := by
  have addressable : Api.Addressable .standard servedCluster interruptedScript := by decide +kernel
  obtain ⟨exchanges, trace, past⟩ := pass_follows_protocol addressable
  have methods : ((runPass (Api.collaborators Script.transport) .standard servedCluster).run
      interruptedScript).2.sent.map Request.method = [.get, .get, .patch, .get, .delete, .delete] := by
    decide +kernel
  rw [past.sent, show interruptedScript.sent = [] from rfl, List.nil_append, List.map_map] at methods
  exact ⟨addressable, exchanges, trace, methods⟩

/-- Replies to a pass that creates a config map, its creation answered with a redirection whose text can be read. -/
def redirectedScript : Script :=
  { replies := [.lost "gone", absenceReply, .answered 302 "\x7b\x7d",
      .answered 200 "\x7b\"metadata\":\x7b\x7d,\"items\":[\x7b\"metadata\":\x7b\"name\":\"rook\"\x7d\x7d]\x7d",
      .answered 200 "\x7b\x7d"]
    otherwise := .lost "gone"
    sent := [] }

/-- A status outside of 200 to 299 that refuses nothing acknowledges a write as well, and pods are deleted after it. -/
theorem pass_restarts_redirected :
    Api.Addressable .standard servedCluster redirectedScript ∧
    (∃ status text, redirectedScript.replyTo 2 = .answered status text ∧ ¬ (200 ≤ status ∧ status < 300)) ∧
    ((runPass (Api.collaborators Script.transport) .standard servedCluster).run redirectedScript).2.sent.map
        (fun request => (request.method, request.target.path)) =
      [(.get, "/apis/config.openshift.io/v1/clusterversions/version"),
        (.get, "/api/v1/namespaces/openshift-storage/configmaps/ocs-operator-config"),
        (.post, "/api/v1/namespaces/openshift-storage/configmaps"),
        (.get, "/api/v1/namespaces/openshift-storage/pods"),
        (.delete, "/api/v1/namespaces/openshift-storage/pods/rook")] :=
  ⟨by decide +kernel, ⟨302, _, rfl, by omega⟩, by decide +kernel⟩

end StorageConfig
