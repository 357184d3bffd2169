import StorageConfig.Api.Server
import StorageConfig.Controller
import StorageConfig.Memory.World
import StorageConfig.Proofs.Converge

/-! When a cluster is looked at again: always, unless it is being deleted, whatever its pass ran into. -/

namespace StorageConfig

namespace Failure

/-- An operation that fails so is tried again without anything having to change first. -/
def IsRetried (failure : Failure) : Prop := failure.retry ≠ .never

/-- What is tried again is tried after five minutes if another object owns the config map, and else soon. -/
theorem IsRetried.delay {failure : Failure} (retried : failure.IsRetried) :
    (failure.retry.delay = some 300 ↔ ∃ resource ownerKind ownerName,
      failure = .alreadyOwned resource ownerKind ownerName) ∧
    (failure.retry.delay ≠ some 300 → failure.retry.delay = some 15) := by
  cases failure with
  | alreadyOwned resource ownerKind ownerName =>
    exact ⟨iff_of_true rfl ⟨resource, ownerKind, ownerName, rfl⟩, fun other => absurd rfl other⟩
  -- Settings and selectors would have to change first.
  | configuration => exact absurd rfl retried
  | selectorParse => exact absurd rfl retried
  | _ => exact ⟨iff_of_false nofun nofun, fun _ => rfl⟩

end Failure

/-- The store of a world fails with nothing but what is tried again. -/
structure Collaborators.Retriable {σ : Type} (world : Collaborators σ) : Prop where
  get : ∀ key, (world.get key).FailsOnly Failure.IsRetried
  create : ∀ resource, (world.create resource).FailsOnly Failure.IsRetried
  replace : ∀ resource, (world.replace resource).FailsOnly Failure.IsRetried

/-- A cluster that cannot be an owner yet is looked at again. -/
theorem StorageCluster.isRetried_of_owner {cluster : StorageCluster} {failure : Failure}
    (unowned : cluster.owner = .error failure) : failure.IsRetried := by
  unfold StorageCluster.owner at unowned
  split at unowned
  · cases unowned
  · cases unowned
    exact nofun

/-- A config map that cannot be brought in line, for its owner or its key, is looked at again. -/
theorem WritePlan.isRetried_of_make {values : CsiValues} {owner : Owner} {key : ResourceKey}
    {stored : Option ConfigMap} {failure : Failure}
    (refused : make key (values.mergeInto owner) stored = .error failure) : failure.IsRetried := by
  cases stored with
  | none =>
    rw [make_mergeInto_none] at refused
    cases refused
  | some existing =>
    by_cases free : ∀ name, holderOf owner.groupKind existing.ownerRefs = some name → name = owner.name
    · -- Without a rival only a config map that stands under another's key is refused.
      have merge : values.mergeInto owner existing = .ok (values.merged owner existing) :=
        CsiValues.mergeInto_of_free free
      by_cases at_key : (values.merged owner existing).key = key
      · cases (make_some_of_ok merge at_key).symm.trans refused
      · have moved : make key (values.mergeInto owner) (some existing) = .error _ := make_of_moved merge at_key
        cases moved.symm.trans refused
        intro never
        cases never
    · simp only [Classical.not_forall] at free
      obtain ⟨name, held, rival⟩ := free
      rw [make_mergeInto_rival held rival] at refused
      cases refused
      intro never
      cases never

section Restart

variable {σ : Type} (world : Collaborators σ) (allowed : Failure → Prop)

/-- Terminating pods in turn does not fail, whatever becomes of each of them. -/
theorem failsOnly_terminateInTurn (pods : List PodRef) : (terminateInTurn world pods).FailsOnly allowed := by
  induction pods with
  | nil => exact Action.failsOnly_pure _
  | cons pod pods ih =>
    refine (Action.failsOnly_attempt _).bind fun result => ?_
    cases result with
    | error failure => exact Action.failsOnly_pure _
    | ok done => exact ih.bind fun _ => Action.failsOnly_pure _

/-- A restart does not fail, as whatever goes wrong ends up in its report. -/
theorem failsOnly_restartDependents (namespaceName : String) (selector : Selector) :
    (restartDependents world namespaceName selector).FailsOnly allowed := by
  refine (Action.failsOnly_attempt _).bind fun result => ?_
  cases result with
  | error failure => exact Action.failsOnly_pure _
  | ok pods => exact (failsOnly_terminateInTurn world allowed pods).bind fun _ => Action.failsOnly_pure _

/-- Looking up the identity does not fail, as one that cannot be read counts as empty. -/
theorem failsOnly_resolveIdentity (singleton : String) : (resolveIdentity world singleton).FailsOnly allowed := by
  refine (Action.failsOnly_attempt _).bind fun result => ?_
  cases result <;> exact Action.failsOnly_pure _

end Restart

namespace Collaborators.Retriable

variable {σ : Type} {world : Collaborators σ}

/-- Carrying out a plan fails as the store does. -/
theorem perform (retriable : world.Retriable) (plan : WritePlan) :
    (plan.perform world).FailsOnly Failure.IsRetried := by
  cases plan with
  | create resource => exact retriable.create resource
  | replace resource => exact retriable.replace resource
  | keep => exact Action.failsOnly_pure ()

/-- Bringing a config map in line fails as the store does, or for want of a plan. -/
theorem converge (retriable : world.Retriable) (values : CsiValues) (target : ResourceKey) (owner : Owner) :
    (converge world values target owner).FailsOnly Failure.IsRetried := by
  refine Action.FailsOnly.bind ?_ fun outcome => Action.failsOnly_pure _
  refine (retriable.get target).bind fun stored => ?_
  refine (Action.failsOnly_ofExcept fun failure => WritePlan.isRetried_of_make).bind fun plan => ?_
  exact (retriable.perform plan).bind fun _ => Action.failsOnly_pure _

/-- A pass fails with nothing but what is tried again. -/
theorem runPass (retriable : world.Retriable) (settings : Settings) (cluster : StorageCluster) :
    (runPass world settings cluster).FailsOnly Failure.IsRetried := by
  refine (Action.failsOnly_ofExcept fun failure => StorageCluster.isRetried_of_owner).bind fun owner => ?_
  refine (failsOnly_resolveIdentity world _ _).bind fun identity => ?_
  refine (retriable.converge _ _ owner).bind fun changed => ?_
  -- What comes after a write cannot fail the pass any more.
  cases changed with
  | false => exact Action.failsOnly_pure _
  | true => exact (failsOnly_restartDependents world _ _ _).bind fun _ => Action.failsOnly_pure _

end Collaborators.Retriable

namespace MemoryStore

/-- A write fails with the fault that stands in its way. -/
theorem fault_of_writeUnless {store : MemoryStore} {fault : Option Failure} {resource : ConfigMap} {failure : Failure}
    (failed : (store.writeUnless fault resource).1 = .error failure) : fault = some failure := by
  cases fault with
  | none => cases failed
  | some cause => exact congrArg some (Except.error.inj failed)

/-- What keeps a resource from being created can pass. -/
theorem isRetried_of_createFault {store : MemoryStore} {resource : ConfigMap} {failure : Failure}
    (fault : store.createFault resource = some failure) : failure.IsRetried := by
  unfold createFault at fault
  split at fault
  · cases fault
    exact nofun
  · split at fault
    · cases fault
      exact nofun
    · cases fault

/-- What keeps a resource from replacing another can pass. -/
theorem isRetried_of_replaceFault {store : MemoryStore} {resource : ConfigMap} {failure : Failure}
    (fault : store.replaceFault resource = some failure) : failure.IsRetried := by
  unfold replaceFault at fault
  split at fault
  · cases fault
    exact nofun
  · split at fault
    · cases fault
      exact nofun
    · -- A stored resource of the same version is no obstacle.
      split at fault
      · cases fault
      · cases fault
        exact nofun

end MemoryStore

/-- The store of a world in memory fails with nothing but what is tried again. -/
theorem MemoryWorld.retriable : collaborators.Retriable := by
  refine ⟨?get, ?create, ?replace⟩
  case get =>
    intro key world failure failed
    change (world.get key).1 = .error failure at failed
    unfold MemoryWorld.get at failed
    split at failed
    · cases failed
      exact nofun
    · cases failed
  case create =>
    intro resource world failure failed
    exact MemoryStore.isRetried_of_createFault (MemoryStore.fault_of_writeUnless failed)
  case replace =>
    intro resource world failure failed
    exact MemoryStore.isRetried_of_replaceFault (MemoryStore.fault_of_writeUnless failed)

namespace Api

/-- Sending a request does not fail, as the reply is its value whatever it is. -/
theorem failsOnly_request {σ α : Type} (allowed : Failure → Prop) (transport : Transport σ) (decode : Decoder α)
    (method : Method) (target : String) (contentType : Option String) (body : Option Json) :
    (request transport decode method target contentType body).FailsOnly allowed := by
  unfold request
  split
  · exact Action.failsOnly_pure _
  · intro state failure failed
    cases failed

/-- The store of an API server fails with nothing but what is tried again, however the server replies. -/
theorem retriable {σ : Type} (transport : Transport σ) : (collaborators transport).Retriable := by
  refine ⟨fun key => ?get, fun resource => ?create, fun resource => ?replace⟩
  case get =>
    refine (failsOnly_request _ transport _ _ _ _ _).bind fun result => ?_
    split
    · exact Action.failsOnly_pure _
    · -- A refusal means that there is nothing, or fails the reading as it is.
      split
      · exact Action.failsOnly_pure _
      · exact Action.failsOnly_error nofun
    · exact Action.failsOnly_error nofun
  case create =>
    refine (failsOnly_request _ transport _ _ _ _ _).bind fun result => ?_
    split
    · exact Action.failsOnly_pure _
    · refine Action.failsOnly_error ?_
      split <;> exact nofun
    · exact Action.failsOnly_error nofun
  case replace =>
    refine (failsOnly_request _ transport _ _ _ _ _).bind fun result => ?_
    split
    · exact Action.failsOnly_pure _
    · refine Action.failsOnly_error ?_
      split
      · exact nofun
      · split <;> exact nofun
    · exact Action.failsOnly_error nofun

end Api

/-- What one look at a cluster comes to, and when the next one is. -/
structure LookEnd {σ : Type} (world : Collaborators σ) (settings : Settings) (seconds : Float)
    (cluster : StorageCluster) (state : Monitored σ) : Prop where
  /-- No further look is planned exactly if the cluster is on its way out. -/
  waits_iff : nextLook ((controlCluster world settings seconds cluster).run state).1 = none ↔
    cluster.metadata.deletionTimestamp.isSome = true
  /-- After a pass that succeeded the next look is after the set time. -/
  succeeded : cluster.metadata.deletionTimestamp = none → ∀ outcome after,
    (runMonitoredPass world settings seconds cluster).run state = (.ok outcome, after) →
      (controlCluster world settings seconds cluster).run state = (.ok (some settings.resyncSeconds.toNat), after)
  /-- After one that failed it is after five minutes exactly if another object owns the config map, and else soon. -/
  failed : cluster.metadata.deletionTimestamp = none → ∀ failure after,
    (runMonitoredPass world settings seconds cluster).run state = (.error failure, after) →
      (controlCluster world settings seconds cluster).run state = (.error failure, after) ∧
      (nextLook (.error failure) = some 300 ↔ ∃ resource ownerKind ownerName,
        failure = .alreadyOwned resource ownerKind ownerName) ∧
      (nextLook (.error failure) ≠ some 300 → nextLook (.error failure) = some 15)
  /-- No pass fails in a way that is not tried again. -/
  retried : ∀ failure, ((runPass world settings cluster).run state.world).1 = .error failure →
    failure.retry ≠ .never

/-- A look at a cluster that is being deleted calls nobody. -/
theorem controlCluster_of_deleted {σ : Type} (world : Collaborators σ) (settings : Settings) (seconds : Float)
    {cluster : StorageCluster} (deleted : cluster.metadata.deletionTimestamp.isSome = true) :
    controlCluster world settings seconds cluster = pure none := if_pos deleted

/-- A look at any other cluster runs a pass. -/
theorem run_controlCluster {σ : Type} (world : Collaborators σ) (settings : Settings) (seconds : Float)
    {cluster : StorageCluster} (present : cluster.metadata.deletionTimestamp = none) (state : Monitored σ) :
    (controlCluster world settings seconds cluster).run state =
      (((runMonitoredPass world settings seconds cluster).run state).1.map fun _ => some settings.resyncSeconds.toNat,
        ((runMonitoredPass world settings seconds cluster).run state).2) := by
  have stays : ¬ cluster.isBeingDeleted = true := by simp [StorageCluster.isBeingDeleted, present]
  rw [controlCluster, if_neg stays, Action.run_bind]
  -- A failure of the pass is the failure of the look.
  rcases (runMonitoredPass world settings seconds cluster).run state with ⟨result, after⟩
  cases result <;> rfl

/-- Where the store fails with nothing but what is tried again, every look ends as it should. -/
theorem Collaborators.Retriable.lookEnd {σ : Type} {world : Collaborators σ} (retriable : world.Retriable)
    (settings : Settings) (seconds : Float) (cluster : StorageCluster) (state : Monitored σ) :
    LookEnd world settings seconds cluster state := by
  have retried := retriable.runPass settings cluster
  refine ⟨?waits_iff, fun present outcome after ok => ?succeeded, fun present failure after failed => ?failed,
    retried state.world⟩
  case waits_iff =>
    cases given : cluster.metadata.deletionTimestamp with
    | some time =>
      rw [controlCluster_of_deleted world settings seconds (by rw [given]; rfl)]
      exact iff_of_true rfl rfl
    | none =>
      rw [run_controlCluster world settings seconds given]
      refine iff_of_false ?_ nofun
      -- Whatever the result of the pass, there is a next look.
      cases result : ((runMonitoredPass world settings seconds cluster).run state).1 with
      | ok outcome => exact nofun
      | error failure =>
        obtain ⟨owned, otherwise⟩ := (retried state.world failure result).delay
        intro never
        have soon := otherwise fun later => nomatch never.symm.trans later
        exact nomatch never.symm.trans soon
  case succeeded =>
    rw [run_controlCluster world settings seconds present, ok]
    rfl
  case failed =>
    have result := congrArg Prod.fst failed
    refine ⟨?_, (retried state.world failure result).delay⟩
    rw [run_controlCluster world settings seconds present, failed]
    rfl

/--
A cluster is looked at again unless it is being deleted, and then a look at it calls nobody.

This holds for worlds in memory under every mix of failures, and for API servers however they reply.
-/
theorem every_failed_pass_is_retried (settings : Settings) (seconds : Float) (cluster : StorageCluster) :
    (cluster.metadata.deletionTimestamp.isSome = true → ∀ (σ : Type) (world : Collaborators σ),
      controlCluster world settings seconds cluster = pure none) ∧
    (∀ state : Monitored MemoryWorld, LookEnd MemoryWorld.collaborators settings seconds cluster state) ∧
    ∀ (σ : Type) (transport : Transport σ) (state : Monitored σ),
      LookEnd (Api.collaborators transport) settings seconds cluster state :=
  ⟨fun deleted _ world => controlCluster_of_deleted world settings seconds deleted,
    MemoryWorld.retriable.lookEnd settings seconds cluster,
    fun _ transport => (Api.retriable transport).lookEnd settings seconds cluster⟩

/-- A world whose config map another cluster controls. -/
def occupiedWorld : MemoryWorld :=
  { MemoryWorld.empty none with
    store := MemoryStore.empty.insert
      { key := ⟨"ocs-operator-config", "openshift-storage"⟩
        data := ∅
        ownerRefs := [.controlling ⟨"ocs.openshift.io/v1", "StorageCluster", "b", "2"⟩]
        version := none } }

/-- An API server on which every request is lost. -/
def lostTransport : Transport Unit := ⟨fun _ state => (.lost "connection refused", state)⟩

/-- A cluster on its way out. -/
def departingCluster : StorageCluster :=
  { metadata := { name := some "a", uid := some "1", deletionTimestamp := some ⟨0, false⟩ } }

/-- A rival is waited for longer than a lost request, and a cluster on its way out for nothing. -/
theorem every_failed_pass_is_retried_occupied :
    (∃ failure after, (controlCluster MemoryWorld.collaborators .standard 0
        { metadata := { name := some "a", uid := some "1" } }).run ⟨occupiedWorld, none⟩ = (.error failure, after) ∧
      (∃ resource ownerKind ownerName, failure = .alreadyOwned resource ownerKind ownerName) ∧
      nextLook (.error failure) = some 300) ∧
    (∃ failure after, (controlCluster (Api.collaborators lostTransport) .standard 0
        { metadata := { name := some "a", uid := some "1" } }).run ⟨(), none⟩ = (.error failure, after) ∧
      failure = .api (.lost "connection refused") ∧ nextLook (.error failure) = some 15) ∧
    departingCluster.metadata.deletionTimestamp.isSome = true ∧
      controlCluster (Api.collaborators lostTransport) .standard 0 departingCluster = pure none := by
  refine ⟨?occupied, ?lost, rfl, (every_failed_pass_is_retried .standard 0 departingCluster).1 rfl Unit _⟩
  case occupied =>
    obtain ⟨failure, after, run, owned⟩ : ∃ failure after,
        (runMonitoredPass MemoryWorld.collaborators .standard 0
          { metadata := { name := some "a", uid := some "1" } }).run ⟨occupiedWorld, none⟩ = (.error failure, after) ∧
        ∃ resource ownerKind ownerName, failure = .alreadyOwned resource ownerKind ownerName :=
      ⟨_, _, rfl, _, _, _, rfl⟩
    have ends := (every_failed_pass_is_retried .standard 0 { metadata := { name := some "a", uid := some "1" } }).2.1
      ⟨occupiedWorld, none⟩
    obtain ⟨looked, later, -⟩ := ends.failed rfl failure after run
    exact ⟨failure, after, looked, owned, later.2 owned⟩
  case lost =>
    obtain ⟨after, run⟩ : ∃ after, (runMonitoredPass (Api.collaborators lostTransport) .standard 0
        { metadata := { name := some "a", uid := some "1" } }).run ⟨(), none⟩ =
          (.error (.api (.lost "connection refused")), after) := ⟨_, rfl⟩
    have ends := (every_failed_pass_is_retried .standard 0 { metadata := { name := some "a", uid := some "1" } }).2.2
      Unit lostTransport ⟨(), none⟩
    obtain ⟨looked, -, soon⟩ := ends.failed rfl _ after run
    exact ⟨_, after, looked, rfl, soon (by decide)⟩

end StorageConfig
