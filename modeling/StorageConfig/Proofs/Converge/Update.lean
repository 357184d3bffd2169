import StorageConfig.Proofs.Memory.World

/-!
What a create-or-update reports, whatever change it applies.

A run is told by the part that ends it: one of those that can fail, or the write that the change calls for, if any.
-/

namespace StorageConfig

section Run

variable {σ : Type} (world : Collaborators σ) (key : ResourceKey) (change : Mutation) (state : σ)

/-- A create-or-update fails with one of its parts, and as that part does. -/
inductive UpdateFails : Failure → σ → Prop
  | reading {failure : Failure} {after : σ} (failed : (world.get key).run state = (.error failure, after)) :
    UpdateFails failure after
  | changing {stored : Option ConfigMap} {failure : Failure} {after : σ}
      (read : (world.get key).run state = (.ok stored, after))
      (failed : change (stored.getD (.fresh key)) = .error failure) :
    UpdateFails failure after
  /-- The change came out under another key. -/
  | moving {stored : Option ConfigMap} {made : ConfigMap} {after : σ}
      (read : (world.get key).run state = (.ok stored, after))
      (ok : change (stored.getD (.fresh key)) = .ok made) (moved : made.key ≠ key) :
    UpdateFails (.internal ("mutation moved " ++ key.render ++ " to " ++ made.key.render)) after
  | creating {made : ConfigMap} {failure : Failure} {middle after : σ}
      (read : (world.get key).run state = (.ok none, middle))
      (ok : change (.fresh key) = .ok made) (stays : made.key = key)
      (failed : (world.create made).run middle = (.error failure, after)) :
    UpdateFails failure after
  | replacing {existing made : ConfigMap} {failure : Failure} {middle after : σ}
      (read : (world.get key).run state = (.ok (some existing), middle))
      (ok : change existing = .ok made) (stays : made.key = key) (differs : made ≠ existing)
      (failed : (world.replace made).run middle = (.error failure, after)) :
    UpdateFails failure after

/-- How a create-or-update can go. -/
inductive UpdateRun : Except Failure WriteOutcome → σ → Prop
  | fails {failure : Failure} {after : σ} (failed : UpdateFails world key change state failure after) :
    UpdateRun (.error failure) after
  | creates {made : ConfigMap} {middle after : σ} (read : (world.get key).run state = (.ok none, middle))
      (ok : change (.fresh key) = .ok made) (stays : made.key = key)
      (done : (world.create made).run middle = (.ok (), after)) :
    UpdateRun (.ok .created) after
  | replaces {existing made : ConfigMap} {middle after : σ}
      (read : (world.get key).run state = (.ok (some existing), middle))
      (ok : change existing = .ok made) (stays : made.key = key) (differs : made ≠ existing)
      (done : (world.replace made).run middle = (.ok (), after)) :
    UpdateRun (.ok .updated) after
  /-- What is as it should be is not written. -/
  | keeps {existing : ConfigMap} {after : σ} (read : (world.get key).run state = (.ok (some existing), after))
      (ok : change existing = .ok existing) (stays : existing.key = key) :
    UpdateRun (.ok .unchanged) after

end Run

section Run

variable {σ : Type} {world : Collaborators σ} {key : ResourceKey} {change : Mutation} {state after : σ}
  {result : Except Failure WriteOutcome}

/-- A create-or-update fails with whatever part of it fails. -/
theorem UpdateFails.run_eq {failure : Failure} (failed : UpdateFails world key change state failure after) :
    (createOrUpdate world key change).run state = (.error failure, after) := by
  -- A reading or a change that fails leaves nothing to plan, and a write fails as it was planned.
  cases failed with
  | reading failed => rw [createOrUpdate_eq, Action.run_bind_of_error failed]
  | changing read failed => exact run_createOrUpdate_of_error read (WritePlan.make_of_error failed)
  | moving read ok moved => exact run_createOrUpdate_of_error read (WritePlan.make_of_moved ok moved)
  | creating read ok stays failed =>
    rw [run_createOrUpdate_of_ok read (WritePlan.make_none_of_ok ok stays), WritePlan.perform, failed]
    rfl
  | replacing read ok stays differs failed =>
    rw [run_createOrUpdate_of_ok read (WritePlan.make_some_of_ok ok stays), if_neg differs, WritePlan.perform, failed]
    rfl

/-- Every way in which a create-or-update can go is how it runs. -/
theorem UpdateRun.run_eq (run : UpdateRun world key change state result after) :
    (createOrUpdate world key change).run state = (result, after) := by
  -- What was read tells a creation from the other two, and the change tells those apart.
  cases run with
  | fails failed => exact failed.run_eq
  | creates read ok stays done =>
    rw [run_createOrUpdate_of_ok read (WritePlan.make_none_of_ok ok stays), WritePlan.perform, done]
    rfl
  | replaces read ok stays differs done =>
    rw [run_createOrUpdate_of_ok read (WritePlan.make_some_of_ok ok stays), if_neg differs, WritePlan.perform, done]
    rfl
  | keeps read ok stays =>
    rw [run_createOrUpdate_of_ok read (WritePlan.make_some_of_ok ok stays), if_pos rfl]
    rfl

/-- A create-or-update always goes one of those ways. -/
theorem exists_updateRun (world : Collaborators σ) (key : ResourceKey) (change : Mutation) (state : σ) :
    ∃ result after, UpdateRun world key change state result after := by
  -- The parts are gone through in turn, and the first that fails ends the run.
  rcases read : (world.get key).run state with ⟨lost | stored, middle⟩
  · exact ⟨_, _, .fails (.reading read)⟩
  rcases ok : change (stored.getD (.fresh key)) with refused | made
  · exact ⟨_, _, .fails (.changing read ok)⟩
  by_cases stays : made.key = key
  · cases stored with
    | none =>
      rcases done : (world.create made).run middle with ⟨failed | _, after⟩
      · exact ⟨_, _, .fails (.creating read ok stays done)⟩
      · exact ⟨_, _, .creates read ok stays done⟩
    | some existing =>
      by_cases same : made = existing
      · subst same
        exact ⟨_, _, .keeps read ok stays⟩
      · rcases done : (world.replace made).run middle with ⟨failed | _, after⟩
        · exact ⟨_, _, .fails (.replacing read ok stays same done)⟩
        · exact ⟨_, _, .replaces read ok stays same done⟩
  · exact ⟨_, _, .fails (.moving read ok stays)⟩

end Run

/-- What replaces a stored config map without a fault names the stored version. -/
theorem MemoryStore.version_eq_of_healthy {store : MemoryStore} {made existing : ConfigMap}
    (held : store.objects made.key = some existing) (healthy : store.replaceFault made = none) :
    made.version = existing.version := by
  unfold replaceFault at healthy
  rw [held] at healthy
  -- Of the two checks the second one compares the versions.
  split at healthy
  · cases healthy
  · dsimp only at healthy
    split at healthy
    · rename_i same
      exact same.symm
    · cases healthy

/-- Config maps of one key and version that differ do so in their data or their owners. -/
theorem ConfigMap.data_or_ownerRefs_of_ne {made existing : ConfigMap} (key : made.key = existing.key)
    (version : made.version = existing.version) (differs : made ≠ existing) :
    made.data ≠ existing.data ∨ made.ownerRefs ≠ existing.ownerRefs := by
  -- With both of them the same as well, nothing would be left to differ.
  obtain ⟨madeKey, madeData, madeRefs, madeVersion⟩ := made
  obtain ⟨_, data, refs, _⟩ := existing
  by_cases same : madeData = data
  · refine .inr fun owners => differs ?_
    rw [ConfigMap.mk.injEq]
    exact ⟨key, same, owners, version⟩
  · exact .inl same

/-- A config map has been stored by one write, under a version that nothing was stored under before. -/
structure StoredAnew (key : ResourceKey) (made : ConfigMap) (before after : MemoryStore) : Prop where
  held : ∃ version, before.IsFresh version ∧ after.objects key = some { made with version := some version }
  counted : after.writes = before.writes + 1

/-- Writing a config map stores it anew under its key. -/
theorem storedAnew_write (store : MemoryStore) {made : ConfigMap} {key : ResourceKey} (stays : made.key = key) :
    StoredAnew key made store (store.write made) :=
  ⟨⟨store.nextVersion, store.isFresh_nextVersion, store.objects_write stays⟩, rfl⟩

section Memory

variable {world after : MemoryWorld} {key : ResourceKey} {change : Mutation} {result : Except Failure WriteOutcome}

/-- A create-or-update that fails leaves the world as it was. -/
theorem UpdateFails.eq (alone : world.queued = []) {failure : Failure}
    (failed : UpdateFails MemoryWorld.collaborators key change world failure after) : after = world := by
  -- The reading changes nothing, and a write that fails does not either.
  cases failed with
  | reading failed => exact MemoryWorld.eq_of_run_get alone failed
  | changing read _ => exact MemoryWorld.eq_of_run_get alone read
  | moving read _ _ => exact MemoryWorld.eq_of_run_get alone read
  | @creating made _ _ _ read _ _ failed =>
    obtain rfl := MemoryWorld.eq_of_run_get alone read
    exact MemoryWorld.eq_of_perform_error (.create made) failed
  | @replacing _ made _ _ _ read _ _ _ failed =>
    obtain rfl := MemoryWorld.eq_of_run_get alone read
    exact MemoryWorld.eq_of_perform_error (.replace made) failed

/-- A create-or-update that creates has found nothing, and has written what the change makes of that. -/
theorem UpdateRun.of_created (alone : world.queued = [])
    (run : UpdateRun MemoryWorld.collaborators key change world (.ok .created) after) :
    world.store.objects key = none ∧ ∃ made, change (.fresh key) = .ok made ∧ made.key = key ∧
      after = { world with store := world.store.write made } := by
  cases run with
  | @creates made _ _ read ok stays done =>
    obtain rfl := MemoryWorld.eq_of_run_get alone read
    exact ⟨MemoryWorld.objects_of_run_get read, made, ok, stays, (MemoryWorld.of_perform_ok (.create made) done).2⟩

/-- A create-or-update that updates has written what the change makes of the stored config map. -/
theorem UpdateRun.of_updated (alone : world.queued = [])
    (run : UpdateRun MemoryWorld.collaborators key change world (.ok .updated) after) :
    ∃ existing made, world.store.objects key = some existing ∧ change existing = .ok made ∧ made.key = key ∧
      made ≠ existing ∧ made.version = existing.version ∧
      after = { world with store := world.store.write made } := by
  cases run with
  | @replaces existing made _ _ read ok stays differs done =>
    obtain rfl := MemoryWorld.eq_of_run_get alone read
    have held := MemoryWorld.objects_of_run_get read
    obtain ⟨healthy, written⟩ := MemoryWorld.of_perform_ok (.replace made) done
    have current := MemoryStore.version_eq_of_healthy (by rw [stays]; exact held) healthy
    exact ⟨existing, made, held, ok, stays, differs, current, written⟩

/-- A create-or-update leaves the world as it was, or writes once under its key. -/
theorem UpdateRun.eq_or_write (alone : world.queued = [])
    (run : UpdateRun MemoryWorld.collaborators key change world result after) :
    after = world ∨ ∃ made, made.key = key ∧ after = { world with store := world.store.write made } := by
  -- Only the two ways that end with a write get to the store.
  cases run with
  | fails failed => exact .inl (failed.eq alone)
  | creates read ok stays done =>
    obtain ⟨-, made, -, stays, written⟩ := of_created alone (.creates read ok stays done)
    exact .inr ⟨made, stays, written⟩
  | replaces read ok stays differs done =>
    obtain ⟨-, made, -, -, stays, -, -, written⟩ := of_updated alone (.replaces read ok stays differs done)
    exact .inr ⟨made, stays, written⟩
  | keeps read _ _ => exact .inl (MemoryWorld.eq_of_run_get alone read)

end Memory

/-- What the result of a create-or-update says about the world before and after it. -/
structure UpdateReport (key : ResourceKey) (change : Mutation) (world : MemoryWorld)
    (result : Except Failure WriteOutcome) (after : MemoryWorld) : Prop where
  created : result = .ok .created → world.store.objects key = none ∧
    ∃ made, change (.fresh key) = .ok made ∧ made.key = key ∧ StoredAnew key made world.store after.store
  /-- The change has left key and version as they were, and something else not. -/
  updated : result = .ok .updated → ∃ existing made, world.store.objects key = some existing ∧
    change existing = .ok made ∧ made.key = existing.key ∧ made.version = existing.version ∧
    (made.data ≠ existing.data ∨ made.ownerRefs ≠ existing.ownerRefs) ∧
    StoredAnew key made world.store after.store
  /-- Whether writes are made to fail has no part in it. -/
  unchanged : result = .ok .unchanged ↔
    ∃ existing, (world.get key).1 = .ok (some existing) ∧ change existing = .ok existing
  unwritten : result = .ok .unchanged → after = world
  failed : ∀ failure, result = .error failure ↔
    UpdateFails MemoryWorld.collaborators key change world failure after
  untouched : ∀ failure, result = .error failure → after = world
  others : ∀ other, other ≠ key → after.store.objects other = world.store.objects other
  once : after.store.writes ≤ world.store.writes + 1

/--
A create-or-update does what it reports, for every change to what a key holds in a store that can be reached.

Nobody writes between its reading and its write, and both of them may be made to fail.
-/
theorem createOrUpdate_does_what_it_reports {world : MemoryWorld} (reached : world.store.Reachable)
    (alone : world.queued = []) (key : ResourceKey) (change : Mutation) :
    ∃ result after, (createOrUpdate MemoryWorld.collaborators key change).run world = (result, after) ∧
      UpdateReport key change world result after := by
  obtain ⟨result, after, run⟩ := exists_updateRun MemoryWorld.collaborators key change world
  refine ⟨result, after, run.run_eq,
    { created := ?created, updated := ?updated, unchanged := ⟨?only, ?always⟩, unwritten := ?unwritten
      failed := fun failure => ⟨?cause, ?effect⟩, untouched := ?untouched, others := ?others, once := ?once }⟩
  case created =>
    rintro rfl
    obtain ⟨missing, made, ok, stays, rfl⟩ := run.of_created alone
    exact ⟨missing, made, ok, stays, storedAnew_write world.store stays⟩
  case updated =>
    rintro rfl
    obtain ⟨existing, made, held, ok, stays, differs, current, rfl⟩ := run.of_updated alone
    have moved : made.key = existing.key := stays.trans (reached.key_eq held).symm
    exact ⟨existing, made, held, ok, moved, current, ConfigMap.data_or_ownerRefs_of_ne moved current differs,
      storedAnew_write world.store stays⟩
  case only =>
    rintro rfl
    cases run with
    | @keeps existing _ read ok _ => exact ⟨existing, congrArg Prod.fst read, ok⟩
  case always =>
    rintro ⟨existing, read, ok⟩
    -- What was read stood under the key, so the key check lets it pass.
    have found : (MemoryWorld.collaborators.get key).run world =
        (.ok (some existing), (world.get key).2) := Prod.ext read rfl
    have placed : existing.key = key := reached.key_eq (MemoryWorld.objects_of_run_get found)
    have kept := UpdateRun.run_eq (.keeps found ok placed)
    exact (Prod.mk.inj (run.run_eq.symm.trans kept)).1
  case unwritten =>
    rintro rfl
    cases run with
    | keeps read _ _ => exact MemoryWorld.eq_of_run_get alone read
  case cause =>
    rintro rfl
    cases run with
    | fails failed => exact failed
  case effect =>
    intro failed
    exact (Prod.mk.inj (run.run_eq.symm.trans failed.run_eq)).1
  case untouched =>
    rintro failure rfl
    cases run with
    | fails failed => exact failed.eq alone
  case others =>
    intro other elsewhere
    rcases run.eq_or_write alone with rfl | ⟨made, stays, rfl⟩
    · rfl
    · exact MemoryStore.objects_insert_of_ne (by rw [stays]; exact elsewhere) world.store
  case once =>
    rcases run.eq_or_write alone with rfl | ⟨made, stays, rfl⟩
    · exact Nat.le_succ _
    · exact Nat.le_refl _

/-- The change that leaves a note in a config map. -/
def leaveNote : Mutation := fun resource => .ok { resource with data := resource.data.insert "note" "kept" }

/-- A world in which one config map of the given data was stored, with writes made to fail or not. -/
def seededWorld (data : TextMap) (failing : Bool) : MemoryWorld :=
  { MemoryWorld.empty none with
    store := { MemoryStore.empty.insert ⟨⟨"notes", "default"⟩, data, [], none⟩ with failsWrites := failing } }

/-- A note is added once, and once it is there even a store that refuses every write is left as it should be. -/
theorem createOrUpdate_does_what_it_reports_note :
    (∀ data failing, (seededWorld data failing).store.Reachable ∧ (seededWorld data failing).queued = []) ∧
    (∃ after, (createOrUpdate MemoryWorld.collaborators ⟨"notes", "default"⟩ leaveNote).run (seededWorld ∅ false) =
        (.ok .updated, after) ∧
      StoredAnew ⟨"notes", "default"⟩ ⟨⟨"notes", "default"⟩, TextMap.insert ∅ "note" "kept", [], some "1"⟩
        (seededWorld ∅ false).store after.store) ∧
    (createOrUpdate MemoryWorld.collaborators ⟨"notes", "default"⟩ leaveNote).run
        (seededWorld (TextMap.insert ∅ "note" "kept") true) =
      (.ok .unchanged, seededWorld (TextMap.insert ∅ "note" "kept") true) := by
  have reached : ∀ data failing, (seededWorld data failing).store.Reachable := by
    intro data failing
    -- The config map is stored first, and the switch is turned afterwards.
    exact ⟨_, .step (MemoryStore.empty.stepsTo_insert _) (.single (.idle rfl rfl))⟩
  refine ⟨fun data failing => ⟨reached data failing, rfl⟩, ?_, ?_⟩
  · obtain ⟨result, after, run, report⟩ :=
      createOrUpdate_does_what_it_reports (reached ∅ false) rfl ⟨"notes", "default"⟩ leaveNote
    obtain rfl : result = .ok .updated := (congrArg Prod.fst run).symm
    obtain ⟨existing, made, held, ok, -, -, -, anew⟩ := report.updated rfl
    obtain rfl := Option.some.inj held
    obtain rfl := Except.ok.inj ok
    exact ⟨after, run, anew⟩
  · obtain ⟨result, after, run, report⟩ :=
      createOrUpdate_does_what_it_reports (reached (TextMap.insert ∅ "note" "kept") true) rfl
        ⟨"notes", "default"⟩ leaveNote
    have same := report.unchanged.2 ⟨⟨⟨"notes", "default"⟩, TextMap.insert ∅ "note" "kept", [], some "1"⟩, rfl, rfl⟩
    rw [run, same, report.unwritten same]

end StorageConfig
