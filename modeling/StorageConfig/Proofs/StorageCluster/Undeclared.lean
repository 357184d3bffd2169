import StorageConfig.Pass
import StorageConfig.Proofs.Json.Equating
import StorageConfig.Proofs.StorageCluster.Outline

/-! Storage clusters are read from what they declare: nothing else in their documents makes a difference. -/

namespace StorageConfig

open Outline Record

/-- What a cluster declares; its metadata counts as it stands. -/
def StorageCluster.outline : Outline :=
  record [required "metadata" whole, required "spec" ClusterSpec.outline, optional "status" ClusterStatus.outline]

/-- The external mode is read from what it declares. -/
theorem ExternalStorage.respects_ofJson : ofJson.Respects outline :=
  ((respects_pure mk).defaulted Decoder.respects_flag rfl).decode _

/-- The pools are read from what they declare. -/
theorem NonResilientPools.respects_ofJson : ofJson.Respects outline :=
  ((respects_pure mk).defaulted Decoder.respects_flag rfl).decode _

/-- Managed resources are read from what they declare. -/
theorem ManagedResources.respects_ofJson : ofJson.Respects outline :=
  ((respects_pure mk).defaulted NonResilientPools.respects_ofJson rfl).decode _

/-- A toggle is read from what it declares. -/
theorem FeatureToggle.respects_ofJson : ofJson.Respects outline :=
  ((respects_pure mk).defaulted Decoder.respects_flag rfl).decode _

/-- Connections are read from what they declare. -/
theorem Connections.respects_ofJson : ofJson.Respects outline := by
  have toggle := FeatureToggle.respects_ofJson.nullable
  exact ((((respects_pure mk).defaulted toggle rfl).defaulted toggle rfl).defaulted Decoder.respects_flag rfl).decode _

/-- A network policy is read from what it declares. -/
theorem NetworkPolicy.respects_ofJson : ofJson.Respects outline :=
  ((respects_pure mk).defaulted Connections.respects_ofJson.nullable rfl).decode _

/-- A spec is read from what it declares. -/
theorem ClusterSpec.respects_ofJson : ofJson.Respects outline :=
  (((((respects_pure mk).defaulted ExternalStorage.respects_ofJson rfl).defaulted Decoder.respects_flag
    rfl).defaulted ManagedResources.respects_ofJson rfl).defaulted NetworkPolicy.respects_ofJson.nullable rfl).decode _

/-- A status is read from what it declares. -/
theorem ClusterStatus.respects_ofJson : ofJson.Respects outline := by
  have text := Decoder.respects_text.nullable
  exact (((respects_pure mk).defaulted text rfl).defaulted text rfl).decode _

/-- A cluster is read from what it declares. -/
theorem StorageCluster.respects_ofJson : ofJson.Respects outline :=
  ((((respects_pure mk).required Decoder.respects_whole).required ClusterSpec.respects_ofJson).optional
    ClusterStatus.respects_ofJson).decode _

/-- Readings that give the same value, if any, either both give it or both give none. -/
theorem readAlike_of_toOption_eq {α : Type} {left right : Except Misfit α} (same : left.toOption = right.toOption) :
    (∃ value, left = .ok value ∧ right = .ok value) ∨ ∃ misfit other, left = .error misfit ∧ right = .error other := by
  cases left with
  | error misfit =>
    cases right with
    | error other => exact .inr ⟨misfit, other, rfl, rfl⟩
    | ok value => cases same
  | ok value =>
    cases right with
    | error other => cases same
    | ok other =>
      obtain rfl := Option.some.inj same
      exact .inl ⟨value, rfl, rfl⟩

/--
Two documents that differ in nothing declared are read as one cluster, or neither is read.

What is not declared so has no influence on the settings, the config map, its owner and whatever else a pass does.
-/
theorem undeclared_members_change_nothing {left right : Json} (equal : StorageCluster.outline.Equates left right) :
    ((∃ cluster, StorageCluster.ofJson left = .ok cluster ∧ StorageCluster.ofJson right = .ok cluster) ∨
      ∃ misfit other, StorageCluster.ofJson left = .error misfit ∧ StorageCluster.ofJson right = .error other) ∧
    ∀ first second, StorageCluster.ofJson left = .ok first → StorageCluster.ofJson right = .ok second →
      first.owner = second.owner ∧ (∀ identity, CsiValues.derive first.spec identity first.topologyLabel =
        CsiValues.derive second.spec identity second.topologyLabel) ∧
      ∀ settings : Settings, settings.targetOf first = settings.targetOf second ∧
        ∀ (σ : Type) (world : Collaborators σ) (state : σ),
          (runPass world settings first).run state = (runPass world settings second).run state := by
  -- Both readings give one value or none, and whatever is made of a cluster is made of that value.
  have same := StorageCluster.respects_ofJson left right equal
  refine ⟨readAlike_of_toOption_eq same, fun first second readFirst readSecond => ?_⟩
  rw [readFirst, readSecond] at same
  obtain rfl : first = second := Option.some.inj same
  exact ⟨rfl, fun _ => rfl, fun _ => ⟨rfl, fun _ _ _ => rfl⟩⟩

/-- A spec that asks for encryption and leaves out all else. -/
def terseSpec : Json :=
  .obj [("network", .obj [("connections", .obj [("encryption", .obj [("enabled", .bool true)])])])]

/-- The same spec, with defaults written out and members of clashing names that mean nothing. -/
def wordySpec : Json :=
  .obj
    [("enable", .bool true),
      ("externalStorage", .obj [("enabled", .bool true), ("enable", .bool false)]),
      ("managedResources", .obj [("cephNonResilientPools", .obj [("count", .int 3)]), ("enable", .arr [.null])]),
      ("network", .obj
        [("requireMsgr2", .bool true),
          ("connections", .obj
            [("compression", .null), ("requireMsgr2", .bool false),
              ("encryption", .obj [("enabled", .bool true), ("compression", .obj [("enabled", .bool true)])])])])]

/-- A document of a cluster with the terse spec. -/
def terseDocument : Json :=
  .obj [("metadata", .obj [("name", .str "ocs"), ("uid", .str "u-1")]), ("spec", terseSpec)]

/-- A document of the same cluster with the wordy spec, of a version and a kind that mean nothing. -/
def wordyDocument : Json :=
  .obj [("apiVersion", .str "v2"), ("kind", .int 5), ("metadata", .obj [("name", .str "ocs"), ("uid", .str "u-1")]),
    ("spec", wordySpec), ("status", .null)]

/-- The terse and the wordy document differ in nothing declared. -/
theorem equates_terse_wordy : StorageCluster.outline.Equates terseDocument wordyDocument := by
  -- Part by part, from the innermost on: each field has equal values, or one side leaves out its default.
  have toggle : FeatureToggle.outline.Equates (.obj [("enabled", .bool true)])
      (.obj [("enabled", .bool true), ("compression", .obj [("enabled", .bool true)])]) :=
    ⟨.inl (.cons rfl .nil), trivial⟩
  have connections : Connections.outline.Equates (.obj [("encryption", .obj [("enabled", .bool true)])])
      (.obj [("compression", .null), ("requireMsgr2", .bool false),
        ("encryption", .obj [("enabled", .bool true), ("compression", .obj [("enabled", .bool true)])])]) :=
    ⟨.inl (.cons toggle .nil), .inr ⟨_, _, rfl, rfl, .inl ⟨rfl, rfl⟩⟩, .inr ⟨_, _, rfl, rfl, .inl ⟨rfl, rfl⟩⟩, trivial⟩
  -- The pools are left out on one side, where the managed resources stand for their default.
  have pools : NonResilientPools.outline.Equates (.obj [("enable", .bool false)]) (.obj [("count", .int 3)]) :=
    ⟨.inr ⟨_, _, rfl, rfl, .inr ⟨rfl, rfl⟩⟩, trivial⟩
  have managed : ManagedResources.outline.Equates (.obj [("cephNonResilientPools", .obj [("enable", .bool false)])])
      (.obj [("cephNonResilientPools", .obj [("count", .int 3)]), ("enable", .arr [.null])]) :=
    ⟨.inl (.cons pools .nil), trivial⟩
  have external : ExternalStorage.outline.Equates (.obj [("enable", .bool false)])
      (.obj [("enabled", .bool true), ("enable", .bool false)]) :=
    ⟨.inl (.cons rfl .nil), trivial⟩
  have spec : ClusterSpec.outline.Equates terseSpec wordySpec :=
    ⟨.inr ⟨_, _, rfl, external, .inl ⟨rfl, rfl⟩⟩, .inl .nil,
      .inr ⟨_, _, rfl, managed, .inl ⟨rfl, rfl⟩⟩,
      .inl (.cons ⟨.inl (.cons connections .nil), trivial⟩ .nil), trivial⟩
  exact ⟨.inl (.cons rfl .nil), .inl (.cons spec .nil), .inr ⟨_, _, rfl, rfl, .inl ⟨rfl, rfl⟩⟩, trivial⟩

/-- Defaults, clashing names and another version leave a cluster that asks for encryption the same. -/
theorem undeclared_members_change_nothing_wordy :
    StorageCluster.outline.Equates terseDocument wordyDocument ∧
    ∃ cluster, StorageCluster.ofJson terseDocument = .ok cluster ∧ StorageCluster.ofJson wordyDocument = .ok cluster ∧
      CsiValues.derive cluster.spec "c" cluster.topologyLabel = ⟨"c", true, .secure, false, ""⟩ := by
  refine ⟨equates_terse_wordy, ?_⟩
  -- The terse document is read, so both are.
  rcases (undeclared_members_change_nothing equates_terse_wordy).1 with
    ⟨cluster, terse, wordy⟩ | ⟨misfit, other, failed, -⟩
  · cases terse
    exact ⟨_, rfl, wordy, rfl⟩
  · cases failed

end StorageConfig
