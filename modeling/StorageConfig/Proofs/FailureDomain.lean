import StorageConfig.FailureDomain
import StorageConfig.Proofs.Lowercase

/-! Which label a cluster has, told by rules apart from how its failure domain is compared. -/

namespace StorageConfig

/-- The label of a failure domain that spells one of three words, in whatever way a text may spell a word. -/
inductive WellKnown (spells : String → String → Prop) (domain : String) : String → Prop
  | host (spelled : spells domain "host") : WellKnown spells domain hostLabel
  | zone (spelled : spells domain "zone") : WellKnown spells domain zoneLabel
  | rack (spelled : spells domain "rack") : WellKnown spells domain rackLabel

/-- A failure domain has a label exactly if it spells the word for it. -/
theorem labelOfDomain_eq_some_iff {domain label : String} :
    labelOfDomain domain = some label ↔ WellKnown SpellsWord domain label := by
  -- Each of the words is made of small letters of ASCII, so its lower case is compared with what it spells.
  have host := lowercase_eq_iff (show IsSmallWord "host" by decide) domain
  have zone := lowercase_eq_iff (show IsSmallWord "zone" by decide) domain
  have rack := lowercase_eq_iff (show IsSmallWord "rack" by decide) domain
  constructor
  · intro labelled
    unfold labelOfDomain at labelled
    split at labelled
    · rename_i lowered
      obtain rfl := Option.some.inj labelled
      exact .host (host.1 lowered)
    · rename_i lowered
      obtain rfl := Option.some.inj labelled
      exact .zone (zone.1 lowered)
    · rename_i lowered
      obtain rfl := Option.some.inj labelled
      exact .rack (rack.1 lowered)
    · cases labelled
  · intro known
    cases known with
    | host spelled => simp [labelOfDomain, host.2 spelled]
    | zone spelled => simp [labelOfDomain, zone.2 spelled]
    | rack spelled => simp [labelOfDomain, rack.2 spelled]

namespace StorageCluster

/-- The status of a cluster gives a label of its own, which is not empty. -/
def GivesKey (cluster : StorageCluster) (key : String) : Prop :=
  ∃ status, cluster.status = some status ∧ status.failureDomainKey = some key ∧ key ≠ ""

/-- The status of a cluster names its failure domain. -/
def FailsBy (cluster : StorageCluster) (domain : String) : Prop :=
  ∃ status, cluster.status = some status ∧ status.failureDomain = some domain

/-- The label of a cluster, by the first rule that applies. -/
inductive LabelRule (spells : String → String → Prop) (cluster : StorageCluster) : String → Prop
  | own {key : String} (given : cluster.GivesKey key) : LabelRule spells cluster key
  | wellKnown {domain label : String} (keyless : ∀ key, ¬ cluster.GivesKey key) (fails : cluster.FailsBy domain)
    (known : WellKnown spells domain label) : LabelRule spells cluster label
  | unlabelled (keyless : ∀ key, ¬ cluster.GivesKey key)
    (unknown : ∀ domain, cluster.FailsBy domain → ∀ label, ¬ WellKnown spells domain label) :
    LabelRule spells cluster ""

/-- A key of the cluster's own is its label as it stands. -/
theorem topologyLabel_of_givesKey {cluster : StorageCluster} {key : String} (given : cluster.GivesKey key) :
    cluster.topologyLabel = key := by
  obtain ⟨status, known, stated, nonempty⟩ := given
  have kept : (status.failureDomainKey.filter fun key => !key.isEmpty) = some key :=
    Option.filter_eq_some_iff.2 ⟨stated, by simp [nonempty]⟩
  simp [topologyLabel, ClusterStatus.topologyLabel, known, kept]

/-- Without such a key the label is that of the failure domain, if both are known. -/
theorem topologyLabel_of_keyless {cluster : StorageCluster} (keyless : ∀ key, ¬ cluster.GivesKey key) :
    cluster.topologyLabel = ((cluster.status.bind ClusterStatus.failureDomain).bind labelOfDomain).getD "" := by
  unfold topologyLabel
  cases known : cluster.status with
  | none => rfl
  | some status =>
    -- The key is absent or empty, and an empty one is left out of account.
    have noKey : (status.failureDomainKey.filter fun key => !key.isEmpty) = none := by
      rw [Option.filter_eq_none_iff]
      intro key stated
      by_cases empty : key = ""
      · simp [empty]
      · exact absurd ⟨status, known, stated, empty⟩ (keyless key)
    simp [ClusterStatus.topologyLabel, noKey]

/-- The failure domain, if it is known, gives the label of the word that it spells. -/
theorem bind_labelOfDomain_eq_some_iff {cluster : StorageCluster} {label : String} :
    (cluster.status.bind ClusterStatus.failureDomain).bind labelOfDomain = some label ↔
      ∃ domain, cluster.FailsBy domain ∧ WellKnown SpellsWord domain label := by
  rw [Option.bind_eq_some_iff]
  -- A status that names the failure domain is found where the domain is.
  exact exists_congr fun domain => and_congr Option.bind_eq_some_iff labelOfDomain_eq_some_iff

/-- Every cluster has the label that some rule gives it. -/
theorem labelRule_topologyLabel (cluster : StorageCluster) : cluster.LabelRule SpellsWord cluster.topologyLabel := by
  by_cases keyed : ∃ key, cluster.GivesKey key
  · -- A key of its own goes before all else.
    obtain ⟨key, given⟩ := keyed
    rw [topologyLabel_of_givesKey given]
    exact .own given
  · have keyless := not_exists.1 keyed
    rw [topologyLabel_of_keyless keyless]
    cases found : (cluster.status.bind ClusterStatus.failureDomain).bind labelOfDomain with
    | some label =>
      obtain ⟨domain, fails, known⟩ := bind_labelOfDomain_eq_some_iff.1 found
      exact .wellKnown keyless fails known
    | none =>
      -- A failure domain that spells one of the words would have given its label.
      refine .unlabelled keyless fun domain fails label known => ?_
      have labelled := bind_labelOfDomain_eq_some_iff.2 ⟨domain, fails, known⟩
      rw [found] at labelled
      cases labelled

/-- A rule gives a cluster no other label than the one it has. -/
theorem topologyLabel_of_labelRule {cluster : StorageCluster} {label : String}
    (rule : cluster.LabelRule SpellsWord label) : cluster.topologyLabel = label := by
  cases rule with
  | own given => exact topologyLabel_of_givesKey given
  | wellKnown keyless fails known =>
    rw [topologyLabel_of_keyless keyless, bind_labelOfDomain_eq_some_iff.2 ⟨_, fails, known⟩, Option.getD_some]
  | unlabelled keyless unknown =>
    -- Any label found would be that of a word which the failure domain spells.
    have nothing : (cluster.status.bind ClusterStatus.failureDomain).bind labelOfDomain = none := by
      refine Option.eq_none_iff_forall_ne_some.2 fun label found => ?_
      obtain ⟨domain, fails, known⟩ := bind_labelOfDomain_eq_some_iff.1 found
      exact unknown domain fails label known
    rw [topologyLabel_of_keyless keyless, nothing, Option.getD_none]

end StorageCluster

open StorageCluster

/--
The label of a cluster is its own key, or that of the word which its failure domain spells, or nothing.

A failure domain spells a word in any case of its letters, and with a Kelvin sign for a letter k.
-/
theorem topology_label_follows_rules (cluster : StorageCluster) (label : String) :
    cluster.topologyLabel = label ↔ cluster.LabelRule SpellsWord label := by
  constructor
  · rintro rfl
    exact cluster.labelRule_topologyLabel
  · exact topologyLabel_of_labelRule

/-- A cluster whose failure domain ends in a Kelvin sign. -/
def kelvinCluster : StorageCluster :=
  { metadata := { name := some "a", uid := some "u-1" }, status := some { failureDomain := some "rac\u212a" } }

/-- The lower case of a Kelvin sign is a letter of ASCII, so a rack is known by a text that is no such word in ASCII. -/
theorem kelvin_sign_spells_rack :
    kelvinCluster.topologyLabel = rackLabel ∧ rackLabel ≠ "" ∧ kelvinCluster.LabelRule SameButForCase "" := by
  have keyless : ∀ key, ¬ kelvinCluster.GivesKey key := by
    rintro key ⟨status, known, stated, -⟩
    obtain rfl := Option.some.inj known
    cases stated
  refine ⟨by decide, by decide, .unlabelled keyless ?_⟩
  rintro domain ⟨status, known, stated⟩ label spelled
  obtain rfl := Option.some.inj known
  obtain rfl := Option.some.inj stated
  -- None of the words ends in anything but a letter of ASCII.
  cases spelled with
  | host same => exact absurd same (by decide)
  | zone same => exact absurd same (by decide)
  | rack same => exact absurd same (by decide)

end StorageConfig
