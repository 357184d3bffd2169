import StorageConfig.TextMap

/-! Reading a finite map of texts after keys were bound in it. -/

namespace StorageConfig

/-- Binding a key decides what that key is bound to, and leaves every other key alone. -/
theorem find?_bindKey {α : Type} (key : String) (value : α) (entries : List (String × α)) (other : String) :
    (bindKey key value entries).find? (fun entry => entry.1 == other) =
      if key = other then some (key, value) else entries.find? fun entry => entry.1 == other := by
  -- The new binding lands before any later binding of its key, and passes over different keys only.
  induction entries with
  | nil => by_cases same : key = other <;> simp [bindKey, same]
  | cons head rest ih =>
    obtain ⟨first, kept⟩ := head
    rw [bindKey]
    split
    · by_cases same : key = other <;> simp [same]
    · split
      · rename_i replaced
        subst replaced
        by_cases same : key = other <;> simp [same]
      · rename_i different
        by_cases found : first = other
        · have apart : key ≠ other := fun same => different (same.trans found.symm)
          simp [found, apart]
        · simp [found, ih]

/-- A key and a higher one can be bound in either order. -/
theorem bindKey_comm_of_lt {α : Type} {lower upper : String} (below : lower < upper) (first second : α)
    (entries : List (String × α)) :
    bindKey lower first (bindKey upper second entries) = bindKey upper second (bindKey lower first entries) := by
  have apart : upper ≠ lower := fun same => String.lt_irrefl upper (same ▸ below)
  have behind : ¬ upper < lower := fun less => String.lt_irrefl lower (String.lt_trans below less)
  -- The induction is on the bindings up to the place of the lower key, which comes before that of the upper one.
  induction entries with
  | nil => simp [bindKey, below, behind, apart]
  | cons head rest ih =>
    obtain ⟨key, kept⟩ := head
    by_cases front : lower < key
    · -- Wherever the upper key goes from here on, the lower one stays in front.
      by_cases early : upper < key
      · simp [bindKey, below, behind, apart, front, early]
      · by_cases same : upper = key
        · subst same
          simp [bindKey, below, behind, apart]
        · simp [bindKey, behind, apart, front, early, same]
    · by_cases same : lower = key
      · subst same
        simp only [bindKey, if_neg behind, if_neg apart, if_neg (String.lt_irrefl lower), if_true]
      · -- Both keys belong behind this one.
        have late : ¬ upper < key := fun less => front (String.lt_trans below less)
        have other : upper ≠ key := fun named => front (named ▸ below)
        simp [bindKey, front, same, late, other, ih]

/-- Two different keys can be bound in either order. -/
theorem bindKey_comm {α : Type} {left right : String} (apart : left ≠ right) (first second : α)
    (entries : List (String × α)) :
    bindKey left first (bindKey right second entries) = bindKey right second (bindKey left first entries) := by
  by_cases below : left < right
  · exact bindKey_comm_of_lt below first second entries
  · have above : right < left := Decidable.byContradiction fun notAbove =>
      apart (String.le_antisymm (String.not_lt.1 notAbove) (String.not_lt.1 below))
    exact (bindKey_comm_of_lt above second first entries).symm

namespace TextMap

/-- A map with one key bound anew reads as before everywhere else. -/
theorem get?_insert (map : TextMap) (key value other : String) :
    (map.insert key value).get? other = if key = other then some value else map.get? other := by
  -- Looking up keeps the value of the entry that is found.
  simp only [get?, insert, find?_bindKey]
  split <;> rfl

/-- A map in which a key was bound is not empty. -/
@[simp] theorem isEmpty_insert (map : TextMap) (key value : String) : (map.insert key value).isEmpty = false := by
  cases bare : (map.insert key value).isEmpty with
  | false => rfl
  | true =>
    -- The bound key would read as unbound.
    have bound := map.get?_insert key value key
    rw [get?, List.isEmpty_iff.1 bare, if_pos rfl] at bound
    cases bound

end TextMap

/-- In a rising list what is below the first key is bound to nothing. -/
theorem find?_eq_none_of_lt {α : Type} {entries : List (String × α)} {key : String}
    (below : ∀ entry ∈ entries, key < entry.1) : entries.find? (fun entry => entry.1 == key) = none := by
  rw [List.find?_eq_none]
  intro entry member same
  rw [beq_iff_eq] at same
  exact String.lt_irrefl key (same ▸ below entry member)

/-- In a rising list every binding is found under its key. -/
theorem find?_of_mem {α : Type} {entries : List (String × α)} (rise : KeysRise entries) {entry : String × α}
    (member : entry ∈ entries) : entries.find? (fun other => other.1 == entry.1) = some entry := by
  induction entries with
  | nil => cases member
  | cons head rest ih =>
    obtain ⟨above, tail⟩ := List.pairwise_cons.1 rise
    rcases List.mem_cons.1 member with rfl | later
    · simp
    · -- The keys before it are below its own.
      have apart : head.1 ≠ entry.1 := by
        intro same
        exact String.lt_irrefl entry.1 (same ▸ above entry later)
      simp only [List.find?_cons, beq_eq_false_iff_ne.2 apart]
      exact ih tail later

/-- A key that another rising list binds as well is not below the first one of that list. -/
theorem not_lt_of_find?_eq {α : Type} {head other : String × α} {rest more : List (String × α)}
    (rise : KeysRise (other :: more))
    (same : (head :: rest).find? (fun entry => entry.1 == head.1) =
      (other :: more).find? fun entry => entry.1 == head.1) : ¬ head.1 < other.1 := by
  intro less
  have above := (List.pairwise_cons.1 rise).1
  have missing : (other :: more).find? (fun entry => entry.1 == head.1) = none := by
    apply find?_eq_none_of_lt
    intro entry member
    rcases List.mem_cons.1 member with rfl | later
    · exact less
    · exact String.lt_trans less (above entry later)
  rw [missing, List.find?_cons_of_pos (by simp)] at same
  cases same

/-- Rising lists that bind every key to the same are the same. -/
theorem eq_of_find?_eq {α : Type} {left right : List (String × α)} (leftRise : KeysRise left)
    (rightRise : KeysRise right)
    (same : ∀ key, left.find? (fun entry => entry.1 == key) = right.find? fun entry => entry.1 == key) :
    left = right := by
  induction left generalizing right with
  | nil =>
    cases right with
    | nil => rfl
    | cons other more => simpa using same other.1
  | cons head rest ih =>
    cases right with
    | nil => simpa using same head.1
    | cons other more =>
      -- Each first key is bound in the other list too, so neither is below the other.
      have key : head.1 = other.1 := String.le_antisymm
        (String.not_lt.1 (not_lt_of_find?_eq leftRise (same other.1).symm))
        (String.not_lt.1 (not_lt_of_find?_eq rightRise (same head.1)))
      have first : head = other := by simpa [key] using same head.1
      obtain ⟨above, leftTail⟩ := List.pairwise_cons.1 leftRise
      obtain ⟨beyond, rightTail⟩ := List.pairwise_cons.1 rightRise
      subst first
      congr 1
      refine ih leftTail rightTail fun wanted => ?_
      by_cases found : head.1 = wanted
      · -- After the first of its name there is none in either list.
        rw [← found, find?_eq_none_of_lt above, find?_eq_none_of_lt beyond]
      · simpa [found] using same wanted

namespace TextMap

/-- No two bindings have the same key. -/
theorem nodup_keys (map : TextMap) : (map.entries.map Prod.fst).Nodup := by
  refine List.pairwise_map.2 (map.keysRise.imp ?_)
  intro left right less same
  exact String.lt_irrefl right.1 (same ▸ less)

/-- A key is bound to a value exactly if that is one of the bindings. -/
theorem get?_eq_some_iff {map : TextMap} {key value : String} :
    map.get? key = some value ↔ (key, value) ∈ map.entries := by
  constructor
  · intro bound
    obtain ⟨entry, found, rfl⟩ := Option.map_eq_some_iff.1 bound
    have named : entry.1 = key := by simpa using List.find?_some found
    exact named ▸ List.mem_of_find?_eq_some found
  · intro member
    rw [get?, find?_of_mem map.keysRise member]
    rfl

/-- A key is bound to nothing exactly if no binding has it. -/
theorem get?_eq_none_iff {map : TextMap} {key : String} :
    map.get? key = none ↔ key ∉ map.entries.map Prod.fst := by
  simp only [get?, Option.map_eq_none_iff, List.find?_eq_none, beq_iff_eq, List.mem_map, not_exists, not_and]

/-- Maps that bind every key to the same are the same. -/
theorem ext_get? {left right : TextMap} (same : ∀ key, left.get? key = right.get? key) : left = right := by
  -- A key is found with itself, so its value says all about what is found.
  have found : ∀ (map : TextMap) (key : String),
      map.entries.find? (fun entry => entry.1 == key) = (map.get? key).map fun value => (key, value) := by
    intro map key
    rw [get?]
    cases looked : map.entries.find? (fun entry => entry.1 == key) with
    | none => rfl
    | some entry =>
      have named : entry.1 = key := by simpa using List.find?_some looked
      simp [← named]
  have entries : left.entries = right.entries :=
    eq_of_find?_eq left.keysRise right.keysRise fun key => by rw [found, found, same]
  cases left
  cases right
  congr

end TextMap

/-- A key above all others is bound last. -/
theorem bindKey_of_above {α : Type} {key : String} {entries : List (String × α)}
    (above : ∀ entry ∈ entries, entry.1 < key) (value : α) :
    bindKey key value entries = entries ++ [(key, value)] := by
  induction entries with
  | nil => rfl
  | cons head rest ih =>
    have below := above head List.mem_cons_self
    have behind : ¬ key < head.1 := fun less => String.lt_irrefl key (String.lt_trans less below)
    have other : key ≠ head.1 := fun same => String.lt_irrefl key (same ▸ below)
    rw [bindKey, if_neg behind, if_neg other, ih fun entry later => above entry (List.mem_cons_of_mem head later)]
    rfl

namespace TextMap

/-- Bindings that rise above those of a map come behind them, in their order. -/
theorem entries_foldl_insert {rest : List (String × String)} {map : TextMap}
    (rise : KeysRise (map.entries ++ rest)) :
    (rest.foldl (fun bound entry => bound.insert entry.1 entry.2) map).entries = map.entries ++ rest := by
  -- The induction is on the bindings to come, and each of them is above all that are there.
  induction rest generalizing map with
  | nil => simp
  | cons entry later ih =>
    have above : ∀ other ∈ map.entries, other.1 < entry.1 := fun other member =>
      (List.pairwise_append.1 rise).2.2 other member entry List.mem_cons_self
    have bound : (map.insert entry.1 entry.2).entries = map.entries ++ [entry] := bindKey_of_above above entry.2
    have rest_rise : KeysRise ((map.insert entry.1 entry.2).entries ++ later) := by
      rw [bound, List.append_assoc]
      exact rise
    rw [List.foldl_cons, ih rest_rise, bound, List.append_assoc]
    rfl

/-- One map laid over another, which shows through where the upper one binds nothing. -/
def laidOver (upper lower : TextMap) : TextMap := upper.entries.foldl (fun map entry => map.insert entry.1 entry.2) lower

/-- Bindings that are made in turn read as the list of them does, and as before everywhere else. -/
theorem get?_foldl_insert {entries : List (String × String)} (rise : KeysRise entries) (map : TextMap) (key : String) :
    (entries.foldl (fun bound entry => bound.insert entry.1 entry.2) map).get? key =
      ((entries.find? fun entry => entry.1 == key).map (·.2)).or (map.get? key) := by
  -- The induction is on the bindings to come, and none of them has the key of the first.
  induction entries generalizing map with
  | nil => rfl
  | cons entry later ih =>
    obtain ⟨above, tail⟩ := List.pairwise_cons.1 rise
    rw [List.foldl_cons, ih tail, get?_insert, List.find?_cons]
    by_cases same : entry.1 = key
    · have last : later.find? (fun other => other.1 == key) = none := same ▸ find?_eq_none_of_lt above
      simp [same, last]
    · rw [beq_eq_false_iff_ne.2 same, if_neg same]

/-- A key reads as the upper map binds it, and as the lower one does where the upper one leaves it out. -/
theorem get?_laidOver (upper lower : TextMap) (key : String) :
    (upper.laidOver lower).get? key = (upper.get? key).or (lower.get? key) :=
  get?_foldl_insert upper.keysRise lower key

/-- Nothing shows through a map that binds every key of the one below. -/
theorem laidOver_eq_self {upper lower : TextMap} (kept : ∀ key, (lower.get? key).isSome → (upper.get? key).isSome) :
    upper.laidOver lower = upper := by
  refine ext_get? fun key => ?_
  rw [get?_laidOver]
  cases held : upper.get? key with
  | some value => rfl
  | none =>
    -- What the upper map does not bind, the lower one does not bind either.
    have unbound := mt (kept key) (by simp [held])
    simpa using unbound

/-- A map is the map of its bindings. -/
theorem ofList_entries (map : TextMap) : ofList map.entries = map := by
  have rise : KeysRise (empty.entries ++ map.entries) := map.keysRise
  have same : (ofList map.entries).entries = map.entries := entries_foldl_insert rise
  generalize ofList map.entries = made at same
  cases made
  cases map
  simpa using same

end TextMap

end StorageConfig
