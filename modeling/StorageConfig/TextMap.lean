/-! Finite maps from texts to texts, one value for each map whatever order it was built in. -/

namespace StorageConfig

/-- Bindings whose keys rise strictly, in the order of their UTF-8 bytes. -/
def KeysRise {α : Type} (entries : List (String × α)) : Prop :=
  entries.Pairwise fun left right => left.1 < right.1

/-- Bind a key in a rising list, in place of what it was bound to. -/
def bindKey {α : Type} (key : String) (value : α) : List (String × α) → List (String × α)
  | [] => [(key, value)]
  | (other, kept) :: rest =>
    if key < other then (key, value) :: (other, kept) :: rest
    else if key = other then (key, value) :: rest
    else (other, kept) :: bindKey key value rest

/-- Only the bound key and the keys already there occur afterwards. -/
theorem mem_bindKey {α : Type} {key : String} {value : α} {entries : List (String × α)}
    {entry : String × α} (member : entry ∈ bindKey key value entries) :
    entry = (key, value) ∨ entry ∈ entries := by
  induction entries with
  | nil => simpa [bindKey] using member
  | cons head rest ih =>
    obtain ⟨other, kept⟩ := head
    rw [bindKey] at member
    split at member
    · simpa using member
    · split at member
      · simp only [List.mem_cons] at member ⊢
        exact member.imp id .inr
      · simp only [List.mem_cons] at member ⊢
        rcases member with same | deeper
        · exact .inr (.inl same)
        · exact (ih deeper).imp id .inr

/-- Binding a key keeps the keys rising. -/
theorem keysRise_bindKey {α : Type} {key : String} {value : α} {entries : List (String × α)}
    (rise : KeysRise entries) : KeysRise (bindKey key value entries) := by
  induction entries with
  | nil => simp [KeysRise, bindKey]
  | cons head rest ih =>
    obtain ⟨other, kept⟩ := head
    have above := (List.pairwise_cons.1 rise).1
    have tail : KeysRise rest := (List.pairwise_cons.1 rise).2
    rw [bindKey]
    split
    · -- The new key stands in front, so it is below the old head and all that follows.
      rename_i below
      refine List.pairwise_cons.2 ⟨fun entry member => ?_, rise⟩
      rcases List.mem_cons.1 member with rfl | member
      · exact below
      · exact String.lt_trans below (above entry member)
    · split
      · rename_i same
        subst same
        exact List.pairwise_cons.2 ⟨above, tail⟩
      · rename_i notBelow different
        refine List.pairwise_cons.2 ⟨fun entry member => ?_, ih tail⟩
        rcases mem_bindKey member with rfl | member
        · -- Neither below nor equal, the new key is above.
          exact Decidable.byContradiction fun notAbove =>
            different (String.le_antisymm (String.not_lt.1 notAbove) (String.not_lt.1 notBelow))
        · exact above entry member

/-- A finite map of texts, held as its bindings in rising key order. -/
structure TextMap where
  /-- The bindings, each key once. -/
  entries : List (String × String)
  /-- The keys rise strictly. -/
  keysRise : KeysRise entries
  deriving DecidableEq

namespace TextMap

/-- The map without bindings. -/
def empty : TextMap := ⟨[], List.Pairwise.nil⟩

instance : EmptyCollection TextMap := ⟨empty⟩
instance : Inhabited TextMap := ⟨empty⟩

/-- What a key is bound to. -/
def get? (map : TextMap) (key : String) : Option String :=
  (map.entries.find? fun entry => entry.1 == key).map (·.2)

/-- The map with one key bound anew. -/
def insert (map : TextMap) (key value : String) : TextMap :=
  ⟨bindKey key value map.entries, keysRise_bindKey map.keysRise⟩

/-- The map without one key. -/
def erase (map : TextMap) (key : String) : TextMap :=
  ⟨map.entries.filter (fun entry => entry.1 != key), List.Pairwise.filter _ map.keysRise⟩

/-- The map of a list of bindings, of which the last for a key holds. -/
def ofList (entries : List (String × String)) : TextMap :=
  entries.foldl (fun map entry => map.insert entry.1 entry.2) empty

/-- Whether there is no binding. -/
def isEmpty (map : TextMap) : Bool := map.entries.isEmpty

end TextMap

end StorageConfig
