/-!
# Maps from texts

A map from texts to values of one type, held as a list of entries in ascending order of their keys.
Two maps with the same values under the same keys are therefore the same map, and whatever is
written from a map comes in the order of the keys.

`get?_insert` says what a map holds after an insertion.
-/

namespace DeviceAccess

/-- A map from texts. -/
structure KeyMap (β : Type) where
  entries : List (String × β)
  ascending : entries.Pairwise fun a b => a.1 < b.1

namespace KeyMap

variable {β : Type}

instance [DecidableEq β] : DecidableEq (KeyMap β) := fun a b =>
  match a, b with
  | ⟨xs, _⟩, ⟨ys, _⟩ =>
    if h : xs = ys then isTrue (by subst h; rfl)
    else isFalse fun same => h (congrArg KeyMap.entries same)

/-- The map without entries. -/
def empty : KeyMap β := ⟨[], .nil⟩

instance : Inhabited (KeyMap β) := ⟨empty⟩

/-- The value under a key. -/
def get? (m : KeyMap β) (key : String) : Option β := m.entries.lookup key

/-- How many keys there are. -/
def size (m : KeyMap β) : Nat := m.entries.length

/-- There are no keys. -/
def isEmpty (m : KeyMap β) : Bool := m.entries.isEmpty

/-! ## §1 Insertion -/

/-- Puts an entry into its place among ascending entries. -/
def place (key : String) (value : β) : List (String × β) → List (String × β)
  | [] => [(key, value)]
  | (k, v) :: rest =>
    if key < k then (key, value) :: (k, v) :: rest
    else if key = k then (key, value) :: rest
    else (k, v) :: place key value rest

theorem mem_place {key : String} {value : β} {entries : List (String × β)} {e : String × β}
    (h : e ∈ place key value entries) : e = (key, value) ∨ e ∈ entries := by
  induction entries with
  | nil => exact .inl (by simpa [place] using h)
  | cons head rest ih =>
    simp only [place] at h
    split at h
    · simpa using h
    · split at h
      · rcases List.mem_cons.1 h with rfl | inside
        · exact .inl rfl
        · exact .inr (List.mem_cons_of_mem _ inside)
      · rcases List.mem_cons.1 h with rfl | inside
        · exact .inr (List.mem_cons_self ..)
        · exact (ih inside).imp_right (List.mem_cons_of_mem _)

/-- A text that neither precedes nor equals another one follows it. -/
theorem text_lt_of_not {a b : String} (notLess : ¬a < b) (different : a ≠ b) : b < a :=
  Decidable.byContradiction fun h =>
    different (String.le_antisymm (String.not_lt.1 h) (String.not_lt.1 notLess))

theorem place_ascending (key : String) (value : β) {entries : List (String × β)}
    (h : entries.Pairwise fun a b => a.1 < b.1) :
    (place key value entries).Pairwise fun a b => a.1 < b.1 := by
  induction entries with
  | nil => simp [place]
  | cons head rest ih =>
    obtain ⟨k, v⟩ := head
    have ⟨above, ordered⟩ := List.pairwise_cons.1 h
    simp only [place]
    split
    · rename_i before
      refine List.pairwise_cons.2 ⟨fun e inside => ?_, h⟩
      rcases List.mem_cons.1 inside with rfl | later
      · exact before
      · exact String.lt_trans before (above e later)
    · rename_i notBefore
      split
      · rename_i same
        exact List.pairwise_cons.2 ⟨fun e inside => same ▸ above e inside, ordered⟩
      · rename_i different
        refine List.pairwise_cons.2 ⟨fun e inside => ?_, ih ordered⟩
        rcases mem_place inside with rfl | later
        · exact text_lt_of_not notBefore different
        · exact above e later

/-- The map with a value under a key, in place of the value that was there. -/
def insert (m : KeyMap β) (key : String) (value : β) : KeyMap β :=
  ⟨place key value m.entries, place_ascending key value m.ascending⟩

/-- The map of the given entries; of several with one key the last counts. -/
def ofList (entries : List (String × β)) : KeyMap β :=
  entries.foldl (fun m (key, value) => m.insert key value) empty

/-- The entry that a member is, if `read` understands its value. -/
def readMember? {α : Type} (read : α → Option β) (member : String × α) : Option (String × β) :=
  (read member.2).map fun value => (member.1, value)

/-- The map of members, if `read` understands all their values. -/
def ofMembers? {α : Type} (read : α → Option β) (members : List (String × α)) :
    Option (KeyMap β) :=
  (members.mapM (readMember? read)).map ofList

/-! ## §2 What a map holds -/

theorem get?_empty (key : String) : (empty : KeyMap β).get? key = none := rfl

theorem lookup_entry (key other : String) (value : β) (rest : List (String × β)) :
    ((key, value) :: rest).lookup other =
      if other = key then some value else rest.lookup other := by
  by_cases h : other = key
  · simp [h]
  · have noMatch : (other == key) = false := by simpa using h
    simp [List.lookup_cons, noMatch, h]

theorem lookup_place (key other : String) (value : β) (entries : List (String × β)) :
    (place key value entries).lookup other =
      if other = key then some value else entries.lookup other := by
  induction entries with
  | nil => simp [place, lookup_entry]
  | cons head rest ih =>
    obtain ⟨k, v⟩ := head
    simp only [place]
    split
    · rw [lookup_entry]
    · split
      · rename_i same
        subst same
        simp only [lookup_entry]
        split <;> rfl
      · rename_i different
        simp only [lookup_entry, ih]
        by_cases h : other = k
        · subst h
          simp [Ne.symm different]
        · simp [h]

/-- Inserting changes the value under one key. -/
theorem get?_insert (m : KeyMap β) (key other : String) (value : β) :
    (m.insert key value).get? other = if other = key then some value else m.get? other :=
  lookup_place key other value m.entries

end KeyMap

end DeviceAccess
