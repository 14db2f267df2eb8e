import DeviceAccess.Document.Tree

/-!
# Laws of documents

What holds of every container if it holds of everything in it holds of every document. Respelling a
document changes its keys and leaves and not its form: it is as deep as before, and interpreting it
gives the document back if every key and every leaf is given back.
-/

namespace DeviceAccess.Tree

variable {κ κ' α α' : Type}

/-! ## §1 Induction -/

/-- A statement holds for all trees if it holds for leaves, and for a container if it holds for
everything in it. -/
@[elab_as_elim]
theorem memberInduction {motive : Tree κ α → Prop} (leaf : ∀ v, motive (.leaf v))
    (array : ∀ items, (∀ t ∈ items, motive t) → motive (.array items))
    (object : ∀ members, (∀ m ∈ members, motive m.2) → motive (.object members)) (t : Tree κ α) :
    motive t := by
  refine Tree.rec (motive_1 := motive) (motive_2 := fun items => ∀ t ∈ items, motive t)
    (motive_3 := fun members => ∀ m ∈ members, motive m.2) (motive_4 := fun m => motive m.2)
    leaf array object ?_ ?_ ?_ ?_ ?_ t
  · intro t ht
    cases ht
  · intro first rest hfirst hrest t ht
    rcases List.mem_cons.mp ht with rfl | ht
    · exact hfirst
    · exact hrest t ht
  · intro m hm
    cases hm
  · intro first rest hfirst hrest m hm
    rcases List.mem_cons.mp hm with rfl | hm
    · exact hfirst
    · exact hrest m hm
  · intro key value hvalue
    exact hvalue

/-- Every leaf has a property. -/
inductive AllLeaves (P : α → Prop) : Tree κ α → Prop where
  | leaf {v : α} (h : P v) : AllLeaves P (.leaf v)
  | array {items : List (Tree κ α)} (h : ∀ t ∈ items, AllLeaves P t) : AllLeaves P (.array items)
  | object {members : List (κ × Tree κ α)} (h : ∀ m ∈ members, AllLeaves P m.2) :
      AllLeaves P (.object members)

/-! ## §2 Depth -/

theorem depth_array_of_leaves {items : List (Tree κ α)} (h : ∀ t ∈ items, t.depth = 0) :
    (array items).depth = 1 := by
  have hitems : depth.depthOfItems items = 0 := by
    induction items with
    | nil => rfl
    | cons t rest ih =>
      obtain ⟨ht, hrest⟩ := List.forall_mem_cons.mp h
      rw [depth.depthOfItems, ht, ih hrest, Nat.max_self]
  rw [depth, hitems]

theorem depth_object_of_leaves {members : List (κ × Tree κ α)}
    (h : ∀ m ∈ members, m.2.depth = 0) : (object members).depth = 1 := by
  have hmembers : depth.depthOfMembers members = 0 := by
    induction members with
    | nil => rfl
    | cons m rest ih =>
      obtain ⟨hm, hrest⟩ := List.forall_mem_cons.mp h
      rw [depth.depthOfMembers, hm, ih hrest, Nat.max_self]
  rw [depth, hmembers]

/-! ## §3 Respelling -/

/-- The document with other keys and leaves. -/
def map (f : κ → κ') (g : α → α') : Tree κ α → Tree κ' α'
  | leaf v => leaf (g v)
  | array items => array (ofItems items)
  | object members => object (ofMembers members)
where
  ofItems : List (Tree κ α) → List (Tree κ' α')
    | [] => []
    | t :: rest => map f g t :: ofItems rest
  ofMembers : List (κ × Tree κ α) → List (κ' × Tree κ' α')
    | [] => []
    | (k, t) :: rest => (f k, map f g t) :: ofMembers rest

section

variable (f : κ → κ') (g : α → α')

theorem map_array (items : List (Tree κ α)) :
    (array items).map f g = array (items.map (map f g)) := by
  have hitems : map.ofItems f g items = items.map (map f g) := by
    induction items with
    | nil => rfl
    | cons t rest ih => rw [map.ofItems, ih, List.map_cons]
  rw [map, hitems]

theorem map_object (members : List (κ × Tree κ α)) :
    (object members).map f g = object (members.map fun m => (f m.1, m.2.map f g)) := by
  have hmembers : map.ofMembers f g members = members.map fun m => (f m.1, m.2.map f g) := by
    induction members with
    | nil => rfl
    | cons m rest ih =>
      obtain ⟨k, t⟩ := m
      rw [map.ofMembers, ih, List.map_cons]
  rw [map, hmembers]

/-- Respelling leaves the depth as it is. -/
theorem depth_map (t : Tree κ α) : (t.map f g).depth = t.depth := by
  induction t using memberInduction with
  | leaf v => rfl
  | array items ih =>
    have hitems : depth.depthOfItems (items.map (map f g)) = depth.depthOfItems items := by
      induction items with
      | nil => rfl
      | cons t rest ih' =>
        have hrest := ih' fun u hu => ih u (List.mem_cons_of_mem t hu)
        rw [List.map_cons, depth.depthOfItems, depth.depthOfItems, ih t List.mem_cons_self, hrest]
    rw [map_array, depth, depth, hitems]
  | object members ih =>
    have hmembers : depth.depthOfMembers (members.map fun m => (f m.1, m.2.map f g)) =
        depth.depthOfMembers members := by
      induction members with
      | nil => rfl
      | cons m rest ih' =>
        have hrest := ih' fun u hu => ih u (List.mem_cons_of_mem m hu)
        rw [List.map_cons, depth.depthOfMembers, depth.depthOfMembers, ih m List.mem_cons_self,
          hrest]
    rw [map_object, depth, depth, hmembers]

end

/-! ## §4 Interpreting -/

section

variable {f : κ → κ'} {g : α → α'} {key : κ' → Option κ} {value : α' → Option α} {P : α → Prop}

/-- **Interpreting undoes respelling**, if it does so for every key and every leaf. -/
theorem interpret?_map (hkey : ∀ k, key (f k) = some k) (hvalue : ∀ v, P v → value (g v) = some v)
    {t : Tree κ α} (ht : t.AllLeaves P) : (t.map f g).interpret? key value = some t := by
  induction ht with
  | leaf h =>
    rw [map, interpret?, hvalue _ h]
    rfl
  | @array items h ih =>
    have hitems : interpret?.ofItems key value (items.map (map f g)) = some items := by
      clear h
      induction items with
      | nil => rfl
      | cons t rest ih' =>
        have hrest := ih' fun u hu => ih u (List.mem_cons_of_mem t hu)
        rw [List.map_cons, interpret?.ofItems, ih t List.mem_cons_self, hrest]
    rw [map_array, interpret?, hitems]
    rfl
  | @object members h ih =>
    have hmembers : interpret?.ofMembers key value
        (members.map fun m => (f m.1, m.2.map f g)) = some members := by
      clear h
      induction members with
      | nil => rfl
      | cons m rest ih' =>
        obtain ⟨k, t⟩ := m
        have hrest := ih' fun u hu => ih u (List.mem_cons_of_mem (k, t) hu)
        have ht := ih (k, t) List.mem_cons_self
        rw [List.map_cons, interpret?.ofMembers, hkey, ht, hrest]
    rw [map_object, interpret?, hmembers]
    rfl

end

end DeviceAccess.Tree
