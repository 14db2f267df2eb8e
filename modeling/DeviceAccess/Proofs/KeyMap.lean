import Mathlib
import DeviceAccess.KeyMap

/-!
# Keys of maps

The keys of a map are those under which it holds a value. They are in ascending order, so that none
occurs twice and the size of a map is the number of its keys. A map is also the map of its entries,
put in one after the other, and the map of a list holds under each key what stands last under it.
-/

namespace DeviceAccess

/-! ## Last members of lists -/

/-- The last member of a list with a property. -/
def IsLast {α : Type} (p : α → Prop) (xs : List α) (x : α) : Prop :=
  ∃ before after, xs = before ++ x :: after ∧ p x ∧ ∀ y ∈ after, ¬p y

theorem isLast_cons_iff {α : Type} {p : α → Prop} {x y : α} {xs : List α} :
    IsLast p (x :: xs) y ↔ IsLast p xs y ∨ y = x ∧ p x ∧ ∀ z ∈ xs, ¬p z := by
  constructor
  · rintro ⟨before, after, hxs, hy, hafter⟩
    cases before with
    | nil =>
      obtain ⟨rfl, rfl⟩ := List.cons.inj hxs
      exact .inr ⟨rfl, hy, hafter⟩
    | cons b before =>
      obtain ⟨rfl, rfl⟩ := List.cons.inj hxs
      exact .inl ⟨before, after, rfl, hy, hafter⟩
  · rintro (⟨before, after, rfl, hy, hafter⟩ | ⟨rfl, hy, hxs⟩)
    · exact ⟨x :: before, after, rfl, hy, hafter⟩
    · exact ⟨[], xs, rfl, hy, hxs⟩

theorem isLast_concat_iff {α : Type} {p : α → Prop} {x y : α} {xs : List α} :
    IsLast p (xs ++ [x]) y ↔ y = x ∧ p x ∨ ¬p x ∧ IsLast p xs y := by
  induction xs with
  | nil =>
    rw [List.nil_append, isLast_cons_iff]
    simp [IsLast]
  | cons z zs ih =>
    rw [List.cons_append, isLast_cons_iff, isLast_cons_iff, ih]
    simp only [List.mem_append, List.mem_singleton]
    grind

/-- Members without the property do not matter. -/
theorem isLast_filter_iff {α : Type} {p : α → Prop} {keep : α → Bool}
    (hkeep : ∀ x, p x → keep x = true) {xs : List α} {y : α} :
    IsLast p (xs.filter keep) y ↔ IsLast p xs y := by
  induction xs using List.reverseRecOn with
  | nil => simp
  | append_singleton xs x ih =>
    rw [List.filter_append, isLast_concat_iff, ← ih]
    cases hx : keep x with
    | true => simp [hx, isLast_concat_iff]
    | false =>
      have hnot : ¬p x := fun hp => by simp [hkeep x hp] at hx
      simp [hx, hnot]

theorem isLast_map_iff {α β : Type} {p : β → Prop} {f : α → β} (hf : f.Injective) {xs : List α}
    {x : α} : IsLast p (xs.map f) (f x) ↔ IsLast (fun y => p (f y)) xs x := by
  induction xs using List.reverseRecOn with
  | nil => simp [IsLast]
  | append_singleton xs y ih =>
    rw [List.map_append, List.map_singleton, isLast_concat_iff, isLast_concat_iff, ih, hf.eq_iff]

theorem IsLast.mem {α : Type} {p : α → Prop} {xs : List α} {x : α} (h : IsLast p xs x) : x ∈ xs := by
  obtain ⟨before, after, rfl, -, -⟩ := h
  simp

namespace KeyMap

variable {β : Type}

/-- The keys of a map, in their order. -/
def keys (m : KeyMap β) : List String := m.entries.map Prod.fst

theorem isSome_get?_iff (m : KeyMap β) (key : String) : (m.get? key).isSome ↔ key ∈ m.keys := by
  unfold get? keys
  induction m.entries with
  | nil => simp
  | cons entry rest ih =>
    obtain ⟨k, v⟩ := entry
    rw [lookup_entry, List.map_cons, List.mem_cons, ← ih]
    by_cases hkey : key = k
    · simp [hkey]
    · simp [hkey]

theorem nodup_keys (m : KeyMap β) : m.keys.Nodup := by
  have hascending : m.keys.Pairwise (· < ·) := List.pairwise_map.mpr m.ascending
  exact hascending.imp ne_of_lt

/-- What each entry contributes to a list is what one entry contributes, if those under other keys
contribute nothing. -/
theorem flatMap_entries_of_mem {γ : Type} (m : KeyMap β) {e : String × β} (he : e ∈ m.entries)
    {f : String × β → List γ} (hf : ∀ x, x.1 ≠ e.1 → f x = []) : m.entries.flatMap f = f e := by
  obtain ⟨entries, hascending⟩ := m
  simp only at he ⊢
  induction entries with
  | nil => cases he
  | cons x rest ih =>
    obtain ⟨habove, hrest⟩ := List.pairwise_cons.mp hascending
    rw [List.flatMap_cons]
    rcases List.mem_cons.mp he with rfl | he
    · have hothers : rest.flatMap f = [] := by
        rw [List.flatMap_eq_nil_iff]
        exact fun y hy => hf y (ne_of_gt (habove y hy))
      rw [hothers, List.append_nil]
    · rw [hf x (ne_of_lt (habove e he)), List.nil_append, ih hrest he]

/-- The size of a map is the number of keys that have a value. -/
theorem size_eq_card (m : KeyMap β) {keys : Finset String}
    (hkeys : ∀ key, key ∈ keys ↔ (m.get? key).isSome) : m.size = keys.card := by
  have hsame : keys = m.keys.toFinset := by
    ext key
    rw [hkeys, isSome_get?_iff, List.mem_toFinset]
  have hlength : m.keys.length = m.size := List.length_map ..
  rw [hsame, List.toFinset_card_of_nodup m.nodup_keys, hlength]

/-! ## Maps and their entries -/

theorem mem_entries_iff (m : KeyMap β) (key : String) (value : β) :
    (key, value) ∈ m.entries ↔ m.get? key = some value := by
  rw [get?, List.lookup_eq_some_iff]
  constructor
  · intro hmem
    obtain ⟨before, behind, hentries⟩ := List.append_of_mem hmem
    refine ⟨before, behind, hentries, fun e he => ?_⟩
    have hascending := m.ascending
    rw [hentries] at hascending
    have hbefore := (List.pairwise_append.mp hascending).2.2 e he _ List.mem_cons_self
    exact bne_iff_ne.mpr (ne_of_gt hbefore)
  · rintro ⟨before, behind, hentries, -⟩
    simp [hentries]

/-- Under a new key an entry is added, wherever it is put. -/
theorem place_perm {key : String} {entries : List (String × β)}
    (h : key ∉ entries.map Prod.fst) (value : β) :
    (place key value entries).Perm ((key, value) :: entries) := by
  induction entries with
  | nil => exact .refl _
  | cons e rest ih =>
    rw [List.map_cons, List.mem_cons, not_or] at h
    rw [place]
    split
    · exact .refl _
    · rw [if_neg h.1]
      exact ((ih h.2).cons e).trans (.swap (key, value) e rest)

theorem foldl_insert_perm (m : KeyMap β) {entries : List (String × β)}
    (h : ((m.entries ++ entries).map Prod.fst).Nodup) :
    (entries.foldl (fun m (key, value) => m.insert key value) m).entries.Perm
      (m.entries ++ entries) := by
  induction entries generalizing m with
  | nil => simp
  | cons e rest ih =>
    obtain ⟨key, value⟩ := e
    have hmiddle : (m.entries ++ (key, value) :: rest).Perm ((key, value) :: (m.entries ++ rest)) :=
      List.perm_middle
    have hnew : key ∉ m.entries.map Prod.fst := by
      have hall := (hmiddle.map Prod.fst).nodup_iff.mp h
      rw [List.map_cons, List.nodup_cons, List.map_append, List.mem_append, not_or] at hall
      exact hall.1.1
    have hplace : (m.insert key value).entries.Perm ((key, value) :: m.entries) :=
      place_perm hnew value
    have hwhole : ((m.insert key value).entries ++ rest).Perm (m.entries ++ (key, value) :: rest) :=
      (hplace.append_right rest).trans hmiddle.symm
    rw [List.foldl_cons]
    exact (ih (m.insert key value) ((hwhole.map Prod.fst).nodup_iff.mpr h)).trans hwhole

/-- Maps with the same entries in whatever order are the same map. -/
theorem eq_of_perm {m m' : KeyMap β} (h : m.entries.Perm m'.entries) : m = m' := by
  have hentries : m.entries = m'.entries :=
    h.eq_of_pairwise (fun _ _ _ _ hlt hgt => absurd hlt (lt_asymm hgt)) m.ascending m'.ascending
  cases m
  cases m'
  cases hentries
  rfl

/-- A map is the map of its entries, put in in whatever order. -/
theorem ofList_of_perm (m : KeyMap β) {entries : List (String × β)}
    (h : entries.Perm m.entries) : ofList entries = m := by
  have hnodup : (entries.map Prod.fst).Nodup := (h.map Prod.fst).nodup_iff.mpr m.nodup_keys
  exact eq_of_perm ((foldl_insert_perm empty hnodup).trans h)

/-- A map is the map of its entries. -/
theorem ofList_entries (m : KeyMap β) : ofList m.entries = m := ofList_of_perm m (.refl _)

/-- **The map of a list** holds under each key what stands last under it. -/
theorem get?_ofList_eq_some_iff {entries : List (String × β)} {key : String} {value : β} :
    (ofList entries).get? key = some value ↔ IsLast (fun e => e.1 = key) entries (key, value) := by
  induction entries using List.reverseRecOn with
  | nil => simp [ofList, get?_empty, IsLast]
  | append_singleton entries e ih =>
    obtain ⟨k, v⟩ := e
    have hsnoc : ofList (entries ++ [(k, v)]) = (ofList entries).insert k v := by
      simp [ofList, List.foldl_append]
    rw [hsnoc, get?_insert, isLast_concat_iff, ← ih]
    by_cases hkey : key = k
    · simp [hkey, eq_comm]
    · simp [hkey, Ne.symm hkey]

end KeyMap

end DeviceAccess
