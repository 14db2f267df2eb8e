import DeviceAccess.Document.Record
import DeviceAccess.Proofs.Fault

/-!
# Records read back

A record that is written as an object has a member for each field that is set, and none for the
others. Reading it gives every field back, in whatever order the members are and whatever the rules
of the notation allow besides. Where no field may be repeated, a field is read as the one value under
its name.
-/

namespace DeviceAccess.Record

variable {α : Type}

/-- The members of a record: one for each field that is set. -/
def present (fields : List (String × Option (Tree String α))) : List (String × Tree String α) :=
  fields.flatMap fun field => (field.2.map (field.1, ·)).toList

variable {fields : List (String × Option (Tree String α))} {name : String}

theorem mem_present_iff {t : Tree String α} :
    (name, t) ∈ present fields ↔ (name, some t) ∈ fields := by
  simp only [present, List.mem_flatMap, Option.mem_toList, Option.map_eq_some_iff, Prod.mk.injEq]
  constructor
  · rintro ⟨⟨_, _⟩, hfield, _, rfl, rfl, rfl⟩
    exact hfield
  · intro hfield
    exact ⟨(name, some t), hfield, t, rfl, rfl, rfl⟩

theorem present_append (first second : List (String × Option (Tree String α))) :
    present (first ++ second) = present first ++ present second := List.flatMap_append

theorem map_fst_present_sublist (fields : List (String × Option (Tree String α))) :
    ((present fields).map Prod.fst).Sublist (fields.map Prod.fst) := by
  induction fields with
  | nil => exact .slnil
  | cons field rest ih =>
    obtain ⟨name, value⟩ := field
    cases value with
    | none => exact ih.cons name
    | some t => exact ih.cons_cons name

theorem valuesOf_append (first second : List (String × Tree String α)) :
    valuesOf some name (first ++ second) =
      valuesOf some name first ++ valuesOf some name second := by
  simp [valuesOf]

theorem valuesOf_present_of_not_mem (hname : name ∉ fields.map Prod.fst) :
    valuesOf some name (present fields) = [] := by
  have hmembers : name ∉ (present fields).map Prod.fst :=
    fun hmem => hname ((map_fst_present_sublist fields).subset hmem)
  rw [valuesOf, List.map_eq_nil_iff, List.filter_eq_nil_iff]
  intro member hmember hsame
  simp only [beq_iff_eq, Option.some_inj] at hsame
  exact hmembers (hsame ▸ List.mem_map_of_mem hmember)

/-- Under the name of a field there is its value, if it is set. -/
theorem valuesOf_present (hnodup : (fields.map Prod.fst).Nodup)
    {field : String × Option (Tree String α)} (hfield : field ∈ fields) :
    valuesOf some field.1 (present fields) = field.2.toList := by
  induction fields with
  | nil => cases hfield
  | cons first rest ih =>
    obtain ⟨hfirst, hrest⟩ := List.nodup_cons.mp hnodup
    have hsplit : present (first :: rest) = present [first] ++ present rest :=
      present_append [first] rest
    rw [hsplit, valuesOf_append]
    rcases List.mem_cons.mp hfield with rfl | hmem
    · rw [valuesOf_present_of_not_mem hfirst, List.append_nil]
      cases h : field.2 <;> simp [present, valuesOf, h]
    · have hother : field.1 ∉ [first].map Prod.fst := by
        rw [List.map_singleton, List.mem_singleton]
        exact fun hsame => hfirst (hsame ▸ List.mem_map_of_mem hmem)
      rw [valuesOf_present_of_not_mem hother, List.nil_append, ih hrest hmem]

/-- The tree is an object with these members, in whatever order. -/
def IsObjectOf (members : List (String × Tree String α)) (t : Tree String α) : Prop :=
  ∃ ordered, t = .object ordered ∧ ordered.Perm members

/-- The order of members does not matter where a name has at most one value. -/
theorem valuesOf_of_perm {members base : List (String × Tree String α)} (hperm : members.Perm base)
    {value : Option (Tree String α)} (hbase : valuesOf some name base = value.toList) :
    valuesOf some name members = value.toList := by
  have hvalues : (valuesOf some name members).Perm (valuesOf some name base) :=
    (hperm.filter _).map Prod.snd
  rw [hbase] at hvalues
  cases value with
  | none => exact hvalues.eq_nil
  | some t => exact List.perm_singleton.mp hvalues

/-- **A record reads back from the object with its fields**, in whatever order they are. -/
theorem fields?_of_perm (rules : RecordRules) {members : List (String × Tree String α)}
    (hperm : members.Perm (present fields)) (hnodup : (fields.map Prod.fst).Nodup) :
    fields? rules some (fields.map Prod.fst) (.object members) = some (fields.map Prod.snd) := by
  have hadmits : (members.all fun member =>
      admitsKey rules (fields.map Prod.fst) (some member.1)) = true := by
    rw [List.all_eq_true]
    intro member hmember
    have hpresent := hperm.subset hmember
    have hname := (map_fst_present_sublist fields).subset (List.mem_map_of_mem hpresent)
    simp only [admitsKey, Bool.or_eq_true, List.contains_iff_mem]
    exact .inr hname
  rw [fields?, if_pos hadmits, mapM_eq_some_iff, List.forall₂_map_left_iff,
    List.forall₂_map_right_iff, List.forall₂_same]
  intro field hfield
  rw [field?, valuesOf_of_perm hperm (valuesOf_present hnodup hfield)]
  cases field.2 <;> rfl

/-- A record reads back from the object with its fields in their order. -/
theorem fields?_present (rules : RecordRules) (hnodup : (fields.map Prod.fst).Nodup) :
    fields? rules some (fields.map Prod.fst) (.object (present fields)) =
      some (fields.map Prod.snd) :=
  fields?_of_perm rules (.refl _) hnodup

/-- Where no field may be repeated, its value is the only one under its name. -/
theorem field?_eq_some_iff {κ : Type} {rules : RecordRules} (hrules : rules.repeats = false)
    {keyText : κ → Option String} {members : List (κ × Tree κ α)} {value : Option (Tree κ α)} :
    field? rules keyText members name = some value ↔
      valuesOf keyText name members = value.toList := by
  rw [field?]
  cases valuesOf keyText name members with
  | nil => cases value <;> simp
  | cons t rest =>
    cases rest with
    | nil => cases value <;> simp
    | cons t' rest => cases value <;> simp [hrules]

end DeviceAccess.Record
