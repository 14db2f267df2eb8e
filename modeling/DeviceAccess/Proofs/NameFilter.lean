import Mathlib
import DeviceAccess.NameFilter
import DeviceAccess.Proofs.Document.Record
import DeviceAccess.Proofs.Fault
import DeviceAccess.Proofs.KeyMap

/-!
# Fields of filters

What a filter of names asks for, and how it is found again in its document. The known fields and the
others stand side by side in one object, so that the others must have keys of their own.

- `NameFilter.accepts_iff_isMetBy` says which names pass: those with a component for each field that
  the filter specifies.
- `NameFilter.ofValue?_of_isWritten` reads a filter back from its fields, in whatever order they
  are.
-/

namespace DeviceAccess

open Text

/-- The name has a component with this value, under this key in any case of letters. -/
def DistinguishedName.Has (n : DistinguishedName) (key value : String) : Prop :=
  ∃ k, (k, value) ∈ n.components ∧ lowerText k = lowerText key

theorem DistinguishedName.contains_iff_has (n : DistinguishedName) (key value : String) :
    n.contains key value = true ↔ n.Has key value := by
  simp [contains, Has, sameIgnoringCase]

namespace NameFilter

open Record

/-! ## §1 What a filter asks for -/

/-- The filter gives this value to the field with this key. -/
inductive Specifies (f : NameFilter) : String → String → Prop where
  | commonName {value : String} (h : f.commonName = some value) : Specifies f "CN" value
  | organization {value : String} (h : f.organization = some value) : Specifies f "O" value
  | unit {value : String} (h : f.unit = some value) : Specifies f "OU" value
  | locality {value : String} (h : f.locality = some value) : Specifies f "L" value
  | country {value : String} (h : f.country = some value) : Specifies f "C" value
  | state {value : String} (h : f.state = some value) : Specifies f "S" value
  | other {key value : String} (h : f.other.get? key = some value) : Specifies f key value

/-- The name has a component for each field that the filter specifies. -/
def IsMetBy (f : NameFilter) (n : DistinguishedName) : Prop :=
  ∀ key value, f.Specifies key value → n.Has key value

variable {f : NameFilter}

theorem mem_fields_iff (key value : String) : (key, value) ∈ f.fields ↔ f.Specifies key value := by
  simp only [fields, List.mem_append, Option.mem_toList, Option.map_eq_some_iff, Prod.mk.injEq,
    KeyMap.mem_entries_iff]
  constructor
  · rintro ((((((⟨_, h, rfl, rfl⟩ | ⟨_, h, rfl, rfl⟩) | ⟨_, h, rfl, rfl⟩) | ⟨_, h, rfl, rfl⟩) |
      ⟨_, h, rfl, rfl⟩) | ⟨_, h, rfl, rfl⟩) | h)
    · exact .commonName h
    · exact .organization h
    · exact .unit h
    · exact .locality h
    · exact .country h
    · exact .state h
    · exact .other h
  · intro h
    cases h with
    | commonName h => simp [h]
    | organization h => simp [h]
    | unit h => simp [h]
    | locality h => simp [h]
    | country h => simp [h]
    | state h => simp [h]
    | other h => simp [h]

/-- **The names that pass a filter** have a component for each field that it specifies. -/
theorem accepts_iff_isMetBy (f : NameFilter) (n : DistinguishedName) :
    f.accepts n = true ↔ f.IsMetBy n := by
  rw [accepts, List.all_eq_true, IsMetBy]
  constructor
  · intro hall key value hspecifies
    have hfield := (mem_fields_iff key value).mpr hspecifies
    exact (n.contains_iff_has key value).mp (hall (key, value) hfield)
  · rintro hmet ⟨key, value⟩ hfield
    have hspecifies := (mem_fields_iff key value).mp hfield
    exact (n.contains_iff_has key value).mpr (hmet key value hspecifies)

/-! ## §2 Documents -/

/-- The members of the document of a filter. -/
def members (f : NameFilter) : List (String × Json.Value) :=
  f.fields.map fun field => (field.1, Json.Value.string field.2)

/-- The document has the fields of the filter, in whatever order. -/
def IsWritten (f : NameFilter) (document : Json.Value) : Prop := IsObjectOf f.members document

theorem isWritten_toValue (f : NameFilter) : f.IsWritten f.toValue := ⟨f.members, rfl, .refl _⟩

/-- The other fields have keys of their own. -/
def IsSeparate (f : NameFilter) : Prop := ∀ key ∈ f.other.keys, key ∉ knownKeys

/-- The known fields, each with its value if it has one. -/
def known (f : NameFilter) : List (String × Option Json.Value) :=
  [("CN", f.commonName.map .string), ("O", f.organization.map .string),
    ("OU", f.unit.map .string), ("L", f.locality.map .string), ("C", f.country.map .string),
    ("S", f.state.map .string)]

/-- The members of the other fields. -/
def otherMembers (f : NameFilter) : List (String × Json.Value) :=
  f.other.entries.map fun entry => (entry.1, Json.Value.string entry.2)

theorem map_fst_known (f : NameFilter) : f.known.map Prod.fst = knownKeys := rfl

theorem members_eq (f : NameFilter) : f.members = present f.known ++ f.otherMembers := by
  unfold members fields otherMembers
  simp only [List.map_append, ← Option.toList_map, Option.map_map]
  simp [present, known, Function.comp_def]

/-! ## §3 Known fields read back -/

variable {ordered : List (String × Json.Value)}

theorem valuesOf_otherMembers (hf : f.IsSeparate) {key : String} (hkey : key ∈ knownKeys) :
    valuesOf some key f.otherMembers = [] := by
  rw [valuesOf, List.map_eq_nil_iff, List.filter_eq_nil_iff]
  intro member hmember hsame
  obtain ⟨entry, hentry, rfl⟩ := List.mem_map.mp hmember
  simp only [beq_iff_eq, Option.some_inj] at hsame
  have hother : entry.1 ∈ f.other.keys := List.mem_map_of_mem hentry
  exact hf entry.1 hother (hsame ▸ hkey)

/-- Under the key of a known field there is its value, if it has one, and nothing else. -/
theorem valuesOf_of_perm_members (hf : f.IsSeparate) (hperm : ordered.Perm f.members)
    {field : String × Option Json.Value} (hfield : field ∈ f.known) :
    valuesOf some field.1 ordered = field.2.toList := by
  have hkey : field.1 ∈ knownKeys := by
    rw [← map_fst_known f]
    exact List.mem_map_of_mem hfield
  apply valuesOf_of_perm hperm
  -- none of the other fields stands under the key of a known one
  rw [members_eq, valuesOf_append, valuesOf_otherMembers hf hkey, List.append_nil]
  have hnodup : (f.known.map Prod.fst).Nodup := by
    rw [map_fst_known]
    decide
  exact valuesOf_present hnodup hfield

/-- A known field is looked up by the values under its key. -/
theorem known?_eq_some {key : String} {value : Option String}
    (h : valuesOf some key ordered = (value.map Json.Value.string).toList) :
    known? ordered key = some value := by
  have hfilter : valuesOf some key ordered =
      (ordered.filter fun member => member.1 == key).map Prod.snd := by
    simp [valuesOf]
  rw [hfilter] at h
  unfold known?
  cases value with
  | none =>
    rw [List.map_eq_nil_iff.mp h]
  | some text =>
    obtain ⟨member, hmember, hvalue⟩ := List.map_eq_singleton_iff.mp h
    obtain ⟨k, v⟩ := member
    cases hvalue
    rw [hmember]
    rfl

theorem known?_of_perm_members (hf : f.IsSeparate) (hperm : ordered.Perm f.members) {key : String}
    {value : Option String} (hfield : (key, value.map Json.Value.string) ∈ f.known) :
    known? ordered key = some value :=
  known?_eq_some (valuesOf_of_perm_members hf hperm hfield)

/-! ## §4 Other fields read back -/

theorem filter_members (hf : f.IsSeparate) :
    (f.members.filter fun member => !knownKeys.contains member.1) = f.otherMembers := by
  have hknown : ((present f.known).filter fun member => !knownKeys.contains member.1) = [] := by
    rw [List.filter_eq_nil_iff]
    intro member hmember
    have hkey := (map_fst_present_sublist f.known).subset (List.mem_map_of_mem hmember)
    rw [map_fst_known] at hkey
    simpa using hkey
  have hother : (f.otherMembers.filter fun member => !knownKeys.contains member.1) =
      f.otherMembers := by
    rw [List.filter_eq_self]
    intro member hmember
    obtain ⟨entry, hentry, rfl⟩ := List.mem_map.mp hmember
    have hkey := hf entry.1 (List.mem_map_of_mem hentry)
    simpa using hkey
  rw [members_eq, List.filter_append, hknown, hother, List.nil_append]

/-- Members that are texts are read as the entries that they are made of, in their order. -/
theorem mapM_readMember?_of_perm {entries : List (String × String)}
    (h : ordered.Perm (entries.map fun entry => (entry.1, Json.Value.string entry.2))) :
    ∃ read, ordered.mapM (KeyMap.readMember? Json.Value.string?) = some read ∧ read.Perm entries := by
  have hall : ∀ member ∈ ordered, (KeyMap.readMember? Json.Value.string? member).isSome := by
    intro member hmember
    obtain ⟨entry, _, rfl⟩ := List.mem_map.mp (h.subset hmember)
    rfl
  have hread := h.filterMap (KeyMap.readMember? Json.Value.string?)
  have hentries :
      KeyMap.readMember? Json.Value.string? ∘ (fun entry => (entry.1, Json.Value.string entry.2)) = some := rfl
  rw [List.filterMap_map, hentries, List.filterMap_some] at hread
  exact ⟨_, mapM_eq_some_filterMap hall, hread⟩

theorem others?_of_perm_members (hf : f.IsSeparate) (hperm : ordered.Perm f.members) :
    others? ordered = some f.other := by
  have hothers := hperm.filter fun member => !knownKeys.contains member.1
  rw [filter_members hf] at hothers
  obtain ⟨entries, hread, hentries⟩ := mapM_readMember?_of_perm hothers
  rw [others?, KeyMap.ofMembers?, hread, Option.map_some, KeyMap.ofList_of_perm f.other hentries]

/-- **A filter reads back from its document**, in whatever order the fields are. -/
theorem ofValue?_of_isWritten (hf : f.IsSeparate) {document : Json.Value}
    (hdocument : f.IsWritten document) : ofValue? document = some f := by
  obtain ⟨ordered, rfl, hperm⟩ := hdocument
  have hknown : ∀ {key : String} {value : Option String},
      (key, value.map Json.Value.string) ∈ f.known → known? ordered key = some value :=
    fun hfield => known?_of_perm_members hf hperm hfield
  have hcommonName : known? ordered "CN" = some f.commonName := hknown (by simp [known])
  have horganization : known? ordered "O" = some f.organization := hknown (by simp [known])
  have hunit : known? ordered "OU" = some f.unit := hknown (by simp [known])
  have hlocality : known? ordered "L" = some f.locality := hknown (by simp [known])
  have hcountry : known? ordered "C" = some f.country := hknown (by simp [known])
  have hstate : known? ordered "S" = some f.state := hknown (by simp [known])
  simp [ofValue?, hcommonName, horganization, hunit, hlocality, hcountry, hstate,
    others?_of_perm_members hf hperm]

end NameFilter

end DeviceAccess
