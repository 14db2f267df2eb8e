import Mathlib
import DeviceAccess.Proofs.Json.Strict
import DeviceAccess.Proofs.NameFilter

/-!
# Filters and their documents

Any document that is read as a filter is told apart into the known fields and the others, and the
filter writes a document that is read as the same filter. On the way, what specifies nothing is lost:
known fields that are null, and all but the last member under another key.

- `NameFilter.Gives` says which text a document gives to a field.
- `NameFilter.IsReadFrom` is what reading a document comes down to.
- `NameFilter.specifies_iff_gives` says that the filter specifies what the document gives.
- `NameFilter.parse?_text_of_parse?` puts this together with the law of writing and reading.
-/

namespace DeviceAccess.NameFilter

open Record

/-! ## §1 What a document gives -/

/-- The members give this text to the field with this key: it stands last under the key. -/
def Gives (members : List (String × Json.Value)) (key text : String) : Prop :=
  IsLast (fun m => m.1 = key) members (key, Json.Value.string text)

/-- The fields are those that the members give, each once: the known ones in their order, and behind
them the others in the order of their keys. -/
structure Lists (members : List (String × Json.Value)) (fields : List (String × String)) : Prop where
  given : ∀ key text, (key, text) ∈ fields ↔ Gives members key text
  ordered : ∃ known others, fields.map Prod.fst = known ++ others ∧ known.Sublist knownKeys ∧
    others.Pairwise (· < ·) ∧ ∀ key ∈ others, key ∉ knownKeys

/-- The known fields, each with its text if it has one. -/
def knownTexts (f : NameFilter) : List (String × Option String) :=
  [("CN", f.commonName), ("O", f.organization), ("OU", f.unit), ("L", f.locality),
    ("C", f.country), ("S", f.state)]

/-- The filter is what the members of a document are read as. -/
structure IsReadFrom (f : NameFilter) (members : List (String × Json.Value)) : Prop where
  known : ∀ key value, (key, value) ∈ f.knownTexts → known? members key = some value
  others : others? members = some f.other

variable {f : NameFilter} {members : List (String × Json.Value)} {key text : String}

theorem map_fst_knownTexts (f : NameFilter) : f.knownTexts.map Prod.fst = knownKeys := rfl

theorem exists_isReadFrom_of_ofValue? {document : Json.Value} (h : ofValue? document = some f) :
    ∃ members, document = .object members ∧ f.IsReadFrom members := by
  cases document with
  | leaf value => cases h
  | array items => cases h
  | object members =>
    simp only [ofValue?, Option.bind_eq_bind, Option.bind_eq_some_iff, Option.pure_def,
      Option.some_inj] at h
    obtain ⟨_, hcommonName, _, horganization, _, hunit, _, hlocality, _, hcountry, _, hstate, _,
      hothers, rfl⟩ := h
    refine ⟨members, rfl, fun key value hfield => ?_, hothers⟩
    simp only [knownTexts, List.mem_cons, List.not_mem_nil, or_false, Prod.mk.injEq] at hfield
    rcases hfield with ⟨rfl, rfl⟩ | ⟨rfl, rfl⟩ | ⟨rfl, rfl⟩ | ⟨rfl, rfl⟩ | ⟨rfl, rfl⟩ | ⟨rfl, rfl⟩
    · exact hcommonName
    · exact horganization
    · exact hunit
    · exact hlocality
    · exact hcountry
    · exact hstate

/-! ## §2 Known fields -/

/-- A field is specified by a text, and null specifies nothing. -/
theorem eq_some_iff_of_nullable? {v : Json.Value} {value : Option String}
    (h : v.nullable? Json.Value.string? = some value) :
    value = some text ↔ v = Json.Value.string text := by
  cases v with
  | leaf s =>
    cases s with
    | null =>
      cases h
      simp [Json.Value.string]
    | string t =>
      cases h
      exact Option.some_inj.trans Json.Value.string_inj.symm
    | bool b => cases h
    | number spelling => cases h
  | array items => cases h
  | object members => cases h

/-- A known field has the text that the document gives it. -/
theorem eq_some_iff_of_known? {value : Option String} (h : known? members key = some value) :
    value = some text ↔ Gives members key text := by
  have hkeep : ∀ m : String × Json.Value, m.1 = key → (m.1 == key) = true :=
    fun m hm => beq_iff_eq.mpr hm
  rw [Gives, ← isLast_filter_iff hkeep]
  unfold known? at h
  split at h
  · rename_i hnone
    cases h
    simp [hnone, IsLast]
  · rename_i k v hone
    have hkey : k = key := by
      have hmem : (k, v) ∈ members.filter fun m => m.1 == key := by
        rw [hone]
        exact List.mem_singleton_self _
      exact beq_iff_eq.mp (List.mem_filter.mp hmem).2
    rw [hone, isLast_cons_iff, eq_some_iff_of_nullable? h, hkey]
    simp only [IsLast, List.nil_eq, List.append_eq_nil_iff, reduceCtorEq]
    simp [eq_comm]
  · cases h

/-! ## §3 Other fields -/

/-- The member that is written for a field. -/
def memberOf (field : String × String) : String × Json.Value :=
  (field.1, Json.Value.string field.2)

theorem memberOf_injective : Function.Injective memberOf := by
  have htexts : Function.Injective Json.Value.string :=
    fun _ _ hsame => Json.Value.string_inj.mp hsame
  exact Function.injective_id.prodMap htexts

theorem readMember?_eq_some_iff {m : String × Json.Value} {field : String × String} :
    KeyMap.readMember? Json.Value.string? m = some field ↔ m = memberOf field := by
  obtain ⟨k, v⟩ := m
  obtain ⟨key, text⟩ := field
  cases v with
  | leaf s => cases s <;> simp [KeyMap.readMember?, Json.Value.string?, memberOf, Json.Value.string]
  | array items => simp [KeyMap.readMember?, Json.Value.string?, memberOf, Json.Value.string]
  | object members => simp [KeyMap.readMember?, Json.Value.string?, memberOf, Json.Value.string]

/-- Members are read as texts exactly if each of them is one. -/
theorem mapM_readMember?_eq_some_iff {entries : List (String × String)} :
    members.mapM (KeyMap.readMember? Json.Value.string?) = some entries ↔ members = entries.map memberOf := by
  rw [mapM_eq_some_iff]
  constructor
  · intro h
    induction h with
    | nil => rfl
    | cons hhead _ ih => rw [List.map_cons, readMember?_eq_some_iff.mp hhead, ih]
  · rintro rfl
    rw [List.forall₂_map_left_iff, List.forall₂_same]
    exact fun field _ => readMember?_eq_some_iff.mpr rfl

/-- Another field has the text that the document gives it. -/
theorem get?_eq_some_iff_of_others? {other : KeyMap String} (h : others? members = some other) :
    other.get? key = some text ↔ key ∉ knownKeys ∧ Gives members key text := by
  obtain ⟨entries, hentries, rfl⟩ := Option.map_eq_some_iff.mp h
  rw [mapM_readMember?_eq_some_iff] at hentries
  have hlast : (KeyMap.ofList entries).get? key = some text ↔
      IsLast (fun m => m.1 = key) (members.filter fun m => !knownKeys.contains m.1)
        (memberOf (key, text)) := by
    rw [KeyMap.get?_ofList_eq_some_iff, hentries, isLast_map_iff memberOf_injective]
    rfl
  rw [hlast]
  by_cases hkey : key ∈ knownKeys
  · -- no member under a known key is left among the others
    refine ⟨fun hmember => ?_, fun hgiven => absurd hkey hgiven.1⟩
    have hother := (List.mem_filter.mp hmember.mem).2
    simp [memberOf, hkey] at hother
  · have hkeep : ∀ m : String × Json.Value, m.1 = key → (!knownKeys.contains m.1) = true := by
      rintro ⟨k, v⟩ rfl
      simpa using hkey
    rw [isLast_filter_iff hkeep]
    exact ⟨fun hgiven => ⟨hkey, hgiven⟩, fun hgiven => hgiven.2⟩

/-! ## §4 All fields -/

/-- A field that is specified is a known one with its text, or one of the others. -/
theorem specifies_iff_known : f.Specifies key text ↔
    (key, some text) ∈ f.knownTexts ∨ f.other.get? key = some text := by
  simp only [knownTexts, List.mem_cons, List.not_mem_nil, or_false, Prod.mk.injEq]
  constructor
  · intro h
    cases h with
    | commonName h => simp [h]
    | organization h => simp [h]
    | unit h => simp [h]
    | locality h => simp [h]
    | country h => simp [h]
    | state h => simp [h]
    | other h => exact .inr h
  · rintro ((⟨rfl, h⟩ | ⟨rfl, h⟩ | ⟨rfl, h⟩ | ⟨rfl, h⟩ | ⟨rfl, h⟩ | ⟨rfl, h⟩) | h)
    · exact .commonName h.symm
    · exact .organization h.symm
    · exact .unit h.symm
    · exact .locality h.symm
    · exact .country h.symm
    · exact .state h.symm
    · exact .other h

/-- The keys of the fields: known ones in their order, then the others in the order of their keys. -/
theorem ordered_fields (hf : f.IsSeparate) :
    ∃ known others, f.fields.map Prod.fst = known ++ others ∧ known.Sublist knownKeys ∧
      others.Pairwise (· < ·) ∧ ∀ key ∈ others, key ∉ knownKeys := by
  have hkeys : f.fields.map Prod.fst = f.members.map Prod.fst := by
    simp [members, Function.comp_def]
  have hothers : f.otherMembers.map Prod.fst = f.other.keys := by
    simp [otherMembers, KeyMap.keys, Function.comp_def]
  refine ⟨(present f.known).map Prod.fst, f.other.keys, ?_, ?_, ?_, hf⟩
  · rw [hkeys, members_eq, List.map_append, hothers]
  · rw [← map_fst_known f]
    exact map_fst_present_sublist f.known
  · exact List.pairwise_map.mpr f.other.ascending

namespace IsReadFrom

/-- The other fields of a filter that was read have keys of their own. -/
theorem isSeparate (h : f.IsReadFrom members) : f.IsSeparate := by
  intro key hkey
  obtain ⟨text, htext⟩ := Option.isSome_iff_exists.mp ((f.other.isSome_get?_iff key).mpr hkey)
  exact ((get?_eq_some_iff_of_others? h.others).mp htext).1

/-- **A filter that was read** specifies what its document gives. -/
theorem specifies_iff_gives (h : f.IsReadFrom members) (key text : String) :
    f.Specifies key text ↔ Gives members key text := by
  rw [specifies_iff_known, get?_eq_some_iff_of_others? h.others]
  constructor
  · rintro (hknown | ⟨_, hgiven⟩)
    · exact (eq_some_iff_of_known? (h.known key (some text) hknown)).mp rfl
    · exact hgiven
  · intro hgiven
    by_cases hkey : key ∈ knownKeys
    · -- a known key has a field, which was looked up in the document
      rw [← map_fst_knownTexts f] at hkey
      obtain ⟨⟨_, value⟩, hfield, rfl⟩ := List.mem_map.mp hkey
      obtain rfl := (eq_some_iff_of_known? (h.known _ value hfield)).mpr hgiven
      exact .inl hfield
    · exact .inr ⟨hkey, hgiven⟩

theorem lists (h : f.IsReadFrom members) : Lists members f.fields where
  given key text := (mem_fields_iff key text).trans (h.specifies_iff_gives key text)
  ordered := ordered_fields h.isSeparate

end IsReadFrom

/-! ## §5 Texts -/

/-- The document of a filter can be written and read: its leaves are texts. -/
theorem parse?_compact_toValue (f : NameFilter) : Json.parse? f.toValue.compact = some f.toValue := by
  have hleaves : f.toValue.AllLeaves Json.Scalar.IsWritable := by
    apply Tree.AllLeaves.object
    intro m hm
    obtain ⟨field, _, rfl⟩ := List.mem_map.mp hm
    exact Json.Value.allLeaves_string field.2
  have hdepth : f.toValue.depth = 1 := by
    apply Tree.depth_object_of_leaves
    intro m hm
    obtain ⟨field, _, rfl⟩ := List.mem_map.mp hm
    rfl
  have hlimit : 1 ≤ Json.maxDepth := by decide
  exact Json.parse?_compact hleaves (hdepth ▸ hlimit)

/-- **A filter that was read** is read again from what it writes. Its fields are those that the
document gives, in a fixed order, and the names that pass before and after are those that have
them. -/
theorem parse?_text_of_parse? {text : String} {f : NameFilter} (h : parse? text = some f) :
    parse? f.text = some f ∧
      ∃ members, Json.parse? text = some (.object members) ∧ Lists members f.fields ∧
        ∀ g, parse? f.text = some g → ∀ n,
          g.accepts n = f.accepts n ∧
            (g.accepts n = true ↔ ∀ key value, Gives members key value → n.Has key value) := by
  obtain ⟨document, hdocument, hread⟩ := Option.bind_eq_some_iff.mp h
  obtain ⟨members, rfl, hmembers⟩ := exists_isReadFrom_of_ofValue? hread
  have hback : parse? f.text = some f := by
    rw [parse?, NameFilter.text, parse?_compact_toValue, Option.bind_some]
    exact ofValue?_of_isWritten hmembers.isSeparate f.isWritten_toValue
  refine ⟨hback, members, hdocument, hmembers.lists, fun g hg n => ?_⟩
  obtain rfl : f = g := Option.some.inj (hback.symm.trans hg)
  refine ⟨rfl, ?_⟩
  rw [accepts_iff_isMetBy, IsMetBy]
  simp only [hmembers.specifies_iff_gives]

/-- A known field that is null, another one that is repeated, and texts with escapes. -/
theorem parse?_text_of_parse?_repeated :
    let text := "\x7b\"E\":\"a\",\"CN\":null,\"O\":\"x\\\"y\",\"E\":\"b\",\"DC\":\"\\u0001\"\x7d"
    let f : NameFilter :=
      { empty with
        organization := some "x\"y", other := (KeyMap.empty.insert "E" "b").insert "DC" "\x01" }
    parse? text = some f ∧ f.fields = [("O", "x\"y"), ("DC", "\x01"), ("E", "b")] ∧
      parse? f.text = some f ∧
      ∃ members, Json.parse? text = some (.object members) ∧ Lists members f.fields ∧
        ∀ g, parse? f.text = some g → ∀ n,
          g.accepts n = f.accepts n ∧
            (g.accepts n = true ↔ ∀ key value, Gives members key value → n.Has key value) := by
  intro text f
  let document : Json.Value :=
    .object [memberOf ("E", "a"), ("CN", Json.Value.null), memberOf ("O", "x\"y"),
      memberOf ("E", "b"), memberOf ("DC", "\x01")]
  have htext : text = document.compact := by decide +kernel
  have hleaves : document.AllLeaves Json.Scalar.IsWritable := by
    apply Tree.AllLeaves.object
    have hnull : Json.Value.null.AllLeaves Json.Scalar.IsWritable :=
      .leaf fun _ hnumber => by cases hnumber
    simp [memberOf, Json.Value.allLeaves_string, hnull]
  have hdocument : Json.parse? text = some document := by
    rw [htext]
    exact Json.parse?_compact hleaves (by decide)
  have hvalue : ofValue? document = some f := by decide +kernel
  have hread : parse? text = some f := by rw [parse?, hdocument, Option.bind_some, hvalue]
  have hfields : f.fields = [("O", "x\"y"), ("DC", "\x01"), ("E", "b")] := by decide +kernel
  exact ⟨hread, hfields, parse?_text_of_parse? hread⟩

end DeviceAccess.NameFilter
