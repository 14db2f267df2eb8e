import Mathlib
import DeviceAccess.Certificate.Basic
import DeviceAccess.Proofs.NameFilter
import DeviceAccess.Proofs.Text.Utf8

/-!
# Names of certificates

The name of a certificate has a component for each attribute whose content can be read as text. What
type the value has is not looked at, so an integer whose octets happen to be text counts like a
string.

- `Lists` says what a list of attributes amounts to if some of them count and others do not.
- `lists_iff_forall_not_isString` says when only strings count: exactly if no other value is readable.
  Then a filter of names is satisfied by strings alone.
-/

namespace DeviceAccess.Certificate

open Asn1 Text X509

variable {a : Attribute} {attributes : List Attribute} {components : List (String × String)}
  {key text : String}

/-! ## §1 Attributes -/

/-- The tags of the types of character strings: of UTF-8, numeric, printable, teletex, videotex, IA5,
graphic, visible, general, universal and BMP strings, and of strings without a fixed alphabet. -/
def characterStringTags : List Tag :=
  [0x0C, 0x12, 0x13, 0x14, 0x15, 0x16, 0x19, 0x1A, 0x1B, 0x1C, 0x1E, 0x3D]

/-- The value of the attribute is a character string. -/
def IsString (a : Attribute) : Prop := a.value.tag ∈ characterStringTags

instance (a : Attribute) : Decidable (IsString a) :=
  inferInstanceAs (Decidable (a.value.tag ∈ characterStringTags))

/-- The key of a kind of attributes: the short one, or the dotted form where there is none. -/
inductive HasKey (kind : Oid) : String → Prop where
  | short {key : String} (h : (kind.text, key) ∈ keys) : HasKey kind key
  | dotted (h : ∀ key, (kind.text, key) ∉ keys) : HasKey kind kind.text

theorem hasKey_keyOf (kind : Oid) : HasKey kind (keyOf kind) := by
  have hkey : keyOf kind = (keys.lookup kind.text).getD kind.text := rfl
  rw [hkey]
  cases hfound : keys.lookup kind.text with
  | some key =>
    obtain ⟨before, behind, hkeys, -⟩ := List.lookup_eq_some_iff.mp hfound
    have hmem : (kind.text, key) ∈ keys := by simp [hkeys]
    exact .short hmem
  | none =>
    have hother := List.lookup_eq_none_iff.mp hfound
    exact .dotted fun key hmem => by simpa using hother _ hmem

theorem component?_eq_some_iff :
    component? a = some (key, text) ↔
      keyOf a.kind = key ∧ a.value.content = utf8Text text := by
  rw [component?, Option.map_eq_some_iff]
  constructor
  · rintro ⟨read, hread, hpair⟩
    obtain ⟨hkey, rfl⟩ := Prod.mk.inj hpair
    exact ⟨hkey, textOfUtf8?_eq_some_iff.mp hread⟩
  · rintro ⟨rfl, hcontent⟩
    exact ⟨text, textOfUtf8?_eq_some_iff.mpr hcontent, rfl⟩

theorem component?_eq_none_iff : component? a = none ↔ ∀ text, a.value.content ≠ utf8Text text := by
  rw [component?, Option.map_eq_none_iff]
  exact textOfUtf8?_eq_none_iff

/-! ## §2 Names -/

/-- What attributes amount to if only some of them count: each of these whose content is text gives a
component with its key and the text, in order. -/
inductive Lists (counts : Attribute → Prop) : List Attribute → List (String × String) → Prop where
  | nil : Lists counts [] []
  | listed {a : Attribute} {attributes : List Attribute} {components : List (String × String)}
      {key text : String} (hcounts : counts a) (hkey : HasKey a.kind key)
      (htext : a.value.content = utf8Text text) (hrest : Lists counts attributes components) :
      Lists counts (a :: attributes) ((key, text) :: components)
  | unreadable {a : Attribute} {attributes : List Attribute} {components : List (String × String)}
      (hnone : ∀ text, a.value.content ≠ utf8Text text) (hrest : Lists counts attributes components) :
      Lists counts (a :: attributes) components
  | passed {a : Attribute} {attributes : List Attribute} {components : List (String × String)}
      (hother : ¬counts a) (hrest : Lists counts attributes components) :
      Lists counts (a :: attributes) components

/-- What is read is what the attributes amount to that count, if all others are unreadable. -/
theorem lists_of_forall {counts : Attribute → Prop}
    (h : ∀ a ∈ attributes, ¬counts a → component? a = none) :
    Lists counts attributes (attributes.filterMap component?) := by
  induction attributes with
  | nil => exact .nil
  | cons a attributes ih =>
    obtain ⟨ha, hrest⟩ := List.forall_mem_cons.mp h
    cases hread : component? a with
    | none =>
      rw [List.filterMap_cons_none hread]
      exact .unreadable (component?_eq_none_iff.mp hread) (ih hrest)
    | some component =>
      obtain ⟨hkey, htext⟩ := component?_eq_some_iff.mp hread
      have hcounts : counts a := by
        by_contra hother
        rw [ha hother] at hread
        cases hread
      rw [List.filterMap_cons_some hread]
      exact .listed hcounts (hkey ▸ hasKey_keyOf a.kind) htext (ih hrest)

/-- At least the components of what counts are read, and no others only if nothing else is
readable. -/
theorem Lists.length_le {counts : Attribute → Prop} (h : Lists counts attributes components) :
    components.length ≤ (attributes.filterMap component?).length ∧
      (components.length = (attributes.filterMap component?).length →
        ∀ a ∈ attributes, ¬counts a → component? a = none) := by
  induction h with
  | nil => simp
  | @listed a attributes components key text hcounts _ htext _ ih =>
    have hread : component? a = some (keyOf a.kind, text) := component?_eq_some_iff.mpr ⟨rfl, htext⟩
    rw [List.filterMap_cons_some hread, List.length_cons, List.length_cons]
    refine ⟨Nat.succ_le_succ ih.1, fun hlength => ?_⟩
    exact List.forall_mem_cons.mpr ⟨fun hother => absurd hcounts hother, ih.2 (Nat.succ.inj hlength)⟩
  | @unreadable a attributes components hnone _ ih =>
    have hread : component? a = none := component?_eq_none_iff.mpr hnone
    rw [List.filterMap_cons_none hread]
    refine ⟨ih.1, fun hlength => ?_⟩
    exact List.forall_mem_cons.mpr ⟨fun _ => hread, ih.2 hlength⟩
  | @passed a attributes components _ _ ih =>
    cases hread : component? a with
    | none =>
      rw [List.filterMap_cons_none hread]
      refine ⟨ih.1, fun hlength => ?_⟩
      exact List.forall_mem_cons.mpr ⟨fun _ => hread, ih.2 hlength⟩
    | some component =>
      -- a component too many is never made up for
      have hle := ih.1
      rw [List.filterMap_cons_some hread, List.length_cons]
      exact ⟨Nat.le_succ_of_le hle, fun hlength => by omega⟩

/-- The attribute has the key, in any case of letters, and the text. -/
structure Carries (a : Attribute) (key text : String) : Prop where
  key : ∃ k, HasKey a.kind k ∧ lowerText k = lowerText key
  text : a.value.content = utf8Text text

/-- Each field that a filter asks for is carried by an attribute of a name that passes. -/
theorem exists_carries_of_accepts {f : NameFilter} {name : Name}
    (h : f.accepts (nameOf name) = true) (hfield : f.Specifies key text) :
    ∃ a ∈ name.flatten, Carries a key text := by
  obtain ⟨k, hmem, hkey⟩ := (f.accepts_iff_isMetBy _).mp h key text hfield
  obtain ⟨a, ha, hread⟩ := List.mem_filterMap.mp hmem
  obtain ⟨rfl, htext⟩ := component?_eq_some_iff.mp hread
  exact ⟨a, ha, ⟨keyOf a.kind, hasKey_keyOf a.kind, hkey⟩, htext⟩

/-- **The name of a certificate** lists all attributes whose content is text. It lists strings alone,
and filters are satisfied by strings alone, exactly if no value of another type has such content. -/
theorem lists_iff_forall_not_isString (name : Name) :
    Lists (fun _ => True) name.flatten (nameOf name).components ∧
      ((Lists IsString name.flatten (nameOf name).components ∧
          ∀ f : NameFilter, f.accepts (nameOf name) = true →
            ∀ key text, f.Specifies key text →
              ∃ a ∈ name.flatten, IsString a ∧ Carries a key text) ↔
        ∀ a ∈ name.flatten, ¬IsString a → ∀ text, a.value.content ≠ utf8Text text) := by
  refine ⟨lists_of_forall fun _ _ hfalse => absurd trivial hfalse, ?_, ?_⟩
  · rintro ⟨hlists, -⟩ a ha hother
    exact component?_eq_none_iff.mp (hlists.length_le.2 rfl a ha hother)
  · intro honly
    refine ⟨lists_of_forall fun a ha hother => component?_eq_none_iff.mpr (honly a ha hother), ?_⟩
    intro f haccepts key text hfield
    obtain ⟨a, ha, hcarries⟩ := exists_carries_of_accepts haccepts hfield
    refine ⟨a, ha, ?_, hcarries⟩
    by_contra hother
    exact honly a ha hother text hcarries.text

/-- An integer under the key of the common name counts as the common name. -/
theorem nameOf_integer :
    ¬IsString ⟨⟨[0x55, 0x04, 0x03]⟩, ⟨Asn1.integer, [0x41]⟩⟩ ∧
      (nameOf [[⟨⟨[0x55, 0x04, 0x03]⟩, ⟨Asn1.integer, [0x41]⟩⟩]]).components = [("CN", "A")] ∧
      { NameFilter.empty with commonName := some "A" }.accepts
        (nameOf [[⟨⟨[0x55, 0x04, 0x03]⟩, ⟨Asn1.integer, [0x41]⟩⟩]]) = true := by
  decide +kernel

end DeviceAccess.Certificate
