import Mathlib
import DeviceAccess.Policy
import DeviceAccess.Proofs.Text.Digits

/-!
# The entries of a policy

Which values of the sources a policy keeps, in which order, and what it accepts.

- `IsNumber` and `EntryOf` tell by the text of a value alone whether it counts, and as what.
- `Kept` goes through the values of a source and keeps those that count, as they come. `SortedFrom`
  says that a list has the entries of another in the order of their numbers, and those under one
  number as they came.
- `Policy.entries_ofSources` puts them together: a policy is the sorted lists of its sources, one
  behind the other. What it accepts depends on which values count and on nothing else, so that no
  rearrangement of the sources and no value that does not count can change it.
-/

namespace DeviceAccess

open Text

namespace Policy

/-! ## §1 Values that count -/

/-- The name is digits that denote a number of sixty-four bits. -/
structure IsNumber (name : String) (n : Nat) : Prop where
  ne_empty : name ≠ ""
  digits : ∀ c ∈ name.toList, c.isDigit = true
  value : n = placeValue name.toList
  fits : n < 2 ^ 64

/-- The entry that a value of a scope stands for. -/
structure EntryOf (scope : Scope) (value : String × String) (entry : PolicyEntry) : Prop where
  scope : entry.scope = scope
  number : IsNumber value.1 entry.number
  selector : Selector.parse? value.2 = some entry.selector

/-- The value has no number for a name, or its text is no selector. -/
def DoesNotCount (value : String × String) : Prop :=
  (∀ n, ¬IsNumber value.1 n) ∨ Selector.parse? value.2 = none

theorem entryNumber?_eq_some_iff {name : String} {n : Nat} :
    entryNumber? name = some n ↔ IsNumber name n := by
  unfold entryNumber?
  constructor
  · intro hread
    split at hread
    · rename_i m hm
      obtain ⟨hne, hdigits, hvalue⟩ := natOfDigits?_eq_some_iff.mp hm
      split at hread
      · rename_i hfits
        obtain rfl := Option.some.inj hread
        exact ⟨fun hempty => hne (by rw [hempty]; rfl), hdigits, hvalue, hfits⟩
      · cases hread
    · cases hread
  · intro hnumber
    have hread : natOfDigits? name.toList = some n :=
      natOfDigits?_eq_some_iff.mpr
        ⟨fun hempty => hnumber.ne_empty (String.toList_eq_nil_iff.mp hempty), hnumber.digits,
          hnumber.value⟩
    rw [hread]
    exact if_pos hnumber.fits

/-- The entry of a numbered text, if the text is a selector. -/
def entryAt? (scope : Scope) (numbered : Nat × String) : Option PolicyEntry :=
  (Selector.parse? numbered.2).map fun selector => { scope, number := numbered.1, selector }

/-- The entry of a value, if it counts. -/
def entryOf? (scope : Scope) (value : String × String) : Option PolicyEntry :=
  (numbered? value).bind (entryAt? scope)

theorem entryOf?_eq_some_iff {scope : Scope} {value : String × String} {entry : PolicyEntry} :
    entryOf? scope value = some entry ↔ EntryOf scope value entry := by
  unfold entryOf? numbered? entryAt?
  constructor
  · intro hread
    obtain ⟨numbered, hnumbered, hentry⟩ := Option.bind_eq_some_iff.mp hread
    obtain ⟨n, hn, rfl⟩ := Option.map_eq_some_iff.mp hnumbered
    obtain ⟨selector, hselector, rfl⟩ := Option.map_eq_some_iff.mp hentry
    exact ⟨rfl, entryNumber?_eq_some_iff.mp hn, hselector⟩
  · rintro ⟨rfl, hnumber, hselector⟩
    rw [entryNumber?_eq_some_iff.mpr hnumber, Option.map_some, Option.bind_some, hselector,
      Option.map_some]

/-- A value stands for no entry exactly if it does not count. -/
theorem entryOf?_eq_none_iff {scope : Scope} {value : String × String} :
    entryOf? scope value = none ↔ DoesNotCount value := by
  rw [Option.eq_none_iff_forall_ne_some]
  simp only [ne_eq, entryOf?_eq_some_iff]
  constructor
  · intro hnone
    cases hselector : Selector.parse? value.2 with
    | none => exact .inr hselector
    | some selector =>
      exact .inl fun n hnumber => hnone ⟨scope, n, selector⟩ ⟨rfl, hnumber, hselector⟩
  · rintro (hname | htext) entry hentry
    · exact hname entry.number hentry.number
    · have hselector := hentry.selector
      rw [htext] at hselector
      cases hselector

/-! ## §2 One source -/

/-- The entries of those values that count, as they come. -/
inductive Kept (scope : Scope) : List (String × String) → List PolicyEntry → Prop where
  | nil : Kept scope [] []
  | counts {value : String × String} {entry : PolicyEntry} {values : List (String × String)}
      {entries : List PolicyEntry} (hentry : EntryOf scope value entry)
      (hrest : Kept scope values entries) : Kept scope (value :: values) (entry :: entries)
  | skips {value : String × String} {values : List (String × String)}
      {entries : List PolicyEntry} (hvalue : DoesNotCount value)
      (hrest : Kept scope values entries) : Kept scope (value :: values) entries

theorem kept_iff {scope : Scope} {values : List (String × String)} {entries : List PolicyEntry} :
    Kept scope values entries ↔ entries = values.filterMap (entryOf? scope) := by
  constructor
  · -- one rule of the relation for each step of the filter
    intro hkept
    induction hkept with
    | nil => rfl
    | counts hentry _ ih => rw [List.filterMap_cons_some (entryOf?_eq_some_iff.mpr hentry), ih]
    | skips hvalue _ ih => rw [List.filterMap_cons_none (entryOf?_eq_none_iff.mpr hvalue), ih]
  · rintro rfl
    induction values with
    | nil => exact .nil
    | cons value values ih =>
      cases hentry : entryOf? scope value with
      | none =>
        rw [List.filterMap_cons_none hentry]
        exact .skips (entryOf?_eq_none_iff.mp hentry) ih
      | some entry =>
        rw [List.filterMap_cons_some hentry]
        exact .counts (entryOf?_eq_some_iff.mp hentry) ih

/-- The entries of a list in the order of their numbers, those under one number as they came. -/
structure SortedFrom (given sorted : List PolicyEntry) : Prop where
  perm : sorted.Perm given
  ascending : sorted.Pairwise fun a b => a.number ≤ b.number
  stable : ∀ n, (sorted.filter fun e => e.number = n) = given.filter fun e => e.number = n

/-- The first of two sorted lists with the same members has the least number. -/
theorem SortedFrom.number_le {given : List PolicyEntry} {a b : PolicyEntry}
    {as bs : List PolicyEntry} (ha : SortedFrom given (a :: as)) (hb : SortedFrom given (b :: bs)) :
    a.number ≤ b.number := by
  have hmem : b ∈ a :: as := (hb.perm.trans ha.perm.symm).mem_iff.mp List.mem_cons_self
  rcases List.mem_cons.mp hmem with rfl | hmem
  · exact Nat.le_refl _
  · exact (List.pairwise_cons.mp ha.ascending).1 b hmem

/-- There is only one sorted list. -/
theorem SortedFrom.unique {given xs ys : List PolicyEntry} (hxs : SortedFrom given xs)
    (hys : SortedFrom given ys) : xs = ys := by
  induction xs generalizing given ys with
  | nil => exact (List.nil_perm.mp (hxs.perm.trans hys.perm.symm)).symm
  | cons x xs ih =>
    cases ys with
    | nil => exact List.perm_nil.mp (hxs.perm.trans hys.perm.symm)
    | cons y ys =>
      -- both begin with the first entry under the least number
      have hnumber : y.number = x.number := Nat.le_antisymm (hys.number_le hxs) (hxs.number_le hys)
      have hfirst := (hxs.stable x.number).trans (hys.stable x.number).symm
      simp only [List.filter_cons, hnumber, decide_true, if_true] at hfirst
      obtain rfl : x = y := (List.cons.inj hfirst).1
      have hrest : SortedFrom ys xs := by
        refine ⟨(hxs.perm.trans hys.perm.symm).cons_inv, hxs.ascending.of_cons, fun n => ?_⟩
        have hsame := (hxs.stable n).trans (hys.stable n).symm
        rw [List.filter_cons, List.filter_cons] at hsame
        split at hsame
        · exact (List.cons.inj hsame).2
        · exact hsame
      rw [ih hrest ⟨.refl ys, hys.ascending.of_cons, fun n => rfl⟩]

section Sorting

variable {α : Type} (key : α → Nat)

theorem keyOrder_trans (a b c : α) (hab : decide (key a ≤ key b) = true)
    (hbc : decide (key b ≤ key c) = true) : decide (key a ≤ key c) = true :=
  decide_eq_true (Nat.le_trans (of_decide_eq_true hab) (of_decide_eq_true hbc))

theorem keyOrder_total (a b : α) :
    (decide (key a ≤ key b) || decide (key b ≤ key a)) = true := by
  simpa using Nat.le_total (key a) (key b)

theorem pairwise_mergeSort_key (xs : List α) :
    (xs.mergeSort fun a b => key a ≤ key b).Pairwise fun a b => key a ≤ key b :=
  (List.pairwise_mergeSort (keyOrder_trans key) (keyOrder_total key) xs).imp of_decide_eq_true

/-- Sorting by a key leaves those with one key as they came. -/
theorem filter_mergeSort_key (xs : List α) (n : Nat) :
    ((xs.mergeSort fun a b => key a ≤ key b).filter fun x => key x = n) =
      xs.filter fun x => key x = n := by
  -- those with one key are in order already, so the sort keeps them as a sublist
  have hordered : (xs.filter fun x => key x = n).Pairwise
      fun a b => decide (key a ≤ key b) = true := by
    refine List.pairwise_of_forall_mem_list fun a ha b hb => ?_
    have hfirst : key a = n := of_decide_eq_true (List.mem_filter.mp ha).2
    have hsecond : key b = n := of_decide_eq_true (List.mem_filter.mp hb).2
    exact decide_eq_true (by rw [hfirst, hsecond])
  have hsublist := List.sublist_mergeSort (keyOrder_trans key) (keyOrder_total key) hordered
    List.filter_sublist
  have hfiltered := hsublist.filter fun x => decide (key x = n)
  rw [List.filter_filter] at hfiltered
  simp only [Bool.and_self] at hfiltered
  have hlength := ((List.mergeSort_perm xs fun a b => decide (key a ≤ key b)).filter
    fun x => decide (key x = n)).length_eq
  exact (hfiltered.eq_of_length hlength.symm).symm

end Sorting

theorem number_of_entryAt? {scope : Scope} {numbered : Nat × String} {entry : PolicyEntry}
    (h : entryAt? scope numbered = some entry) : entry.number = numbered.1 := by
  obtain ⟨selector, _, rfl⟩ := Option.map_eq_some_iff.mp h
  rfl

/-- Reading the texts does not change which numbers they are under. -/
theorem filter_filterMap_entryAt? (scope : Scope) (xs : List (Nat × String)) (n : Nat) :
    ((xs.filterMap (entryAt? scope)).filter fun e => e.number = n) =
      (xs.filter fun x => x.1 = n).filterMap (entryAt? scope) := by
  rw [List.filter_filterMap, List.filterMap_filter]
  refine List.filterMap_congr fun x _ => ?_
  cases hentry : entryAt? scope x with
  | none => simp
  | some entry =>
    have hnumber : entry.number = x.1 := number_of_entryAt? hentry
    simp [Option.filter, hnumber]

theorem entriesOf_eq (source : PolicySource) :
    entriesOf source =
      ((source.values.filterMap numbered?).mergeSort fun a b => a.1 ≤ b.1).filterMap
        (entryAt? source.scope) :=
  rfl

/-- The entries of a source are those of its values that count, sorted. -/
theorem sortedFrom_entriesOf (source : PolicySource) :
    SortedFrom (source.values.filterMap (entryOf? source.scope)) (entriesOf source) := by
  have hgiven : source.values.filterMap (entryOf? source.scope) =
      (source.values.filterMap numbered?).filterMap (entryAt? source.scope) := by
    rw [List.filterMap_filterMap]
    rfl
  rw [hgiven, entriesOf_eq]
  refine ⟨?_, ?_, fun n => ?_⟩
  · exact (List.mergeSort_perm _ _).filterMap _
  · refine (pairwise_mergeSort_key Prod.fst _).filterMap _ fun a b hab e he f hf => ?_
    rwa [number_of_entryAt? he, number_of_entryAt? hf]
  · rw [filter_filterMap_entryAt?, filter_filterMap_entryAt?, filter_mergeSort_key Prod.fst]

/-- The list has the entries of a source in their order. -/
def IsBlockOf (source : PolicySource) (block : List PolicyEntry) : Prop :=
  ∃ given, Kept source.scope source.values given ∧ SortedFrom given block

theorem isBlockOf_iff {source : PolicySource} {block : List PolicyEntry} :
    IsBlockOf source block ↔ block = entriesOf source := by
  constructor
  · rintro ⟨given, hkept, hsorted⟩
    rw [kept_iff.mp hkept] at hsorted
    exact hsorted.unique (sortedFrom_entriesOf source)
  · rintro rfl
    exact ⟨_, kept_iff.mpr rfl, sortedFrom_entriesOf source⟩

/-- Sources have one list of entries each. -/
theorem forall₂_isBlockOf_iff {sources : List PolicySource} {blocks : List (List PolicyEntry)} :
    List.Forall₂ IsBlockOf sources blocks ↔ blocks = sources.map entriesOf := by
  induction sources generalizing blocks with
  | nil => exact List.forall₂_nil_left_iff
  | cons source rest ih =>
    rw [List.forall₂_cons_left_iff, List.map_cons]
    constructor
    · rintro ⟨block, others, hblock, hothers, rfl⟩
      rw [isBlockOf_iff.mp hblock, ih.mp hothers]
    · rintro rfl
      exact ⟨_, _, isBlockOf_iff.mpr rfl, ih.mpr rfl, rfl⟩

/-! ## §3 All sources -/

/-- Some value of some source stands for the entry. -/
def Offers (sources : List PolicySource) (entry : PolicyEntry) : Prop :=
  ∃ source ∈ sources, ∃ value ∈ source.values, EntryOf source.scope value entry

theorem mem_entriesOf_iff {source : PolicySource} {entry : PolicyEntry} :
    entry ∈ entriesOf source ↔ ∃ value ∈ source.values, EntryOf source.scope value entry := by
  rw [(sortedFrom_entriesOf source).perm.mem_iff, List.mem_filterMap]
  simp only [entryOf?_eq_some_iff]

theorem mem_entries_ofSources_iff {sources : List PolicySource} {entry : PolicyEntry} :
    entry ∈ (ofSources sources).entries ↔ Offers sources entry := by
  rw [ofSources, List.mem_flatMap]
  simp only [mem_entriesOf_iff, Offers]

theorem accepts_ofSources_iff {sources : List PolicySource} {u : Url} {c : Certificate} :
    (ofSources sources).accepts u c = true ↔
      ∃ entry, Offers sources entry ∧ entry.selector.accepts u c = true := by
  rw [accepts, List.any_eq_true]
  simp only [mem_entries_ofSources_iff]

/-! ## §4 Rearranged sources -/

/-- The sources in another order, the values of a source in another order, or values more that do
not count, as often as one likes. -/
inductive Rearranged : List PolicySource → List PolicySource → Prop where
  | sources {xs ys : List PolicySource} (hperm : xs.Perm ys) : Rearranged xs ys
  | values {before after : List PolicySource} {scope : Scope} {vs ws : List (String × String)}
      (hperm : vs.Perm ws) :
      Rearranged (before ++ ⟨scope, vs⟩ :: after) (before ++ ⟨scope, ws⟩ :: after)
  | insert {before after : List PolicySource} {scope : Scope} {front back : List (String × String)}
      {value : String × String} (hvalue : DoesNotCount value) :
      Rearranged (before ++ ⟨scope, front ++ back⟩ :: after)
        (before ++ ⟨scope, front ++ value :: back⟩ :: after)
  | trans {xs ys zs : List PolicySource} (hfirst : Rearranged xs ys) (hsecond : Rearranged ys zs) :
      Rearranged xs zs

/-- Another source in the place of one changes nothing if it stands for the same entries. -/
theorem offers_replace {before after : List PolicySource} {s t : PolicySource} {entry : PolicyEntry}
    (hsame : (∃ value ∈ s.values, EntryOf s.scope value entry) ↔
      ∃ value ∈ t.values, EntryOf t.scope value entry) :
    Offers (before ++ s :: after) entry ↔ Offers (before ++ t :: after) entry := by
  simp only [Offers, List.mem_append, List.mem_cons, or_and_right, exists_or, exists_eq_left, hsame]

theorem Rearranged.offers_iff {xs ys : List PolicySource} (h : Rearranged xs ys)
    (entry : PolicyEntry) : Offers xs entry ↔ Offers ys entry := by
  -- whether an entry is offered does not depend on places, only on what is there
  induction h with
  | sources hperm => simp only [Offers, hperm.mem_iff]
  | values hperm =>
    apply offers_replace
    simp only [hperm.mem_iff]
  | @insert before after scope front back value hvalue =>
    apply offers_replace
    -- the value that is new stands for no entry
    have hnone : ¬EntryOf scope value entry := by
      rw [← entryOf?_eq_some_iff, entryOf?_eq_none_iff.mpr hvalue]
      exact Option.some_ne_none entry ∘ Eq.symm
    simp only [List.mem_append, List.mem_cons, or_and_right, exists_or, exists_eq_left, hnone,
      false_or]
  | trans _ _ ihfirst ihsecond => exact ihfirst.trans ihsecond

/-- **The entries of a policy** are those of its sources, one source behind the other: the values
that count, each once, in the order of their numbers and under one number as they came. The policy
accepts what one of these entries accepts, and it does so however the sources are arranged. -/
theorem entries_ofSources (sources : List PolicySource) :
    (∀ entries, (ofSources sources).entries = entries ↔
      ∃ blocks, List.Forall₂ IsBlockOf sources blocks ∧ entries = blocks.flatten) ∧
    (∀ u c, (ofSources sources).accepts u c = true ↔
      ∃ source ∈ sources, ∃ value ∈ source.values, ∃ entry, EntryOf source.scope value entry ∧
        entry.selector.accepts u c = true) ∧
    ∀ others, Rearranged sources others → ∀ u c,
      (ofSources others).accepts u c = (ofSources sources).accepts u c := by
  refine ⟨fun entries => ?_, fun u c => ?_, fun others hothers u c => ?_⟩
  · simp only [forall₂_isBlockOf_iff, exists_eq_left]
    rw [ofSources, List.flatMap_def, eq_comm]
  · rw [accepts_ofSources_iff]
    constructor
    · rintro ⟨entry, ⟨source, hsource, value, hvalue, hentry⟩, haccepts⟩
      exact ⟨source, hsource, value, hvalue, entry, hentry, haccepts⟩
    · rintro ⟨source, hsource, value, hvalue, entry, hentry, haccepts⟩
      exact ⟨entry, ⟨source, hsource, value, hvalue, hentry⟩, haccepts⟩
  · rw [Bool.eq_iff_iff, accepts_ofSources_iff, accepts_ofSources_iff]
    simp only [hothers.offers_iff]

/-- Two values in the wrong order, and two more that do not count. -/
theorem entries_ofSources_unordered :
    let source : PolicySource := ⟨.user, [("10", "\x7b\x7d"), ("002", "\x7b\x7d")]⟩
    let other : PolicySource :=
      ⟨.user, [("002", "\x7b\x7d"), ("x", "\x7b\x7d"), ("10", "\x7b\x7d"), ("3", "[")]⟩
    Rearranged [source] [other] ∧
      (∃ selector, (ofSources [source]).entries = [⟨.user, 2, selector⟩, ⟨.user, 10, selector⟩]) ∧
      ∀ u c, (ofSources [other]).accepts u c = (ofSources [source]).accepts u c := by
  intro source other
  have hname : DoesNotCount ("x", "\x7b\x7d") :=
    .inl fun n hn => absurd (hn.digits 'x' (by decide)) (by decide)
  have htext : DoesNotCount ("3", "[") := .inr (by decide +kernel)
  have hswapped : Rearranged [source]
      [⟨.user, [("002", "\x7b\x7d"), ("10", "\x7b\x7d")]⟩] :=
    @Rearranged.values [] [] .user _ _ (.swap ..)
  have hnamed : Rearranged [⟨.user, [("002", "\x7b\x7d"), ("10", "\x7b\x7d")]⟩]
      [⟨.user, [("002", "\x7b\x7d"), ("x", "\x7b\x7d"), ("10", "\x7b\x7d")]⟩] :=
    @Rearranged.insert [] [] .user [_] [_] _ hname
  have hfull : Rearranged
      [⟨.user, [("002", "\x7b\x7d"), ("x", "\x7b\x7d"), ("10", "\x7b\x7d")]⟩] [other] :=
    @Rearranged.insert [] [] .user [_, _, _] [] _ htext
  have hrearranged : Rearranged [source] [other] := (hswapped.trans hnamed).trans hfull
  obtain ⟨hentries, _, hsame⟩ := entries_ofSources [source]
  obtain ⟨selector, hselector⟩ : ∃ selector, Selector.parse? "\x7b\x7d" = some selector :=
    Option.isSome_iff_exists.mp (by decide +kernel)
  refine ⟨hrearranged, ⟨selector, ?_⟩, hsame [other] hrearranged⟩
  have hten : IsNumber "10" 10 := entryNumber?_eq_some_iff.mp (by decide)
  have htwo : IsNumber "002" 2 := entryNumber?_eq_some_iff.mp (by decide)
  have hkept : Kept .user source.values [⟨.user, 10, selector⟩, ⟨.user, 2, selector⟩] :=
    .counts ⟨rfl, hten, hselector⟩ (.counts ⟨rfl, htwo, hselector⟩ .nil)
  rw [hentries]
  refine ⟨[_], .cons ⟨_, hkept, .swap .., by simp, fun n => ?_⟩ .nil, rfl⟩
  by_cases hlast : 10 = n
  · subst hlast
    rfl
  · simp [List.filter_cons, hlast]

end Policy

end DeviceAccess
