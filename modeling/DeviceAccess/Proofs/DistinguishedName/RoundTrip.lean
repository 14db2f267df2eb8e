import Mathlib
import DeviceAccess.Proofs.DistinguishedName.Reading
import DeviceAccess.Proofs.DistinguishedName.Shown
import DeviceAccess.Proofs.Text.CaseMap

/-!
# Shown names read back

A name is shown with quotes around the values that hold a comma and without any other protection,
while the reader gives a meaning to semicolons, backslashes, quotes and blanks as well. So a name
that was read reads back from how it is shown exactly if each of its components stands for itself
where it is shown (`parse_text_parse_iff`).

- `ReadsBack` says which lists of components do. Components without quotes and backslashes do if the
  values with a semicolon or outer blanks also hold a comma (`readsBack_of_forall` with
  `IsWellFormed.isKept`).
- A text that stands behind a separator of the shown name is too short to be read as all of its
  components (`not_componentsOf_of_standsBehind`), so the first component must come from the first
  part.
- The first part then is the first component as it is shown, without a character more or less
  (`readsBack_of_componentsOf`).
-/

namespace DeviceAccess.DistinguishedName

open Text

variable {quoted quoted' : Bool} {raw content more text key value : List Char}

/-! ## §1 Which names read back -/

/-- The component is read as it is shown, and its value is what is left when the blanks and the
quotes around the shown value are removed. `quoted` says whether a quote is open behind it. -/
structure IsKept (component : String × String) (quoted : Bool) : Prop where
  reads : IsRead false (componentChars component) (componentChars component) quoted
  value : ',' ∈ component.2.toList ∨
    HasNoOuterBlank component.2.toList ∧ unquote component.2.toList = component.2.toList

/-- The components read back: each is kept, and none but the last leaves a quote open. -/
inductive ReadsBack : List (String × String) → Prop where
  | nil : ReadsBack []
  | last {component : String × String} {quoted : Bool} (h : IsKept component quoted) :
      ReadsBack [component]
  | cons {component next : String × String} {rest : List (String × String)}
      (h : IsKept component false) (hrest : ReadsBack (next :: rest)) :
      ReadsBack (component :: next :: rest)

/-- What is true of every component of a name that was read. -/
structure IsKeyed (component : String × String) : Prop where
  capitals : upperText component.1 = component.1
  nonempty : component.1.toList ≠ []
  trimmed : trim component.1.toList = component.1.toList
  noEquals : '=' ∉ component.1.toList

theorem isKeyed_inCapitals {component : String × String} (h : component? content = some component) :
    IsKeyed (inCapitals component) := by
  obtain ⟨key, value, -, hkey, hblank, hread, -⟩ := exists_of_component?_eq_some h
  have hupper : (inCapitals component).1.toList = upper (trim key) := by
    rw [inCapitals, upperText, String.toList_ofList, hread]
  refine ⟨upperText_upperText _, ?_, ?_, ?_⟩
  · rw [hupper]
    simpa [upper] using hblank
  · rw [hupper, trim_upper, trim, trim, stripBoth_stripBoth]
  · rw [hupper]
    intro hmem
    obtain ⟨c, hc, hequals⟩ := List.mem_map.mp hmem
    have hsame : (c.toUpper == '=') = (c == '=') := apply_toUpper (· == '=') (by decide) c
    rw [hequals] at hsame
    obtain rfl : c = '=' := beq_iff_eq.mp hsame.symm
    exact hkey ((stripBoth_sublist isBlank key).subset hc)

theorem isKeyed_of_mem_parse {text : String} {component : String × String}
    (h : component ∈ (parse text).components) : IsKeyed component := by
  rw [components_parse] at h
  obtain ⟨read, hread, rfl⟩ := List.mem_map.mp h
  obtain ⟨part, -, hpart⟩ := List.mem_filterMap.mp hread
  exact isKeyed_inCapitals hpart

/-! ## §2 The part that spells the first component -/

/-- The text stands behind a separator of the other one. -/
def StandsBehind (u text : List Char) : Prop := ∃ sep, IsSeparator sep ∧ sep :: u <:+ text

theorem StandsBehind.trans {u w : List Char} (h : StandsBehind u w) (h' : w <:+ text) :
    StandsBehind u text := by
  obtain ⟨sep, hsep, hsuffix⟩ := h
  exact ⟨sep, hsep, hsuffix.trans h'⟩

theorem StandsBehind.isSuffix {u : List Char} (h : StandsBehind u text) : u <:+ text := by
  obtain ⟨sep, -, hsuffix⟩ := h
  exact (List.suffix_cons sep u).trans hsuffix

/-- A text whose first part spells a component, with what is behind that part. -/
structure Spells (component : String × String) (raw content : List Char) (quoted : Bool)
    (more : List Char) : Prop where
  reads : IsRead false raw content quoted
  behind : IsBehind quoted more
  spells : component? content = some component

theorem Spells.componentsOf_append {component : String × String}
    (h : Spells component raw content quoted more) :
    componentsOf (raw ++ more) = component :: componentsOf more.tail := by
  rw [DistinguishedName.componentsOf_append h.reads h.behind, h.spells]
  rfl

/-- Parts that spell nothing can be left away. -/
theorem exists_spells (text : List Char) {component : String × String}
    {others : List (String × String)} (h : componentsOf text = component :: others) :
    ∃ (raw content more : List Char) (quoted : Bool),
      (raw ++ more = text ∨ StandsBehind (raw ++ more) text) ∧
        Spells component raw content quoted more ∧ componentsOf more.tail = others := by
  obtain ⟨raw, content, more, quoted, htext, hreads, hbehind⟩ := exists_isRead false text
  have hparts := componentsOf_append hreads hbehind
  rw [← htext, h] at hparts
  cases hcontent : component? content with
  | some first =>
    rw [hcontent] at hparts
    obtain ⟨rfl, hothers⟩ := List.cons.inj hparts
    exact ⟨raw, content, more, quoted, .inl htext.symm, ⟨hreads, hbehind, hcontent⟩, hothers.symm⟩
  | none =>
    rw [hcontent] at hparts
    cases hbehind with
    | nothing => cases hparts
    | backslash => cases hparts
    | separator hsep rest =>
      have hlt : rest.length < text.length := by
        rw [htext, List.length_append, List.length_cons]
        omega
      obtain ⟨raw', content', more', quoted', hwhere, hspells, hothers⟩ :=
        exists_spells rest hparts.symm
      have hrest : StandsBehind rest text := ⟨_, hsep, htext ▸ List.suffix_append raw _⟩
      refine ⟨raw', content', more', quoted', .inr ?_, hspells, hothers⟩
      rcases hwhere with hwhere | hwhere
      · rwa [hwhere]
      · exact hwhere.trans hrest.isSuffix
termination_by text.length

theorem Spells.length_le {component : String × String}
    (h : Spells component raw content quoted more) :
    component.1.toList.length + component.2.toList.length + 1 ≤ raw.length := by
  have hlength := h.reads.length_le
  obtain ⟨key, value, rfl, -, -, hkeyOf, hvalueOf⟩ := exists_of_component?_eq_some h.spells
  have hkey : (trim key).length ≤ key.length := (stripBoth_sublist isBlank key).length_le
  have hvalue := length_unquote_trim_le value
  rw [hkeyOf, hvalueOf]
  simp only [List.length_append, List.length_cons] at hlength
  omega

/-- Where more components follow, a separator stands behind the part. -/
theorem IsBehind.exists_separator (h : IsBehind quoted more) (hmore : componentsOf more.tail ≠ []) :
    ∃ sep rest, IsSeparator sep ∧ more = sep :: rest := by
  cases h with
  | nothing => exact absurd rfl hmore
  | backslash => exact absurd rfl hmore
  | separator hsep rest => exact ⟨_, rest, hsep, rfl⟩

/-! ## §3 Texts behind a separator are too short -/

/-- A character other than `=` stands in what is before an `=` or in what is behind it. -/
theorem before_or_behind_equals {c : Char} {front u key z : List Char} (hc : c ≠ '=')
    (h : front ++ c :: u = key ++ '=' :: z) :
    (∃ behind, key = front ++ c :: behind ∧ u = behind ++ '=' :: z) ∨ c :: u <:+ z := by
  rcases List.append_eq_append_iff.mp h with ⟨middle, hkey, hbehind⟩ | ⟨middle, -, hbehind⟩
  · cases middle with
    | nil => exact absurd (List.cons.inj hbehind).1 hc
    | cons d behind =>
      obtain ⟨rfl, hu⟩ := List.cons.inj hbehind
      exact .inl ⟨behind, hkey, hu⟩
  · cases middle with
    | nil => exact absurd (List.cons.inj hbehind).1.symm hc
    | cons d behind => exact .inr ⟨behind, (List.cons.inj hbehind).2.symm⟩

/-- A part that holds an `=` holds the first one of the text. -/
theorem exists_eq_append_equals {z : List Char} (hraw : '=' ∈ raw)
    (htext : raw ++ more = key ++ '=' :: z) (hkey : '=' ∉ key) :
    ∃ y, raw = key ++ '=' :: y ∧ y ++ more = z := by
  rcases List.append_eq_append_iff.mp htext with ⟨behind, rfl, -⟩ | ⟨behind, rfl, hbehind⟩
  · exact absurd (List.mem_append_left behind hraw) hkey
  · cases behind with
    | nil =>
      rw [List.append_nil] at hraw
      exact absurd hraw hkey
    | cons c y =>
      obtain ⟨rfl, hz⟩ := List.cons.inj hbehind
      exact ⟨y, rfl, hz.symm⟩

/-- The key of a component is no longer than what stands in front of the first `=`. -/
theorem Spells.length_key_le {component : String × String} {z : List Char}
    (h : Spells component raw content quoted more) (htext : raw ++ more = key ++ '=' :: z)
    (hkey : '=' ∉ key) : component.1.toList.length ≤ key.length := by
  obtain ⟨a, b, rfl, ha, -, hkeyOf, -⟩ := exists_of_component?_eq_some h.spells
  have hequals : '=' ∈ raw := h.reads.mem_of_mem (by simp)
  obtain ⟨y, hraw, -⟩ := exists_eq_append_equals hequals htext hkey
  obtain ⟨hle, -⟩ := h.reads.split_equals hraw hkey rfl ha
  have htrim : (trim a).length ≤ a.length := (stripBoth_sublist isBlank a).length_le
  rw [hkeyOf]
  omega

theorem length_key_inCapitals (component : String × String) :
    (inCapitals component).1.toList.length = component.1.toList.length := by
  simp [inCapitals, upperText, upper]

theorem IsSeparator.ne_equals {sep : Char} (h : IsSeparator sep) : sep ≠ '=' := by
  rcases h with rfl | rfl <;> decide

/-- **What stands behind a separator** of the shown components is not read as all of them. -/
theorem not_componentsOf_of_standsBehind {components : List (String × String)}
    (hkeyed : ∀ x ∈ components, IsKeyed x) {u : List Char}
    (hu : StandsBehind u (toChars ⟨components⟩)) :
    (componentsOf u).map inCapitals ≠ components := by
  induction components generalizing u with
  | nil =>
    obtain ⟨sep, -, hsuffix⟩ := hu
    exact absurd (List.suffix_nil.mp hsuffix) (List.cons_ne_nil sep u)
  | cons component rest ih =>
    intro hcomponents
    obtain ⟨hfirst, hrest⟩ := List.forall_mem_cons.mp hkeyed
    obtain ⟨read, others, hread, rfl, hothers⟩ := List.map_eq_cons_iff.mp hcomponents
    obtain ⟨raw, content, more, quoted, hwhere, hspells, hbehind⟩ := exists_spells u hread
    obtain ⟨sep, hsep, front, hfront⟩ :
        StandsBehind (raw ++ more) (toChars ⟨inCapitals read :: rest⟩) := by
      rcases hwhere with hwhere | hwhere
      · rwa [hwhere]
      · exact hwhere.trans hu.isSuffix
    have hpart := hspells.length_le
    have hshown := length_shownValue_le (inCapitals read).2.toList
    have hkey := length_key_inCapitals read
    have hpositive := List.length_pos_iff.mpr hfirst.nonempty
    have hvalue : (inCapitals read).2 = read.2 := rfl
    rw [toChars_cons, componentChars_eq, List.append_assoc, List.cons_append] at hfront
    rw [hvalue] at hfront hshown
    rcases before_or_behind_equals hsep.ne_equals hfront with ⟨behind, hbefore, htext⟩ | hsuffix
    · -- from inside the key on too little of it is left
      have hshort := hspells.length_key_le htext fun hmem =>
        hfirst.noEquals (hbefore ▸ List.mem_append_right front (List.mem_cons_of_mem sep hmem))
      rw [hbefore, List.length_append, List.length_cons] at hkey
      omega
    · have hle := hsuffix.length_le
      simp only [List.length_append, List.length_cons] at hle
      cases rest with
      | nil =>
        -- the shown value is at most two quotes longer than the value
        simp only [shownBehind, List.length_nil] at hle
        omega
      | cons next rest =>
        have hmore : componentsOf more.tail ≠ [] := by
          rintro hnil
          rw [hbehind] at hnil
          rw [hnil] at hothers
          cases hothers
        obtain ⟨sep', u', hsep', rfl⟩ := hspells.behind.exists_separator hmore
        -- so the others begin behind the value, and not at the blank that stands there
        have hnear : sep' :: u' <:+ ' ' :: toChars ⟨next :: rest⟩ := by
          have hlong : sep' :: u' <:+ shownValue read.2.toList ++ shownBehind (next :: rest) :=
            (List.suffix_append raw _).trans ((List.suffix_cons sep _).trans hsuffix)
          have hblank : ' ' :: toChars ⟨next :: rest⟩ <:+
              shownValue read.2.toList ++ shownBehind (next :: rest) :=
            (List.suffix_cons ',' _).trans (List.suffix_append _ _)
          apply List.suffix_of_suffix_length_le hlong hblank
          simp only [shownBehind, List.length_cons] at hle ⊢
          omega
        have hfar : sep' :: u' <:+ toChars ⟨next :: rest⟩ := by
          rcases List.suffix_cons_iff.mp hnear with hblank | hfar
          · obtain ⟨rfl, -⟩ := List.cons.inj hblank
            exact absurd hsep' (by simp [IsSeparator])
          · exact hfar
        refine ih hrest ⟨sep', hsep', hfar⟩ ?_
        rw [← hothers, ← hbehind]
        rfl

/-! ## §4 Exactly the names that read back -/

/-- A blank in front of a text has no meaning. -/
theorem componentsOf_blank (text : List Char) : componentsOf (' ' :: text) = componentsOf text := by
  obtain ⟨raw, content, more, quoted, rfl, hread, hmore⟩ := exists_isRead false text
  have hblank : IsRead false (' ' :: raw) (' ' :: content) quoted :=
    .plain (by decide) (by decide) (by simp [IsSeparator]) hread
  have htrim : ∀ key, trim (' ' :: key) = trim key := fun key => rfl
  have hsame : component? (' ' :: content) = component? content := by
    by_cases hequals : '=' ∈ content
    · obtain ⟨key, value, rfl, hkey⟩ := List.eq_append_cons_of_mem hequals
      have hlonger : '=' ∉ ' ' :: key := by simp [hkey]
      rw [component?_append hkey, ← List.cons_append, component?_append hlonger, htrim]
    · rw [component?_of_not_mem hequals, component?_of_not_mem (by simp [hequals])]
  rw [← List.cons_append, componentsOf_append hblank hmore, componentsOf_append hread hmore, hsame]

/-- A kept component is read from how it is shown. -/
theorem IsKept.component?_eq {component : String × String} (h : IsKept component quoted)
    (hkeyed : IsKeyed component) : component? (componentChars component) = some component := by
  have hvalue : unquote (trim (shownValue component.2.toList)) = component.2.toList := by
    unfold shownValue
    by_cases hcomma : ',' ∈ component.2.toList
    · rw [if_pos hcomma, trim_eq_self_iff.mpr (hasNoOuterBlank_quoted _), unquote_quoted]
    · obtain ⟨htrimmed, hunquoted⟩ := h.value.resolve_left hcomma
      rw [if_neg hcomma, trim_eq_self_iff.mpr htrimmed, hunquoted]
  rw [componentChars_eq, component?_append hkeyed.noEquals, hkeyed.trimmed, hvalue]
  simp [hkeyed.nonempty]

/-- Components that are kept are read from how they are shown. -/
theorem componentsOf_of_readsBack {components : List (String × String)}
    (hkeyed : ∀ x ∈ components, IsKeyed x) (h : ReadsBack components) :
    componentsOf (toChars ⟨components⟩) = components := by
  induction h with
  | nil => rfl
  | last h =>
    have hspells := h.component?_eq (hkeyed _ List.mem_cons_self)
    rw [toChars_cons, shownBehind, componentsOf_append h.reads (.nothing _), hspells]
    rfl
  | @cons component next rest h _ ih =>
    obtain ⟨hfirst, hrest⟩ := List.forall_mem_cons.mp hkeyed
    rw [toChars_cons, shownBehind, componentsOf_append h.reads (.separator (.inl rfl) _),
      h.component?_eq hfirst, List.tail_cons, componentsOf_blank, ih hrest]
    rfl

/-- A part that the first component is read from ends where its value does. -/
theorem eq_shownBehind {rest : List (String × String)} (hkeyed : ∀ x ∈ rest, IsKeyed x)
    {y b : List Char} (hread : IsRead quoted y b quoted') (hvalue : value = unquote (trim b))
    (hbehind : IsBehind quoted' more) (htext : y ++ more = shownValue value ++ shownBehind rest)
    (hrest : (componentsOf more.tail).map inCapitals = rest) :
    y = shownValue value ∧ more = shownBehind rest := by
  rcases List.append_eq_append_iff.mp htext with ⟨left, hshown, hmore⟩ | ⟨past, hy, hmore⟩
  · cases left with
    | nil =>
      rw [List.append_nil] at hshown
      exact ⟨hshown.symm, hmore⟩
    | cons d left =>
      -- no part ends at a quote
      have hd : d ≠ '"' := by
        rw [hmore, List.cons_append] at hbehind
        generalize left ++ shownBehind rest = tail at hbehind
        cases hbehind with
        | backslash => decide
        | separator hsep => rcases hsep with rfl | rfl <;> decide
      exact absurd hshown (shownValue_ne_append hread hd hvalue)
  · cases past with
    | nil =>
      rw [List.append_nil] at hy
      exact ⟨hy, hmore.symm⟩
    | cons c past =>
      cases rest with
      | nil => cases hmore
      | cons next rest =>
        have hothers : componentsOf more.tail ≠ [] := by
          intro hnil
          rw [hnil] at hrest
          cases hrest
        obtain ⟨sep, u, hsep, rfl⟩ := hbehind.exists_separator hothers
        -- the part goes on over the comma and the blank, so the others are read too late
        exfalso
        have hpast := (List.cons.inj hmore).2
        cases past with
        | nil =>
          obtain ⟨rfl, -⟩ := List.cons.inj hpast
          exact absurd hsep (by simp [IsSeparator])
        | cons c past =>
          have hstands : StandsBehind u (toChars ⟨next :: rest⟩) :=
            ⟨sep, hsep, past, (List.cons.inj hpast).2.symm⟩
          exact not_componentsOf_of_standsBehind hkeyed hstands hrest

/-- Components that are read from how they are shown are kept. -/
theorem readsBack_of_componentsOf {components : List (String × String)}
    (hkeyed : ∀ x ∈ components, IsKeyed x)
    (h : (componentsOf (toChars ⟨components⟩)).map inCapitals = components) :
    ReadsBack components := by
  induction components with
  | nil => exact .nil
  | cons component rest ih =>
    obtain ⟨hfirst, hrest⟩ := List.forall_mem_cons.mp hkeyed
    obtain ⟨read, others, hread, rfl, hothers⟩ := List.map_eq_cons_iff.mp h
    obtain ⟨raw, content, more, quoted, hwhere, hspells, hbehind⟩ := exists_spells _ hread
    have hmore : (componentsOf more.tail).map inCapitals = rest := by rw [hbehind, hothers]
    have htext : raw ++ more = toChars ⟨inCapitals read :: rest⟩ := by
      rcases hwhere with hwhere | hwhere
      · exact hwhere
      · refine absurd ?_ (not_componentsOf_of_standsBehind hkeyed hwhere)
        rw [hspells.componentsOf_append, List.map_cons, hmore]
    have hlength := length_key_inCapitals read
    rw [toChars_cons, componentChars_eq, List.append_assoc, List.cons_append] at htext
    -- the key is read as it is shown
    obtain ⟨a, b, rfl, ha, -, hkeyOf, hvalueOf⟩ := exists_of_component?_eq_some hspells.spells
    obtain ⟨y, rfl, hy⟩ :=
      exists_eq_append_equals (hspells.reads.mem_of_mem (by simp)) htext hfirst.noEquals
    obtain ⟨hle, middle, hvalueRead, hkey⟩ :=
      hspells.reads.split_equals rfl hfirst.noEquals rfl ha
    have htrim : (trim a).length ≤ a.length := (stripBoth_sublist isBlank a).length_le
    rw [hkeyOf] at hlength
    obtain ⟨-, hkeyRead⟩ := hkey (by omega)
    -- and so is the value
    obtain ⟨rfl, hmoreShown⟩ := eq_shownBehind hrest hvalueRead hvalueOf hspells.behind hy hmore
    obtain ⟨hb, hkept⟩ := eq_shownValue_of_isRead hvalueRead hvalueOf
    rw [hb] at hvalueRead
    have hcomponent : IsKept (inCapitals read) quoted := by
      refine ⟨?_, hkept⟩
      rw [componentChars_eq]
      exact hkeyRead.append (.plain (by decide) (by decide) (by simp [IsSeparator]) hvalueRead)
    cases rest with
    | nil => exact .last hcomponent
    | cons next rest =>
      rw [hmoreShown, shownBehind, List.tail_cons, componentsOf_blank] at hmore
      have hclosed : quoted = false := by
        have hbehind := hspells.behind
        rw [hmoreShown, shownBehind] at hbehind
        cases hbehind with
        | separator => rfl
      subst hclosed
      exact .cons hcomponent (ih hrest hmore)

/-- A component without quotes and backslashes is kept if quotes are put around its value, or if the
value has nothing that needs them. -/
theorem IsWellFormed.isKept {component : String × String} (h : IsWellFormed component)
    (hvalue : ',' ∈ component.2.toList ∨
      ';' ∉ component.2.toList ∧ HasNoOuterBlank component.2.toList) :
    IsKept component false := by
  have hshown : IsRead false (shownValue component.2.toList) (shownValue component.2.toList)
      false := by
    unfold shownValue
    split
    · exact h.value.isRead_quoted
    · rename_i hcomma
      apply IsPlainRun.isRead
      intro c hc
      refine ⟨?_, ?_, ?_⟩
      · rintro rfl
        exact h.value.noEscape hc
      · rintro rfl
        exact h.value.noQuote hc
      · rintro (rfl | rfl)
        · exact hcomma hc
        · exact (hvalue.resolve_left hcomma).1 hc
  refine ⟨?_, ?_⟩
  · rw [componentChars_eq]
    exact h.key.plain.isRead.append
      (.plain (by decide) (by decide) (by simp [IsSeparator]) hshown)
  · rcases hvalue with hcomma | ⟨-, htrimmed⟩
    · exact .inl hcomma
    · exact .inr ⟨htrimmed, unquote_of_not_mem h.value.noQuote⟩

/-- Components read back if each of them, taken alone, is kept. -/
theorem readsBack_of_forall {components : List (String × String)}
    (h : ∀ x ∈ components, IsKept x false) : ReadsBack components := by
  induction components with
  | nil => exact .nil
  | cons component rest ih =>
    obtain ⟨hfirst, hrest⟩ := List.forall_mem_cons.mp h
    cases rest with
    | nil => exact .last hfirst
    | cons next rest => exact .cons hfirst (ih hrest)

theorem eq_of_components_eq {n m : DistinguishedName} (h : n.components = m.components) : n = m := by
  cases n
  cases m
  exact congrArg DistinguishedName.mk h

/-- **A name that was read reads back** from how it is shown exactly if each of its components stands
for itself where it is shown. -/
theorem parse_text_parse_iff (s : String) :
    parse (parse s).text = parse s ↔ ReadsBack (parse s).components := by
  have hkeyed : ∀ x ∈ (parse s).components, IsKeyed x := fun x hx => isKeyed_of_mem_parse hx
  have htext : (parse (parse s).text).components =
      (componentsOf (toChars ⟨(parse s).components⟩)).map inCapitals := by
    rw [components_parse, text, String.toList_ofList]
  constructor
  · intro hsame
    rw [hsame] at htext
    exact readsBack_of_componentsOf hkeyed htext.symm
  · intro hback
    rw [componentsOf_of_readsBack hkeyed hback] at htext
    have hcapitals : (parse s).components.map inCapitals = (parse s).components := by
      conv_rhs => rw [← List.map_id (parse s).components]
      apply List.map_congr_left
      intro x hx
      exact Prod.ext (hkeyed x hx).capitals rfl
    rw [hcapitals] at htext
    exact eq_of_components_eq htext

/-- A semicolon is lost that stood in quotes. -/
theorem parse_text_parse_ne_semicolon :
    parse (parse "CN=\"a;b\"").text ≠ parse "CN=\"a;b\"" := by
  decide +kernel

end DeviceAccess.DistinguishedName
