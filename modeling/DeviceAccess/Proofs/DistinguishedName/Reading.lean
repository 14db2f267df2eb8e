import Mathlib
import DeviceAccess.Proofs.DistinguishedName.Parts

/-!
# Written names read back

States in which ways a list of components may be written, and proves that each of them is read as
these components, in their order and with their keys in capitals
(`components_parse_of_isWritten`).

- A value stands in double quotes, or with a backslash in front of each separator
  (`ValueWritten`).
- Blanks may stand around keys and values, and parts that spell nothing anywhere between the
  components (`PartWritten`).
- Each part is read on its own (`PartWritten.exists_isRead`), so that the law for a whole text is an
  induction on its parts.
-/

namespace DeviceAccess.DistinguishedName

open Text

variable {c sep : Char} {key value written part raw : List Char}

/-! ## §1 What may be written -/

/-- A character without a meaning of its own in a part. -/
structure IsPlain (c : Char) : Prop where
  noEscape : c ≠ '\\'
  noQuote : c ≠ '"'
  noSeparator : ¬IsSeparator c

instance (c : Char) : Decidable (IsPlain c) :=
  decidable_of_iff (c ≠ '\\' ∧ c ≠ '"' ∧ ¬(c = ',' ∨ c = ';'))
    ⟨fun h => ⟨h.1, h.2.1, h.2.2⟩, fun h => ⟨h.noEscape, h.noQuote, h.noSeparator⟩⟩

/-- Characters that are all plain. -/
def IsPlainRun (cs : List Char) : Prop := ∀ c ∈ cs, IsPlain c

instance (cs : List Char) : Decidable (IsPlainRun cs) :=
  decidable_of_iff ((cs.all fun c => decide (IsPlain c)) = true) (by simp [IsPlainRun])

/-- A key that can be written. -/
structure IsKey (key : List Char) : Prop where
  nonempty : key ≠ []
  trimmed : HasNoOuterBlank key
  plain : IsPlainRun key
  noEquals : '=' ∉ key

instance (key : List Char) : Decidable (IsKey key) :=
  decidable_of_iff (key ≠ [] ∧ HasNoOuterBlank key ∧ IsPlainRun key ∧ '=' ∉ key)
    ⟨fun h => ⟨h.1, h.2.1, h.2.2.1, h.2.2.2⟩,
      fun h => ⟨h.nonempty, h.trimmed, h.plain, h.noEquals⟩⟩

/-- A value that can be written. -/
structure IsValue (value : List Char) : Prop where
  noEscape : '\\' ∉ value
  noQuote : '"' ∉ value

instance (value : List Char) : Decidable (IsValue value) :=
  decidable_of_iff ('\\' ∉ value ∧ '"' ∉ value)
    ⟨fun h => ⟨h.1, h.2⟩, fun h => ⟨h.noEscape, h.noQuote⟩⟩

/-- A component that can be written. -/
structure IsWellFormed (component : String × String) : Prop where
  key : IsKey component.1.toList
  value : IsValue component.2.toList

instance (component : String × String) : Decidable (IsWellFormed component) :=
  decidable_of_iff (IsKey component.1.toList ∧ IsValue component.2.toList)
    ⟨fun h => ⟨h.1, h.2⟩, fun h => ⟨h.key, h.value⟩⟩

/-- Characters that are all blank. -/
def IsBlankRun (cs : List Char) : Prop := ∀ c ∈ cs, isBlank c = true

instance (cs : List Char) : Decidable (IsBlankRun cs) :=
  decidable_of_iff (cs.all isBlank = true) List.all_eq_true

/-- A value with a backslash in front of each separator. -/
def escapeSeparators (value : List Char) : List Char :=
  value.flatMap fun c => if c = ',' ∨ c = ';' then ['\\', c] else [c]

/-- The ways to write a value: in double quotes, or, without outer blanks, with escapes. -/
inductive ValueWritten (value : List Char) : List Char → Prop where
  | quoted : ValueWritten value ('"' :: (value ++ ['"']))
  | escaped (htrimmed : HasNoOuterBlank value) : ValueWritten value (escapeSeparators value)

/-- The parts of a text, each with what it spells: a component with blanks around its key and its
value, or nothing, for want of `=` or of a key in front of it. -/
inductive PartWritten : List Char → List (String × String) → Prop where
  | component {key value : String} {written a b c d : List Char}
      (hvalue : ValueWritten value.toList written) (ha : IsBlankRun a) (hb : IsBlankRun b)
      (hc : IsBlankRun c) (hd : IsBlankRun d) :
      PartWritten ((a ++ key.toList ++ b) ++ '=' :: (c ++ written ++ d)) [(key, value)]
  | noEquals {part : List Char} (hplain : IsPlainRun part) (hequals : '=' ∉ part) :
      PartWritten part []
  | noKey {a rest : List Char} (ha : IsBlankRun a) (hplain : IsPlainRun rest) :
      PartWritten (a ++ '=' :: rest) []

/-- The texts that components are written as: parts with a separator between neighbours, which spell
the components in order. -/
inductive IsWritten : List (String × String) → List Char → Prop where
  | last {components : List (String × String)} {part : List Char}
      (hpart : PartWritten part components) : IsWritten components part
  | cons {components more : List (String × String)} {part rest : List Char} {sep : Char}
      (hpart : PartWritten part components) (hsep : IsSeparator sep) (hrest : IsWritten more rest) :
      IsWritten (components ++ more) (part ++ sep :: rest)

/-! ## §2 Reading what was written -/

theorem isPlain_of_isBlank (h : isBlank c = true) : IsPlain c := by
  refine ⟨?_, ?_, ?_⟩
  · rintro rfl
    exact absurd h (by decide)
  · rintro rfl
    exact absurd h (by decide)
  · rintro (rfl | rfl) <;> exact absurd h (by decide)

/-- Plain characters are read as they are. -/
theorem IsPlainRun.isRead (h : IsPlainRun raw) : IsRead false raw raw false := by
  apply IsRead.of_forall
  intro c hc
  obtain ⟨hescape, hquote, hsep⟩ := h c hc
  exact ⟨hescape, hquote, fun hseparator => absurd hseparator hsep⟩

theorem IsBlankRun.isPlainRun (h : IsBlankRun raw) : IsPlainRun raw :=
  fun c hc => isPlain_of_isBlank (h c hc)

/-- A value in quotes is read with its quotes. -/
theorem IsValue.isRead_quoted (h : IsValue value) :
    IsRead false ('"' :: (value ++ ['"'])) ('"' :: (value ++ ['"'])) false := by
  have hinside : IsRead true value value true := by
    apply IsRead.of_forall
    intro c hc
    refine ⟨?_, ?_, fun _ => rfl⟩
    · rintro rfl
      exact h.noEscape hc
    · rintro rfl
      exact h.noQuote hc
  exact .quote (hinside.append (.quote (.nil false)))

/-- A value with escapes is read without them. -/
theorem IsValue.isRead_escapeSeparators (h : IsValue value) :
    IsRead false (escapeSeparators value) value false := by
  induction value with
  | nil => exact .nil false
  | cons c value ih =>
    obtain ⟨hescape, hquote⟩ := h
    rw [List.mem_cons, not_or] at hescape hquote
    have hrest := ih ⟨hescape.2, hquote.2⟩
    unfold escapeSeparators
    rw [List.flatMap_cons]
    split
    · exact .escaped c hrest
    · rename_i hsep
      exact .plain (Ne.symm hescape.1) (Ne.symm hquote.1) (fun h => absurd h hsep) hrest

theorem unquote_of_not_mem (h : '"' ∉ value) : unquote value = value := by
  cases value with
  | nil => rfl
  | cons c rest =>
    have hc : c ≠ '"' := fun hc => h (hc ▸ List.mem_cons_self)
    simp [unquote, hc]

/-- Either way of writing a value is read as characters without outer blanks that the value is left
of when quotes around it are removed. -/
theorem ValueWritten.exists_isRead (h : ValueWritten value written) (hvalue : IsValue value) :
    ∃ shown, IsRead false written shown false ∧ HasNoOuterBlank shown ∧ unquote shown = value := by
  cases h with
  | quoted => exact ⟨_, hvalue.isRead_quoted, hasNoOuterBlank_quoted value, unquote_quoted value⟩
  | escaped htrimmed =>
    exact ⟨value, hvalue.isRead_escapeSeparators, htrimmed, unquote_of_not_mem hvalue.noQuote⟩

/-- A part is read as characters that spell what the part does. -/
theorem PartWritten.exists_isRead {components : List (String × String)}
    (h : PartWritten part components) (hcomponents : ∀ x ∈ components, IsWellFormed x) :
    ∃ content, IsRead false part content false ∧ (component? content).toList = components := by
  -- blanks are no `=`, so that the first one is the one behind the key
  have hblank : ∀ {run : List Char}, IsBlankRun run → '=' ∉ run := fun hrun hmem =>
    absurd (hrun _ hmem) (by decide)
  cases h with
  | @component key value written a b c d hvalue ha hb hc hd =>
    obtain ⟨hkey, hform⟩ := hcomponents (key, value) List.mem_cons_self
    obtain ⟨shown, hread, hshown, hunquote⟩ := hvalue.exists_isRead hform
    have hfront : IsRead false (a ++ key.toList ++ b) (a ++ key.toList ++ b) false :=
      (ha.isPlainRun.isRead.append hkey.plain.isRead).append hb.isPlainRun.isRead
    have hequals : IsRead false ['='] ['='] false := IsPlainRun.isRead (by decide)
    have hback : IsRead false (c ++ written ++ d) (c ++ shown ++ d) false :=
      (hc.isPlainRun.isRead.append hread).append hd.isPlainRun.isRead
    refine ⟨_, hfront.append (hequals.append hback), ?_⟩
    have hfirst : '=' ∉ a ++ key.toList ++ b := by
      simp [hblank ha, hblank hb, hkey.noEquals]
    have htrim : trim (a ++ key.toList ++ b) = key.toList :=
      trim_append_append ha hb hkey.trimmed
    rw [List.singleton_append, component?_append hfirst, htrim,
      trim_append_append hc hd hshown, hunquote]
    simp [hkey.nonempty]
  | noEquals hplain hequals =>
    exact ⟨part, hplain.isRead, by rw [component?_of_not_mem hequals]; rfl⟩
  | @noKey a rest ha hplain =>
    have hequals : IsRead false ['='] ['='] false := IsPlainRun.isRead (by decide)
    refine ⟨_, ha.isPlainRun.isRead.append (hequals.append hplain.isRead), ?_⟩
    have htrim : trim a = [] := stripBoth_eq_nil_iff.mpr ha
    rw [List.singleton_append, component?_append (hblank ha), htrim]
    rfl

theorem componentsOf_of_isWritten {components : List (String × String)} {text : List Char}
    (h : IsWritten components text) (hcomponents : ∀ x ∈ components, IsWellFormed x) :
    componentsOf text = components := by
  induction h with
  | @last components part hpart =>
    obtain ⟨content, hread, hspells⟩ := hpart.exists_isRead hcomponents
    have hwhole := componentsOf_append hread (.nothing false)
    rwa [List.append_nil, hspells, List.tail_nil, componentsOf_nil, List.append_nil] at hwhole
  | @cons components more part rest sep hpart hsep hrest ih =>
    obtain ⟨hfirst, hmore⟩ := List.forall_mem_append.mp hcomponents
    obtain ⟨content, hread, hspells⟩ := hpart.exists_isRead hfirst
    rw [componentsOf_append hread (.separator hsep rest), hspells, List.tail_cons, ih hmore]

/-- **A written name is read back**: whichever way its components are written, they are read in
their order, with their keys in capitals. -/
theorem components_parse_of_isWritten {components : List (String × String)} {text : String}
    (hcomponents : ∀ x ∈ components, IsWellFormed x) (hwritten : IsWritten components text.toList) :
    (parse text).components = components.map inCapitals := by
  rw [components_parse, componentsOf_of_isWritten hwritten hcomponents]

theorem components_parse_of_isWritten_mixed :
    (parse "cn = \"a;b\";junk,O=x\\,y,=z").components = [("CN", "a;b"), ("O", "x,y")] := by
  have hblank : IsBlankRun [' '] := by decide
  have hnone : IsBlankRun [] := by decide
  have hfirst : PartWritten ([] ++ "cn".toList ++ [' '] ++ '=' ::
      ([' '] ++ '"' :: ("a;b".toList ++ ['"']) ++ [])) [("cn", "a;b")] :=
    .component .quoted hnone hblank hblank hnone
  have hjunk : PartWritten "junk".toList [] := .noEquals (by decide) (by decide)
  have hsecond : PartWritten ([] ++ "O".toList ++ [] ++ '=' ::
      ([] ++ escapeSeparators "x,y".toList ++ [])) [("O", "x,y")] :=
    .component (.escaped (by decide)) hnone hnone hnone hnone
  have hlast : PartWritten ([] ++ '=' :: "z".toList) [] := .noKey hnone (by decide)
  have hwritten : IsWritten [("cn", "a;b"), ("O", "x,y")]
      "cn = \"a;b\";junk,O=x\\,y,=z".toList :=
    .cons hfirst (.inr rfl) (.cons hjunk (.inl rfl) (.cons hsecond (.inl rfl) (.last hlast)))
  exact components_parse_of_isWritten (by decide) hwritten

end DeviceAccess.DistinguishedName
