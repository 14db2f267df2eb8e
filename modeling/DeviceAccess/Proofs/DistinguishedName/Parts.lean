import Mathlib
import DeviceAccess.DistinguishedName
import DeviceAccess.Proofs.Text.Blank

/-!
# Parts of a name

Relates the parts that a text is cut into to the text itself.

- `IsRead` says what a stretch of text without a separator in force is read as, and whether a quote
  is open behind it.
- `exists_isRead` cuts the first part off a text, whatever the text is.
- `componentsOf_append` reads a text part by part: the first part gives its component, if it spells
  one, and what is behind the separator gives the others.
-/

namespace DeviceAccess.DistinguishedName

open Text

variable {quoted quoted' : Bool} {raw content rest : List Char} {c sep : Char}

/-! ## §1 Stretches of text -/

/-- A character that separates components where no quote is open. -/
def IsSeparator (c : Char) : Prop := c = ',' ∨ c = ';'

/-- `IsRead quoted raw content quoted'`: where `quoted` says whether a quote is open, `raw` is read
as `content`, and `quoted'` says whether a quote is open behind it. A backslash takes the next
character as it is, quotes stay, and a separator must stand in quotes. -/
inductive IsRead : Bool → List Char → List Char → Bool → Prop where
  | nil (quoted : Bool) : IsRead quoted [] [] quoted
  | escaped {quoted quoted' : Bool} {raw content : List Char} (c : Char)
      (h : IsRead quoted raw content quoted') :
      IsRead quoted ('\\' :: c :: raw) (c :: content) quoted'
  | quote {quoted quoted' : Bool} {raw content : List Char}
      (h : IsRead (!quoted) raw content quoted') :
      IsRead quoted ('"' :: raw) ('"' :: content) quoted'
  | plain {quoted quoted' : Bool} {raw content : List Char} {c : Char} (hescape : c ≠ '\\')
      (hquote : c ≠ '"') (hsep : IsSeparator c → quoted = true)
      (h : IsRead quoted raw content quoted') : IsRead quoted (c :: raw) (c :: content) quoted'

namespace IsRead

theorem append {middle : Bool} {raw' content' : List Char} (h : IsRead quoted raw content middle)
    (h' : IsRead middle raw' content' quoted') :
    IsRead quoted (raw ++ raw') (content ++ content') quoted' := by
  induction h with
  | nil => exact h'
  | escaped c _ ih => exact .escaped c (ih h')
  | quote _ ih => exact .quote (ih h')
  | plain hescape hquote hsep _ ih => exact .plain hescape hquote hsep (ih h')

/-- Characters without a meaning of their own are read as they are. -/
theorem of_forall (h : ∀ c ∈ raw, c ≠ '\\' ∧ c ≠ '"' ∧ (IsSeparator c → quoted = true)) :
    IsRead quoted raw raw quoted := by
  induction raw with
  | nil => exact .nil quoted
  | cons c raw ih =>
    obtain ⟨⟨hescape, hquote, hsep⟩, hraw⟩ := List.forall_mem_cons.mp h
    exact .plain hescape hquote hsep (ih hraw)

theorem length_le (h : IsRead quoted raw content quoted') : content.length ≤ raw.length := by
  induction h with
  | nil => exact le_rfl
  | escaped c _ ih => simp only [List.length_cons]; omega
  | quote _ ih => simp only [List.length_cons]; omega
  | plain _ _ _ _ ih => simp only [List.length_cons]; omega

/-- Only backslashes are lost, so what is as long as before is as it was before. -/
theorem eq_of_length (h : IsRead quoted raw content quoted')
    (hlength : content.length = raw.length) : content = raw := by
  induction h with
  | nil => rfl
  | escaped c h _ =>
    have hle := h.length_le
    simp only [List.length_cons] at hlength
    omega
  | quote _ ih => rw [ih (Nat.succ.inj hlength)]
  | plain _ _ _ _ ih => rw [ih (Nat.succ.inj hlength)]

theorem mem_of_mem (h : IsRead quoted raw content quoted') (hc : c ∈ content) : c ∈ raw := by
  induction h with
  | nil => exact hc
  | escaped d _ ih =>
    rcases List.mem_cons.mp hc with rfl | hc
    · simp
    · simp [ih hc]
  | quote _ ih =>
    rcases List.mem_cons.mp hc with rfl | hc
    · simp
    · simp [ih hc]
  | plain _ _ _ _ ih =>
    rcases List.mem_cons.mp hc with rfl | hc
    · simp
    · simp [ih hc]

/-- The last character is never lost. -/
theorem getLast?_eq (h : IsRead quoted raw content quoted') : content.getLast? = raw.getLast? := by
  induction h with
  | nil => rfl
  | escaped c _ ih => simp [List.getLast?_cons, ih]
  | quote _ ih => rw [List.getLast?_cons, List.getLast?_cons, ih]
  | plain _ _ _ _ ih => rw [List.getLast?_cons, List.getLast?_cons, ih]

/-- A quote is read as a quote. -/
theorem of_cons_quote (h : IsRead quoted ('"' :: raw) content quoted') :
    ∃ content', content = '"' :: content' ∧ IsRead (!quoted) raw content' quoted' := by
  cases h with
  | quote h => exact ⟨_, rfl, h⟩
  | plain _ hquote => exact absurd rfl hquote

end IsRead

/-! ## §2 The first part of a text -/

theorem parts_cons (hescape : c ≠ '\\') (rest : List Char) :
    parts quoted (c :: rest) =
      if c == '"' then pushFront c (parts (!quoted) rest)
      else if !quoted && (c == ',' || c == ';') then [] :: parts quoted rest
      else pushFront c (parts quoted rest) := by
  rw [parts]
  · exact fun h _ => hescape h
  · exact fun _ _ h _ => hescape h

theorem parts_separator (hsep : IsSeparator sep) (rest : List Char) :
    parts false (sep :: rest) = [] :: parts false rest := by
  rcases hsep with rfl | rfl <;> exact parts_cons (by decide) rest

theorem parts_append (h : IsRead quoted raw content quoted') (rest : List Char) :
    parts quoted (raw ++ rest) = content.foldr pushFront (parts quoted' rest) := by
  induction h with
  | nil => rfl
  | escaped c _ ih =>
    rw [List.foldr_cons, ← ih]
    rfl
  | quote _ ih =>
    rw [List.foldr_cons, ← ih]
    exact parts_cons (by decide) _
  | @plain quoted _ _ _ c hescape hquote hsep _ ih =>
    have hinside : (!quoted && (c == ',' || c == ';')) = false := by
      cases quoted with
      | true => rfl
      | false => simpa [IsSeparator] using hsep
    rw [List.foldr_cons, ← ih, List.cons_append, parts_cons hescape, hinside]
    simp [hquote]

theorem foldr_pushFront (content part : List Char) (rest : List (List Char)) :
    content.foldr pushFront (part :: rest) = (content ++ part) :: rest := by
  induction content with
  | nil => rfl
  | cons c content ih =>
    rw [List.foldr_cons, ih]
    rfl

/-- What stands behind a part: nothing, a last backslash, or a separator and more text. -/
inductive IsBehind : Bool → List Char → Prop where
  | nothing (quoted : Bool) : IsBehind quoted []
  | backslash (quoted : Bool) : IsBehind quoted ['\\']
  | separator {sep : Char} (hsep : IsSeparator sep) (rest : List Char) :
      IsBehind false (sep :: rest)

/-- Every text begins with a part. -/
theorem exists_isRead (quoted : Bool) (text : List Char) :
    ∃ (raw content more : List Char) (quoted' : Bool),
      text = raw ++ more ∧ IsRead quoted raw content quoted' ∧ IsBehind quoted' more := by
  -- the ways of the reader: the end, a last backslash, an escape, a quote, a separator, any other
  induction quoted, text using parts.induct with
  | case1 quoted => exact ⟨[], [], [], quoted, rfl, .nil quoted, .nothing quoted⟩
  | case2 quoted => exact ⟨[], [], ['\\'], quoted, rfl, .nil quoted, .backslash quoted⟩
  | case3 quoted c rest ih =>
    obtain ⟨raw, content, more, quoted', rfl, hread, hmore⟩ := ih
    exact ⟨'\\' :: c :: raw, c :: content, more, quoted', rfl, .escaped c hread, hmore⟩
  | case4 quoted c rest hlast hescape hquote ih =>
    obtain ⟨raw, content, more, quoted', rfl, hread, hmore⟩ := ih
    obtain rfl : c = '"' := by simpa using hquote
    exact ⟨'"' :: raw, '"' :: content, more, quoted', rfl, .quote hread, hmore⟩
  | case5 quoted c rest hlast hescape hquote hsep ih =>
    simp only [Bool.and_eq_true, Bool.not_eq_true', Bool.or_eq_true, beq_iff_eq] at hsep
    obtain ⟨rfl, hsep⟩ := hsep
    exact ⟨[], [], c :: rest, false, rfl, .nil false, .separator hsep rest⟩
  | case6 quoted c rest hlast hescape hquote hsep ih =>
    obtain ⟨raw, content, more, quoted', rfl, hread, hmore⟩ := ih
    have hplain : c ≠ '\\' := by
      rintro rfl
      cases hrest : raw ++ more with
      | nil => exact hlast rfl hrest
      | cons d rest => exact hescape d rest rfl hrest
    refine ⟨c :: raw, c :: content, more, quoted', rfl, ?_, hmore⟩
    refine .plain hplain (by simpa using hquote) (fun hseparator => ?_) hread
    cases quoted with
    | true => rfl
    | false => exact absurd (by simpa [IsSeparator] using hseparator) hsep

/-! ## §3 Quotes around a value -/

/-- Quotes are removed at both ends, or not at all. -/
theorem unquote_cases (value : List Char) :
    unquote value = value ∨ value = '"' :: (unquote value ++ ['"']) := by
  unfold unquote
  split
  · rename_i rest
    split
    · rename_i inner hinner
      right
      rw [← List.reverse_cons, ← hinner, List.reverse_reverse]
    · exact .inl rfl
  · exact .inl rfl

theorem unquote_quoted (value : List Char) : unquote ('"' :: (value ++ ['"'])) = value := by
  simp [unquote]

/-- A value is no longer than what it was left of. -/
theorem length_unquote_trim_le (value : List Char) :
    (unquote (trim value)).length ≤ value.length := by
  have htrim : (trim value).length ≤ value.length := (stripBoth_sublist isBlank value).length_le
  rcases unquote_cases (trim value) with h | h
  · rwa [h]
  · have hlength := congrArg List.length h
    simp only [List.length_cons, List.length_append] at hlength
    omega

theorem hasNoOuterBlank_quoted (value : List Char) :
    HasNoOuterBlank ('"' :: (value ++ ['"'])) := by
  have hblank : isBlank '"' = false := by decide
  constructor
  · rintro c ⟨⟩
    exact hblank
  · intro c hc
    rw [← List.cons_append, List.getLast?_concat] at hc
    cases hc
    exact hblank

/-! ## §4 Components -/

theorem component?_of_not_mem (h : '=' ∉ content) : component? content = none := by
  rw [component?, cutAt_of_not_mem h]

theorem component?_append {key : List Char} (hkey : '=' ∉ key) (value : List Char) :
    component? (key ++ '=' :: value) =
      if (trim key).isEmpty then none
      else some (String.ofList (trim key), String.ofList (unquote (trim value))) := by
  have hcut : cutAt '=' (key ++ '=' :: value) = (key, some value) := cutAt_append hkey (some value)
  rw [component?, hcut]

/-- What spells a component: a key that is not blank, `=` and a value. -/
theorem exists_of_component?_eq_some {component : String × String}
    (h : component? content = some component) :
    ∃ key value, content = key ++ '=' :: value ∧ '=' ∉ key ∧ trim key ≠ [] ∧
      component.1.toList = trim key ∧ component.2.toList = unquote (trim value) := by
  by_cases hmem : '=' ∈ content
  · obtain ⟨key, value, rfl, hkey⟩ := List.eq_append_cons_of_mem hmem
    rw [component?_append hkey] at h
    split at h
    · cases h
    · rename_i hblank
      cases h
      exact ⟨key, value, rfl, hkey, fun hnil => hblank (by rw [hnil]; rfl), String.toList_ofList,
        String.toList_ofList⟩
  · rw [component?_of_not_mem hmem] at h
    cases h

/-! ## §5 Reading part by part -/

/-- The components that a text spells, with the keys as they are written. -/
def componentsOf (text : List Char) : List (String × String) :=
  (parts false text).filterMap component?

/-- A component with its key in capitals. -/
def inCapitals (component : String × String) : String × String :=
  (upperText component.1, component.2)

theorem components_parse (text : String) :
    (parse text).components = (componentsOf text.toList).map inCapitals := rfl

theorem componentsOf_nil : componentsOf [] = [] := rfl

/-- The first part gives its component, if it spells one, and what is behind its end the others. -/
theorem componentsOf_append {more : List Char} (h : IsRead false raw content quoted)
    (hmore : IsBehind quoted more) :
    componentsOf (raw ++ more) = (component? content).toList ++ componentsOf more.tail := by
  have hparts : ∀ others, parts quoted more = [] :: others →
      componentsOf (raw ++ more) = (component? content).toList ++ others.filterMap component? := by
    intro others hothers
    rw [componentsOf, parts_append h, hothers, foldr_pushFront, List.append_nil,
      List.filterMap_cons]
    cases component? content <;> rfl
  cases hmore with
  | nothing => exact hparts [] rfl
  | backslash => exact hparts [] rfl
  | separator hsep rest => exact hparts _ (parts_separator hsep rest)

end DeviceAccess.DistinguishedName
