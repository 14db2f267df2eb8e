import Mathlib
import DeviceAccess.Proofs.Text.CaseMap
import DeviceAccess.Proofs.Text.Cut
import DeviceAccess.Proofs.Text.Digits
import DeviceAccess.Text.Ascii
import DeviceAccess.Text.Blank

/-!
# Laws of trimming

Trimming leaves nothing exactly if there are only blanks, leaves a text without blanks as it is, and
is done once and for all. So a text counts as set exactly if one of its characters is no blank, and
what it is set to needs no further trimming.
-/

namespace DeviceAccess.Text

/-! ## §1 Stripping both ends -/

variable {α : Type} {p : α → Bool} {xs : List α}

theorem stripBoth_eq_nil_iff : stripBoth p xs = [] ↔ ∀ x ∈ xs, p x = true := by
  have hfront : xs.dropWhile p = [] ↔ ∀ x ∈ xs, p x = true := List.dropWhile_eq_nil_iff
  rw [← hfront]
  -- a second pass from the front would drop what the pass from the back drops
  have hback : stripBoth p xs = [] ↔ (xs.dropWhile p).dropWhile p = [] := by
    rw [List.dropWhile_eq_nil_iff]
    exact List.rdropWhile_eq_nil_iff
  rw [hback, List.dropWhile_idempotent]

theorem stripBoth_sublist (p : α → Bool) (xs : List α) : (stripBoth p xs).Sublist xs := by
  have hback : stripBoth p xs <+: xs.dropWhile p := List.rdropWhile_prefix p _
  exact hback.sublist.trans (List.dropWhile_suffix p).sublist

theorem stripBoth_of_forall (h : ∀ x ∈ xs, p x = false) : stripBoth p xs = xs := by
  have hfront : xs.dropWhile p = xs := by
    rw [List.dropWhile_eq_self_iff]
    intro hpos
    simp [h _ (List.getElem_mem hpos)]
  have hback : xs.rdropWhile p = xs := by
    rw [List.rdropWhile_eq_self_iff]
    intro hne
    simp [h _ (List.getLast_mem hne)]
  calc stripBoth p xs
      = (xs.dropWhile p).rdropWhile p := rfl
    _ = xs := by rw [hfront, hback]

/-- A list stays as it is if its first and its last member do. -/
theorem stripBoth_of_ends {first last : α} (hfirst : p first = false) (hlast : p last = false)
    (middle : List α) :
    stripBoth p (first :: middle ++ [last]) = first :: middle ++ [last] := by
  simp [stripBoth, hfirst, hlast]

/-- What stands between two runs that go is left, if it neither begins nor ends with a member that
goes. -/
theorem stripBoth_append_append {front middle back : List α} (hfront : ∀ x ∈ front, p x = true)
    (hback : ∀ x ∈ back, p x = true) (hfirst : ∀ x, middle.head? = some x → p x = false)
    (hlast : ∀ x, middle.getLast? = some x → p x = false) :
    stripBoth p (front ++ middle ++ back) = middle := by
  cases middle with
  | nil =>
    rw [List.append_nil]
    exact stripBoth_eq_nil_iff.mpr (List.forall_mem_append.mpr ⟨hfront, hback⟩)
  | cons first rest =>
    have hbegin : (first :: rest ++ back).dropWhile p = first :: rest ++ back :=
      List.dropWhile_cons_of_neg (by simp [hfirst first rfl])
    have hend : (first :: rest).rdropWhile p = first :: rest := by
      rw [List.rdropWhile_eq_self_iff]
      intro hne
      simp [hlast _ (List.getLast?_eq_some_getLast hne)]
    have hall : ∀ x ∈ back.reverse, p x = true := fun x hx => hback x (List.mem_reverse.mp hx)
    rw [stripBoth, List.append_assoc, List.dropWhile_append_of_pos hfront, hbegin,
      List.reverse_append, List.dropWhile_append_of_pos hall]
    exact hend

/-- A list that stays as it is begins with a member that stays. -/
theorem head?_of_stripBoth_eq (h : stripBoth p xs = xs) {x : α} (hx : xs.head? = some x) :
    p x = false := by
  have hkept : stripBoth p xs <+: xs.dropWhile p := List.rdropWhile_prefix p _
  rw [h] at hkept
  have hfront : xs.dropWhile p = xs :=
    (List.dropWhile_suffix p).eq_of_length_le hkept.length_le
  cases xs with
  | nil => cases hx
  | cons y rest =>
    cases hx
    simpa using List.dropWhile_eq_self_iff.mp hfront (Nat.zero_lt_succ _)

/-- Behind a member that stays only the last members can go. -/
theorem stripBoth_append_cons {front : List α} (hfront : ∀ x, front.head? = some x → p x = false)
    {x : α} (hx : p x = false) (rest : List α) :
    stripBoth p (front ++ x :: rest) = front ++ x :: rest.rdropWhile p := by
  have hbegin : (front ++ x :: rest).dropWhile p = front ++ x :: rest := by
    cases front with
    | nil => simp [hx]
    | cons y front => simp [hfront y rfl]
  have hend : (rest.reverse.dropWhile p ++ x :: front.reverse).reverse =
      front ++ x :: rest.rdropWhile p := by
    simp [List.rdropWhile]
  unfold stripBoth
  rw [hbegin, ← hend, List.reverse_append, List.reverse_cons, List.append_assoc]
  congr 1
  rw [List.singleton_append, List.dropWhile_append]
  split
  · rename_i hall
    simp [List.isEmpty_iff.mp hall, hx]
  · rfl

theorem stripBoth_stripBoth : stripBoth p (stripBoth p xs) = stripBoth p xs := by
  have hkept : stripBoth p xs <+: xs.dropWhile p := List.rdropWhile_prefix p _
  -- what is left begins like the list behind the leading members, so with one that stays
  have hfront : (stripBoth p xs).dropWhile p = stripBoth p xs := by
    rw [List.dropWhile_eq_self_iff]
    intro hpos
    have hlong : 0 < (xs.dropWhile p).length := lt_of_lt_of_le hpos hkept.length_le
    have hhead := List.dropWhile_eq_self_iff.mp (List.dropWhile_idempotent p xs) hlong
    rwa [hkept.getElem hpos]
  calc stripBoth p (stripBoth p xs)
      = ((stripBoth p xs).dropWhile p).rdropWhile p := rfl
    _ = (stripBoth p xs).rdropWhile p := by rw [hfront]
    _ = stripBoth p xs := List.rdropWhile_idempotent p _

/-! ## §2 Texts -/

/-- A character of the text is no blank. -/
def HasContent (text : String) : Prop := ∃ c ∈ text.toList, isBlank c = false

variable {text : String}

theorem trimText_eq_empty_iff : trimText text = "" ↔ ¬HasContent text := by
  have hlist : trimText text = "" ↔ trim text.toList = [] := by
    rw [← String.toList_eq_nil_iff, trimText, String.toList_ofList]
  rw [hlist, trim, stripBoth_eq_nil_iff]
  simp [HasContent]

/-- A text that is set is set to what is between its outer blanks. -/
theorem nonBlank?_of_hasContent (h : HasContent text) : nonBlank? text = some (trimText text) := by
  have hleft : ¬trimText text = "" := fun hempty => trimText_eq_empty_iff.mp hempty h
  simp [nonBlank?, hleft]

theorem nonBlank?_of_not_hasContent (h : ¬HasContent text) : nonBlank? text = none := by
  have hempty : trimText text = "" := trimText_eq_empty_iff.mpr h
  simp [nonBlank?, hempty]

theorem nonBlank?_eq_some_iff {t : String} :
    nonBlank? text = some t ↔ HasContent text ∧ t = trimText text := by
  by_cases h : HasContent text
  · simp [nonBlank?_of_hasContent h, h, eq_comm]
  · simp [nonBlank?_of_not_hasContent h, h]

theorem trimText_trimText (text : String) : trimText (trimText text) = trimText text := by
  unfold trimText
  rw [String.toList_ofList, trim, trim, stripBoth_stripBoth]

/-- Trimming leaves a text with content with content. -/
theorem hasContent_trimText (h : HasContent text) : HasContent (trimText text) := by
  by_contra hblank
  have hempty := trimText_eq_empty_iff.mpr hblank
  rw [trimText_trimText] at hempty
  exact trimText_eq_empty_iff.mp hempty h

/-! ## §3 Texts without outer blanks -/

/-- Neither the first nor the last character is a blank. -/
structure HasNoOuterBlank (cs : List Char) : Prop where
  first : ∀ c, cs.head? = some c → isBlank c = false
  last : ∀ c, cs.getLast? = some c → isBlank c = false

theorem trim_eq_self_iff {cs : List Char} : trim cs = cs ↔ HasNoOuterBlank cs := by
  constructor
  · intro h
    refine ⟨fun c => head?_of_stripBoth_eq h, fun c hc => ?_⟩
    have hne : cs ≠ [] := by
      rintro rfl
      cases hc
    -- the second pass leaves a last character that is no blank
    have hback : (cs.dropWhile isBlank).rdropWhile isBlank = cs := h
    have hlast := List.rdropWhile_last_not isBlank (cs.dropWhile isBlank) (by rwa [hback])
    rw [List.getLast?_eq_some_getLast hne] at hc
    cases hc
    simpa [hback] using hlast
  · intro h
    have hkept : stripBoth isBlank ([] ++ cs ++ []) = cs :=
      stripBoth_append_append (by simp) (by simp) h.first h.last
    rwa [List.nil_append, List.append_nil] at hkept

instance (cs : List Char) : Decidable (HasNoOuterBlank cs) :=
  decidable_of_iff (trim cs = cs) trim_eq_self_iff

/-- Trimming removes the blanks around a text, and no more. -/
theorem trim_append_append {front cs back : List Char} (hfront : ∀ c ∈ front, isBlank c = true)
    (hback : ∀ c ∈ back, isBlank c = true) (hcs : HasNoOuterBlank cs) :
    trim (front ++ cs ++ back) = cs :=
  stripBoth_append_append hfront hback hcs.first hcs.last

/-! ## §4 Texts without blanks -/

/-- No character is blank. -/
def HasNoBlank (cs : List Char) : Prop := ∀ c ∈ cs, isBlank c = false

theorem HasNoBlank.trimText_eq (h : HasNoBlank text.toList) : trimText text = text := by
  unfold trimText
  rw [trim, stripBoth_of_forall h, String.ofList_toList]

theorem HasNoBlank.lowerText (h : HasNoBlank text.toList) : HasNoBlank (lowerText text).toList := by
  intro c hc
  rw [Text.lowerText, String.toList_ofList] at hc
  obtain ⟨d, hd, rfl⟩ := List.mem_map.mp hc
  rw [isBlank_toLower]
  exact h d hd

theorem hasNoBlank_singleton {c : Char} (h : isBlank c = false) : HasNoBlank [c] := by
  intro d hd
  rwa [List.mem_singleton.mp hd]

theorem HasNoBlank.append {cs ds : List Char} (hcs : HasNoBlank cs) (hds : HasNoBlank ds) :
    HasNoBlank (cs ++ ds) := by
  intro c hc
  rcases List.mem_append.mp hc with hc | hc
  · exact hcs c hc
  · exact hds c hc

theorem HasNoBlank.joinWith {sep : List Char} {parts : List (List Char)} (hsep : HasNoBlank sep)
    (hparts : ∀ part ∈ parts, HasNoBlank part) : HasNoBlank (joinWith sep parts) := by
  intro c hc
  rcases mem_joinWith hc with hc | ⟨part, hpart, hc⟩
  · exact hsep c hc
  · exact hparts part hpart c hc

theorem hasNoBlank_toDigits {base : Nat} (hlow : 1 < base) (hhigh : base ≤ 16) (n : Nat) :
    HasNoBlank (Nat.toDigits base n) := by
  have hdigit : ∀ d < 16, isBlank (Nat.digitChar d) = false := by decide
  intro c hc
  obtain ⟨d, hd, rfl⟩ := exists_of_mem_toDigits hlow hc
  exact hdigit d (by omega)

theorem hasNoBlank_hexText (width n : Nat) : HasNoBlank (hexText width n) := by
  refine HasNoBlank.append (fun c hc => ?_) (hasNoBlank_toDigits (by decide) (by decide) n)
  rw [List.eq_of_mem_replicate hc]
  decide

end DeviceAccess.Text
