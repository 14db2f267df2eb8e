import Mathlib
import DeviceAccess.Proofs.DistinguishedName.Parts

/-!
# Shown components

How components are shown, and what is known of a part that a shown component was read from. Reading
never makes a text longer, which leaves little room.

- `shownValue_ne_append` says that a value is not read from a part that ends before the shown value
  does, and `eq_shownValue_of_isRead` that it is read from the whole of it without a loss.
- `IsRead.split_equals` says the like of a key, which ends at the first `=`.
-/

namespace DeviceAccess.DistinguishedName

open Text

variable {quoted quoted' : Bool} {raw content value : List Char}

/-! ## §1 What is shown -/

/-- A value as it is shown. -/
def shownValue (value : List Char) : List Char :=
  if ',' ∈ value then '"' :: (value ++ ['"']) else value

/-- What is shown behind a component. -/
def shownBehind : List (String × String) → List Char
  | [] => []
  | component :: rest => ',' :: ' ' :: toChars ⟨component :: rest⟩

theorem componentChars_eq (component : String × String) :
    componentChars component = component.1.toList ++ '=' :: shownValue component.2.toList := by
  by_cases hcomma : ',' ∈ component.2.toList
  · simp [componentChars, shownValue, hcomma]
  · simp [componentChars, shownValue, hcomma]

theorem toChars_cons (component : String × String) (rest : List (String × String)) :
    toChars ⟨component :: rest⟩ = componentChars component ++ shownBehind rest := by
  cases rest with
  | nil => simp [toChars, joinWith, shownBehind]
  | cons next rest => simp [toChars, joinWith, shownBehind]

theorem length_shownValue_le (value : List Char) :
    (shownValue value).length ≤ value.length + 2 := by
  unfold shownValue
  split
  · simp
  · omega

/-! ## §2 A shown value read back -/

/-- What stands in front of the last character holds every other character. -/
theorem exists_of_concat_eq_append {last d : Char} (hd : d ≠ last) {y z : List Char}
    (h : value ++ [last] = y ++ d :: z) : ∃ z', value = y ++ d :: z' := by
  rcases List.append_eq_append_iff.mp h with ⟨front, -, hlast⟩ | ⟨behind, hvalue, hbehind⟩
  · cases front with
    | nil => exact absurd (List.cons.inj hlast).1.symm hd
    | cons e front => simp at hlast
  · cases behind with
    | nil => exact absurd (List.cons.inj hbehind).1 hd
    | cons e behind =>
      obtain ⟨rfl, -⟩ := List.cons.inj hbehind
      exact ⟨behind, hvalue⟩

/-- A value is not read from a part that ends before the shown value does. -/
theorem shownValue_ne_append {y z b : List Char} {d : Char} (hread : IsRead quoted y b quoted')
    (hd : d ≠ '"') (hvalue : value = unquote (trim b)) : shownValue value ≠ y ++ d :: z := by
  intro hshown
  have hbound : value.length ≤ b.length := hvalue ▸ length_unquote_trim_le b
  have hsub : (trim b).Sublist b := stripBoth_sublist isBlank b
  have htrim := hsub.length_le
  have hlength := hread.length_le
  unfold shownValue at hshown
  split at hshown
  · cases y with
    | nil => exact hd (List.cons.inj hshown).1.symm
    | cons e y =>
      obtain ⟨rfl, hinner⟩ := List.cons.inj hshown
      obtain ⟨z', hsplit⟩ := exists_of_concat_eq_append hd hinner
      have hlong := congrArg List.length hsplit
      simp only [List.length_append, List.length_cons] at hlong hlength
      rcases unquote_cases (trim b) with hkept | hstripped
      · -- no quotes were removed, so nothing at all was lost, but a quote in front was won
        rw [hkept] at hvalue
        rw [← hvalue] at htrim hsub
        have hz : z' = [] := List.length_eq_zero_iff.mp (by omega)
        have hb : b = '"' :: y := hread.eq_of_length (by rw [List.length_cons]; omega)
        have hwhole : value = '"' :: y := hb ▸ hsub.eq_of_length (by omega)
        have hcount := congrArg (List.count '"') (hwhole.symm.trans hsplit)
        simp [hz, hd] at hcount
      · rw [hstripped, ← hvalue] at htrim
        simp only [List.length_cons, List.length_append] at htrim
        omega
  · have hlong := congrArg List.length hshown
    simp only [List.length_append, List.length_cons] at hlong
    omega

/-- A value that is read from the value as it is shown is read without a loss. -/
theorem eq_shownValue_of_isRead {b : List Char} (hread : IsRead quoted (shownValue value) b quoted')
    (hvalue : value = unquote (trim b)) :
    b = shownValue value ∧ (',' ∈ value ∨ HasNoOuterBlank value ∧ unquote value = value) := by
  unfold shownValue at hread ⊢
  by_cases hcomma : ',' ∈ value
  · rw [if_pos hcomma] at hread ⊢
    obtain ⟨b, rfl, hinner⟩ := hread.of_cons_quote
    have hlast := hinner.getLast?_eq
    rw [List.getLast?_concat] at hlast
    obtain ⟨inner, rfl⟩ := List.getLast?_eq_some_iff.mp hlast
    rw [trim_eq_self_iff.mpr (hasNoOuterBlank_quoted inner), unquote_quoted] at hvalue
    rw [hvalue]
    exact ⟨rfl, .inl (hvalue ▸ hcomma)⟩
  · rw [if_neg hcomma] at hread ⊢
    have hbound : value.length ≤ b.length := hvalue ▸ length_unquote_trim_le b
    obtain rfl : b = value := hread.eq_of_length (le_antisymm hread.length_le hbound)
    have hsub : (trim b).Sublist b := stripBoth_sublist isBlank b
    have hle := hsub.length_le
    rcases unquote_cases (trim b) with hkept | hstripped
    · rw [hkept] at hvalue
      rw [← hvalue] at hkept
      exact ⟨rfl, .inr ⟨trim_eq_self_iff.mp hvalue.symm, hkept⟩⟩
    · rw [hstripped, ← hvalue] at hle
      simp only [List.length_cons, List.length_append] at hle
      omega

/-! ## §3 A shown key read back -/

/-- What begins with a character begins before the first `=` or with it. -/
theorem cons_eq_append_equals {c : Char} {cs x y : List Char} (h : c :: cs = x ++ '=' :: y)
    (hx : '=' ∉ x) :
    (c = '=' ∧ x = [] ∧ cs = y) ∨
      (c ≠ '=' ∧ ∃ x', x = c :: x' ∧ '=' ∉ x' ∧ cs = x' ++ '=' :: y) := by
  cases x with
  | nil =>
    obtain ⟨hc, hcs⟩ := List.cons.inj h
    exact .inl ⟨hc, rfl, hcs⟩
  | cons d x =>
    obtain ⟨rfl, hcs⟩ := List.cons.inj h
    rw [List.mem_cons, not_or] at hx
    exact .inr ⟨fun hc => hx.1 hc.symm, x, rfl, hx.2, hcs⟩

/-- Up to the first `=` reading makes a text no longer, and if it makes it no shorter it leaves it as
it is. -/
theorem IsRead.split_equals {x y a b : List Char} (h : IsRead quoted raw content quoted')
    (hraw : raw = x ++ '=' :: y) (hx : '=' ∉ x) (hcontent : content = a ++ '=' :: b)
    (ha : '=' ∉ a) :
    a.length ≤ x.length ∧ ∃ middle, IsRead middle y b quoted' ∧
      (a.length = x.length → a = x ∧ IsRead quoted x x middle) := by
  -- the `=` that is read first is the first one of the text, as it is or behind a backslash
  induction h generalizing x a with
  | nil => simp at hraw
  | @escaped quoted quoted' raw content c h ih =>
    rcases cons_eq_append_equals hraw hx with ⟨hc, -⟩ | ⟨-, x, rfl, hx, hraw⟩
    · exact absurd hc (by decide)
    · rcases cons_eq_append_equals hcontent ha with ⟨rfl, rfl, rfl⟩ | ⟨hc, a, rfl, ha, hcontent⟩
      · rcases cons_eq_append_equals hraw hx with ⟨-, rfl, rfl⟩ | ⟨hc, -⟩
        · exact ⟨by simp, quoted, h, by simp⟩
        · exact absurd rfl hc
      · rcases cons_eq_append_equals hraw hx with ⟨hc', -⟩ | ⟨-, x, rfl, hx, hraw⟩
        · exact absurd hc' hc
        · obtain ⟨hle, middle, hread, -⟩ := ih hraw hx hcontent ha
          simp only [List.length_cons]
          exact ⟨by omega, middle, hread, fun heq => by omega⟩
  | quote h ih =>
    rcases cons_eq_append_equals hraw hx with ⟨hc, -⟩ | ⟨-, x, rfl, hx, hraw⟩
    · exact absurd hc (by decide)
    · rcases cons_eq_append_equals hcontent ha with ⟨hc, -⟩ | ⟨-, a, rfl, ha, hcontent⟩
      · exact absurd hc (by decide)
      · obtain ⟨hle, middle, hread, heq⟩ := ih hraw hx hcontent ha
        refine ⟨Nat.succ_le_succ hle, middle, hread, fun hlength => ?_⟩
        obtain ⟨rfl, hkey⟩ := heq (Nat.succ.inj hlength)
        exact ⟨rfl, .quote hkey⟩
  | @plain quoted quoted' raw content c hescape hquote hsep h ih =>
    rcases cons_eq_append_equals hraw hx with ⟨hc, rfl, rfl⟩ | ⟨hc, x, rfl, hx, hraw⟩
    · rcases cons_eq_append_equals hcontent ha with ⟨-, rfl, rfl⟩ | ⟨hc', -⟩
      · exact ⟨le_rfl, quoted, h, fun _ => ⟨rfl, .nil quoted⟩⟩
      · exact absurd hc hc'
    · rcases cons_eq_append_equals hcontent ha with ⟨hc', -⟩ | ⟨-, a, rfl, ha, hcontent⟩
      · exact absurd hc' hc
      · obtain ⟨hle, middle, hread, heq⟩ := ih hraw hx hcontent ha
        refine ⟨Nat.succ_le_succ hle, middle, hread, fun hlength => ?_⟩
        obtain ⟨rfl, hkey⟩ := heq (Nat.succ.inj hlength)
        exact ⟨rfl, .plain hescape hquote hsep hkey⟩

end DeviceAccess.DistinguishedName
