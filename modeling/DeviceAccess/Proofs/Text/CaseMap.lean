import Mathlib
import DeviceAccess.Proofs.Text.Case
import DeviceAccess.Proofs.Text.Cut
import DeviceAccess.Text.Blank

/-!
# Cutting texts in small letters

A text may be put into small letters before it is cut into parts or afterwards, as long as no letter
is looked for. The first section says so for any map that keeps the separators apart from all else,
the second for the map that makes letters small.
-/

namespace DeviceAccess.Text

/-! ## §1 Maps that keep separators -/

section Map

variable {α : Type} {f : α → α}

/-- Nothing but the member itself is mapped to it. -/
def Keeps (f : α → α) (x : α) : Prop := ∀ y, f y = x ↔ y = x

theorem stripBoth_map {p : α → Bool} (hp : ∀ x, p (f x) = p x) (xs : List α) :
    stripBoth p (xs.map f) = (stripBoth p xs).map f := by
  have hcomp : p ∘ f = p := funext hp
  simp only [stripBoth, List.dropWhile_map, ← List.map_reverse, hcomp]

variable [BEq α] [LawfulBEq α]

theorem Keeps.beq_eq {x : α} (h : Keeps f x) (y : α) : (f y == x) = (y == x) := by
  rw [Bool.eq_iff_iff, beq_iff_eq, beq_iff_eq]
  exact h y

theorem cutAt_map {sep : α} (hsep : Keeps f sep) (xs : List α) :
    cutAt sep (xs.map f) = ((cutAt sep xs).1.map f, (cutAt sep xs).2.map (List.map f)) := by
  induction xs with
  | nil => rfl
  | cons x xs ih =>
    simp only [List.map_cons, cutAt, hsep.beq_eq, ih]
    split <;> rfl

theorem pieces_map {sep : α} (hsep : Keeps f sep) (xs : List α) :
    pieces sep (xs.map f) = (pieces sep xs).map (List.map f) := by
  induction xs with
  | nil => rfl
  | cons x xs ih =>
    simp only [List.map_cons, pieces, hsep.beq_eq, ih]
    split
    · rfl
    · cases pieces sep xs <;> rfl

theorem dropRun?_map {run : List α} (hrun : ∀ r ∈ run, Keeps f r) (xs : List α) :
    dropRun? run (xs.map f) = (dropRun? run xs).map (List.map f) := by
  induction run generalizing xs with
  | nil => rfl
  | cons r run ih =>
    cases xs with
    | nil => rfl
    | cons x xs =>
      have hr : (r == f x) = (r == x) := by
        rw [Bool.beq_comm, (hrun r List.mem_cons_self).beq_eq, Bool.beq_comm]
      simp only [List.map_cons, dropRun?, hr]
      split
      · exact ih (fun s hs => hrun s (List.mem_cons_of_mem r hs)) xs
      · rfl

theorem cutAtRun?_map {run : List α} (hrun : ∀ r ∈ run, Keeps f r) (xs : List α) :
    cutAtRun? run (xs.map f) =
      (cutAtRun? run xs).map fun found => (found.1.map f, found.2.map f) := by
  induction xs with
  | nil =>
    simp only [List.map_nil, cutAtRun?]
    split <;> rfl
  | cons x xs ih =>
    have hdrop := dropRun?_map hrun (x :: xs)
    simp only [List.map_cons] at hdrop ⊢
    simp only [cutAtRun?, hdrop, ih]
    cases dropRun? run (x :: xs) with
    | none => cases cutAtRun? run xs <;> rfl
    | some after => rfl

end Map

/-! ## §2 The case of letters -/

/-- What gives the same for each of the twenty-six letters in either case does not look at the case
of letters at all. -/
theorem apply_toLower {β : Type} (g : Char → β)
    (hg : ∀ n < 26, g (Char.ofNat ('a'.toNat + n)) = g (Char.ofNat ('A'.toNat + n))) (c : Char) :
    g c.toLower = g c := by
  by_cases hupper : c.isUpper = true
  · have hrange := toNat_of_isUpper hupper
    have ha : 'a'.toNat = 0x61 := rfl
    have hA : 'A'.toNat = 0x41 := rfl
    -- the place of the letter in the alphabet
    obtain ⟨n, hn⟩ : ∃ n, c.toNat = 'A'.toNat + n := ⟨c.toNat - 'A'.toNat, by omega⟩
    have hsmall : c.toLower = Char.ofNat ('a'.toNat + n) := by
      rw [Char.toLower_eq_of_isUpper hupper, hn]
      congr 1
      omega
    have hlarge : c = Char.ofNat ('A'.toNat + n) := by rw [← hn, Char.ofNat_toNat]
    rw [hsmall, hg n (by omega), ← hlarge]
  · rw [Char.toLower_eq_of_not_isUpper hupper]

/-- The same holds of the map that makes letters capital. -/
theorem apply_toUpper {β : Type} (g : Char → β)
    (hg : ∀ n < 26, g (Char.ofNat ('a'.toNat + n)) = g (Char.ofNat ('A'.toNat + n))) (c : Char) :
    g c.toUpper = g c := by
  calc g c.toUpper
      = g c.toUpper.toLower := (apply_toLower g hg c.toUpper).symm
    _ = g c.toLower := by rw [Char.toLower_toUpper_eq_toLower]
    _ = g c := apply_toLower g hg c

/-- No letter becomes a character that is none. -/
theorem keeps_toLower {sep : Char} (hsep : sep.isAlpha = false) : Keeps Char.toLower sep := by
  intro c
  by_cases hupper : c.isUpper = true
  · have halpha : c.isAlpha = true := by simp [Char.isAlpha, hupper]
    have hsmall : c.toLower.isAlpha = c.isAlpha := apply_toLower Char.isAlpha (by decide) c
    constructor
    · rintro rfl
      rw [hsmall, halpha] at hsep
      cases hsep
    · rintro rfl
      rw [halpha] at hsep
      cases hsep
  · rw [Char.toLower_eq_of_not_isUpper hupper]

theorem isBlank_toLower (c : Char) : isBlank c.toLower = isBlank c :=
  apply_toLower isBlank (by decide) c

theorem digitValue?_toLower (c : Char) : digitValue? c.toLower = digitValue? c :=
  apply_toLower digitValue? (by decide) c

theorem trim_lower (cs : List Char) : trim (lower cs) = lower (trim cs) :=
  stripBoth_map isBlank_toLower cs

theorem trim_upper (cs : List Char) : trim (upper cs) = upper (trim cs) :=
  stripBoth_map (apply_toUpper isBlank (by decide)) cs

theorem upperText_upperText (s : String) : upperText (upperText s) = upperText s := by
  have htwice : Char.toUpper ∘ Char.toUpper = Char.toUpper := funext Char.toUpper_toUpper_eq_toUpper
  simp [upperText, upper, htwice]

theorem cutAt_lower {sep : Char} (hsep : sep.isAlpha = false) (cs : List Char) :
    cutAt sep (lower cs) = (lower (cutAt sep cs).1, (cutAt sep cs).2.map lower) :=
  cutAt_map (keeps_toLower hsep) cs

theorem pieces_lower {sep : Char} (hsep : sep.isAlpha = false) (cs : List Char) :
    pieces sep (lower cs) = (pieces sep cs).map lower :=
  pieces_map (keeps_toLower hsep) cs

theorem keeps_toLower_of_mem {run : List Char} (hrun : run.any Char.isAlpha = false) :
    ∀ c ∈ run, Keeps Char.toLower c := by
  intro c hc
  apply keeps_toLower
  simpa using List.any_eq_false.mp hrun c hc

theorem dropRun?_lower {run : List Char} (hrun : run.any Char.isAlpha = false) (cs : List Char) :
    dropRun? run (lower cs) = (dropRun? run cs).map lower :=
  dropRun?_map (keeps_toLower_of_mem hrun) cs

theorem cutAtRun?_lower {run : List Char} (hrun : run.any Char.isAlpha = false) (cs : List Char) :
    cutAtRun? run (lower cs) =
      (cutAtRun? run cs).map fun found => (lower found.1, lower found.2) :=
  cutAtRun?_map (keeps_toLower_of_mem hrun) cs

theorem all_lower {p : Char → Bool} (hp : ∀ c, p c.toLower = p c) (cs : List Char) :
    (lower cs).all p = cs.all p := by
  have hcomp : p ∘ Char.toLower = p := funext hp
  rw [lower, List.all_map, hcomp]

theorem isEmpty_lower (cs : List Char) : (lower cs).isEmpty = cs.isEmpty :=
  List.isEmpty_map

theorem mapM_map_lower {β : Type} {read : List Char → Option β}
    (hread : ∀ cs, read (lower cs) = read cs) (parts : List (List Char)) :
    (parts.map lower).mapM read = parts.mapM read := by
  have hcomp : read ∘ lower = read := funext hread
  rw [List.mapM_map, hcomp]

/-- Two texts that agree but for the case of letters agree in small letters. -/
theorem sameIgnoringCase_iff {s t : String} :
    sameIgnoringCase s t = true ↔ lower s.toList = lower t.toList := by
  rw [sameIgnoringCase, beq_iff_eq, lowerText, lowerText, String.ofList_inj]

/-! ## §3 Numbers -/

/-- A run of digits denotes the same number in either case. -/
theorem digitsValue_lower (base : Nat) (cs : List Char) :
    digitsValue base (lower cs) = digitsValue base cs := by
  simp only [digitsValue, lower, List.foldl_map, digitValue?_toLower]

theorem natOfDigits?_lower (cs : List Char) : natOfDigits? (lower cs) = natOfDigits? cs := by
  have hdigit : ∀ c : Char, c.toLower.isDigit = c.isDigit :=
    apply_toLower Char.isDigit (by decide)
  simp only [natOfDigits?, isEmpty_lower, all_lower hdigit, digitsValue_lower]

theorem boundedNat?_lower (bound : Nat) (cs : List Char) :
    boundedNat? bound (lower cs) = boundedNat? bound cs := by
  have hdigits : ∀ ds, digitsBelow? bound (lower ds) = digitsBelow? bound ds := by
    intro ds
    rw [digitsBelow?, natOfDigits?_lower]
    rfl
  by_cases hplus : ∃ rest, cs = '+' :: rest
  · obtain ⟨rest, rfl⟩ := hplus
    show boundedNat? bound ('+' :: lower rest) = _
    rw [boundedNat?_plus, boundedNat?_plus, hdigits]
  · -- no letter becomes a plus sign
    have hnone : ∀ rest, cs ≠ '+' :: rest := fun rest hcs => hplus ⟨rest, hcs⟩
    have hsmall : ∀ rest, lower cs ≠ '+' :: rest := by
      intro rest hrest
      obtain ⟨c, more, rfl, hc, -⟩ := List.map_eq_cons_iff.mp hrest
      rw [(keeps_toLower (by decide) c).mp hc] at hnone
      exact hnone more rfl
    rw [boundedNat?_of_no_plus hsmall, boundedNat?_of_no_plus hnone, hdigits]

end DeviceAccess.Text
