import DeviceAccess.Text.Cut

/-!
# Laws of cutting

What the functions that cut texts say about the text that they were given.

- A run is dropped from an end exactly if the text is the run joined to what is left.
- The pieces of a text determine it: joined with the separator they give it back.
- A text is cut at the first separator (`cutAt_eq_iff`), and at the first occurrence of a run
  (`cutAtRun?_eq_some_iff`).
- **Suffix law**: the pieces of one text are the last pieces of another exactly if the texts are the
  same or the longer one ends in the separator and the shorter. For names of hosts this is the step
  from comparing characters to comparing labels.
-/

namespace DeviceAccess.Text

variable {α : Type}

/-! ## §1 Joining -/

theorem joinWith_eq_intercalate (sep : List α) (xs : List (List α)) :
    joinWith sep xs = sep.intercalate xs := by
  induction xs with
  | nil => rfl
  | cons x rest ih =>
    cases rest with
    | nil => simp [joinWith]
    | cons y rest => simp [joinWith, ih]

theorem joinWith_append (sep : List α) {xs ys : List (List α)} (hxs : xs ≠ []) (hys : ys ≠ []) :
    joinWith sep (xs ++ ys) = joinWith sep xs ++ sep ++ joinWith sep ys := by
  induction xs with
  | nil => exact absurd rfl hxs
  | cons x rest ih =>
    cases rest with
    | nil =>
      cases ys with
      | nil => exact absurd rfl hys
      | cons y ys => simp [joinWith]
    | cons y rest =>
      have hrest := ih (List.cons_ne_nil y rest)
      simp only [List.cons_append] at hrest ⊢
      simp only [joinWith, hrest, List.append_assoc]

/-- A function that writes one element after the other, with a separator between, joins what it
writes. -/
theorem eq_joinWith_map {β : Type} {writeAll : List β → List α} {write : β → List α} {sep : List α}
    (hnil : writeAll [] = []) (hone : ∀ x, writeAll [x] = write x)
    (hmore : ∀ x y rest, writeAll (x :: y :: rest) = write x ++ sep ++ writeAll (y :: rest))
    (xs : List β) : writeAll xs = joinWith sep (xs.map write) := by
  induction xs with
  | nil => exact hnil
  | cons x rest ih =>
    cases rest with
    | nil => exact hone x
    | cons y rest =>
      rw [hmore, ih]
      rfl

/-- What is joined begins with the first part. -/
theorem exists_joinWith_cons (sep x : List α) (xs : List (List α)) :
    ∃ more, joinWith sep (x :: xs) = x ++ more := by
  cases xs with
  | nil => exact ⟨[], (List.append_nil x).symm⟩
  | cons y rest => exact ⟨sep ++ joinWith sep (y :: rest), List.append_assoc ..⟩

/-- What is joined stands in one of the parts or in the separator. -/
theorem mem_joinWith {sep : List α} {parts : List (List α)} {x : α}
    (hx : x ∈ joinWith sep parts) : x ∈ sep ∨ ∃ part ∈ parts, x ∈ part := by
  induction parts with
  | nil => cases hx
  | cons part rest ih =>
    cases rest with
    | nil => exact .inr ⟨part, List.mem_cons_self, hx⟩
    | cons next rest =>
      simp only [joinWith, List.mem_append] at hx
      rcases hx with (hpart | hsep) | hrest
      · exact .inr ⟨part, List.mem_cons_self, hpart⟩
      · exact .inl hsep
      · rcases ih hrest with hsep | ⟨other, hother, hmem⟩
        · exact .inl hsep
        · exact .inr ⟨other, List.mem_cons_of_mem part hother, hmem⟩

theorem mem_joinWith_of_mem {sep : List α} {parts : List (List α)} {part : List α} {x : α}
    (hpart : part ∈ parts) (hx : x ∈ part) : x ∈ joinWith sep parts := by
  induction parts with
  | nil => cases hpart
  | cons first rest ih =>
    cases rest with
    | nil => rwa [List.mem_singleton.mp hpart] at hx
    | cons next rest =>
      simp only [joinWith, List.mem_append]
      rcases List.mem_cons.mp hpart with rfl | hpart
      · exact .inl (.inl hx)
      · exact .inr (ih hpart)

/-! ## §2 Pieces -/

variable [BEq α]

theorem pieces_eq_splitOn (sep : α) (xs : List α) : pieces sep xs = xs.splitOn sep := by
  induction xs with
  | nil => simp [pieces]
  | cons x xs ih =>
    rw [List.splitOn_cons_eq_if_modifyHead, ← ih]
    simp only [pieces]
    split
    · rfl
    · cases hpieces : pieces sep xs with
      | nil => exact absurd (ih.symm.trans hpieces) (List.splitOn_ne_nil sep xs)
      | cons piece rest => rfl

theorem pieces_ne_nil (sep : α) (xs : List α) : pieces sep xs ≠ [] := by
  rw [pieces_eq_splitOn]
  exact List.splitOn_ne_nil sep xs

variable [LawfulBEq α]

/-- Joining undoes cutting. -/
theorem joinWith_pieces (sep : α) (xs : List α) : joinWith [sep] (pieces sep xs) = xs := by
  rw [joinWith_eq_intercalate, pieces_eq_splitOn, List.intercalate_splitOn]

theorem mem_of_mem_pieces {sep : α} {xs piece : List α} (hpiece : piece ∈ pieces sep xs) {x : α}
    (hx : x ∈ piece) : x ∈ xs := by
  rw [← joinWith_pieces sep xs]
  exact mem_joinWith_of_mem hpiece hx

theorem pieces_append_cons (sep : α) (front back : List α) :
    pieces sep (front ++ sep :: back) = pieces sep front ++ pieces sep back := by
  simp only [pieces_eq_splitOn, List.splitOn_append_cons_self]

/-- Cutting undoes joining, if the separator stands in no part. -/
theorem pieces_joinWith {sep : α} {parts : List (List α)} (hne : parts ≠ [])
    (hparts : ∀ part ∈ parts, sep ∉ part) : pieces sep (joinWith [sep] parts) = parts := by
  rw [joinWith_eq_intercalate, pieces_eq_splitOn, List.splitOn_intercalate sep hparts hne]

/-- **Suffix law**: the pieces of `ys` are the last pieces of `xs` exactly if `xs` is `ys` or ends
in the separator followed by `ys`. -/
theorem pieces_suffix_iff (sep : α) (xs ys : List α) :
    pieces sep ys <:+ pieces sep xs ↔ xs = ys ∨ ∃ front, xs = front ++ sep :: ys := by
  constructor
  · rintro ⟨leading, hpieces⟩
    have hxs : xs = joinWith [sep] (leading ++ pieces sep ys) := by
      rw [hpieces, joinWith_pieces]
    by_cases hleading : leading = []
    · subst hleading
      left
      rw [hxs, List.nil_append, joinWith_pieces]
    · right
      refine ⟨joinWith [sep] leading, ?_⟩
      rw [hxs, joinWith_append [sep] hleading (pieces_ne_nil sep ys), joinWith_pieces]
      simp
  · rintro (rfl | ⟨front, rfl⟩)
    · exact List.suffix_rfl
    · rw [pieces_append_cons]
      exact List.suffix_append _ _

/-! ## §3 The first separator -/

/-- What stands from a separator on, if there is one. -/
def fromCut (sep : α) : Option (List α) → List α
  | none => []
  | some back => sep :: back

theorem not_mem_fst_cutAt (sep : α) (xs : List α) : sep ∉ (cutAt sep xs).1 := by
  induction xs with
  | nil => exact List.not_mem_nil
  | cons x xs ih =>
    unfold cutAt
    split
    · exact List.not_mem_nil
    · rename_i hx
      rw [List.mem_cons, not_or]
      exact ⟨fun hsep => hx (beq_iff_eq.mpr hsep.symm), ih⟩

theorem fst_cutAt_append (sep : α) (xs : List α) :
    (cutAt sep xs).1 ++ fromCut sep (cutAt sep xs).2 = xs := by
  induction xs with
  | nil => rfl
  | cons x xs ih =>
    unfold cutAt
    split
    · rename_i hx
      rw [beq_iff_eq.mp hx]
      rfl
    · exact congrArg (x :: ·) ih

omit [LawfulBEq α] in
theorem fst_cutAt (sep : α) (xs : List α) : (cutAt sep xs).1 = xs.takeWhile (· != sep) := by
  induction xs with
  | nil => rfl
  | cons x xs ih =>
    by_cases hx : (x == sep) = true
    · simp [cutAt, bne, hx]
    · simp [cutAt, bne, hx, ih]

theorem cutAt_append {sep : α} {front : List α} (h : sep ∉ front) (back : Option (List α)) :
    cutAt sep (front ++ fromCut sep back) = (front, back) := by
  induction front with
  | nil => cases back <;> simp [fromCut, cutAt]
  | cons x front ih =>
    rw [List.mem_cons, not_or] at h
    have hx : (x == sep) = false := beq_false_of_ne (Ne.symm h.1)
    simp [cutAt, hx, ih h.2]

/-- What stands before the first separator. -/
theorem takeWhile_append_cons {sep : α} {front : List α} (h : sep ∉ front) (back : List α) :
    (front ++ sep :: back).takeWhile (· != sep) = front := by
  have hcut : cutAt sep (front ++ sep :: back) = (front, some back) := cutAt_append h (some back)
  rw [← fst_cutAt, hcut]

/-- A list is cut at its first separator: none stands before it. -/
theorem cutAt_eq_iff {sep : α} {xs front : List α} {back : Option (List α)} :
    cutAt sep xs = (front, back) ↔ sep ∉ front ∧ xs = front ++ fromCut sep back := by
  constructor
  · intro hcut
    have hfront := not_mem_fst_cutAt sep xs
    have hxs := fst_cutAt_append sep xs
    rw [hcut] at hfront hxs
    exact ⟨hfront, hxs.symm⟩
  · rintro ⟨hfront, rfl⟩
    exact cutAt_append hfront back

theorem cutAt_of_not_mem {sep : α} {xs : List α} (h : sep ∉ xs) : cutAt sep xs = (xs, none) :=
  cutAt_eq_iff.mpr ⟨h, (List.append_nil xs).symm⟩

/-! ## §4 Runs at an end -/

theorem dropRun?_eq_some_iff {run xs rest : List α} :
    dropRun? run xs = some rest ↔ xs = run ++ rest := by
  induction run generalizing xs with
  | nil => simp [dropRun?]
  | cons r run ih =>
    cases xs with
    | nil => simp [dropRun?]
    | cons x xs =>
      by_cases hrx : r = x
      · subst hrx
        simp [dropRun?, ih]
      · have hne : ¬x = r := fun h => hrx h.symm
        simp [dropRun?, hrx, hne]

theorem dropFinalRun?_eq_some_iff {run xs front : List α} :
    dropFinalRun? run xs = some front ↔ xs = front ++ run := by
  unfold dropFinalRun?
  rw [Option.map_eq_some_iff]
  constructor
  · rintro ⟨rest, hdrop, rfl⟩
    have hreverse := dropRun?_eq_some_iff.mp hdrop
    rw [← List.reverse_reverse xs, hreverse]
    simp
  · rintro rfl
    exact ⟨front.reverse, dropRun?_eq_some_iff.mpr (by simp), by simp⟩

/-! ## §5 The first run -/

/-- The list is cut at the first occurrence of a run: any other one has as much before it. -/
structure FirstCut (run xs front back : List α) : Prop where
  joined : xs = front ++ run ++ back
  first : ∀ earlier later, xs = earlier ++ run ++ later → front.length ≤ earlier.length

omit [BEq α] [LawfulBEq α] in
/-- A run that is not met before its last member ends at the first occurrence. -/
theorem FirstCut.of_not_infix {run front : List α} (h : ¬run <:+: front ++ run.dropLast)
    (back : List α) : FirstCut run (front ++ run ++ back) front back := by
  refine ⟨rfl, fun earlier later hxs => ?_⟩
  refine Nat.le_of_not_lt fun hshort => ?_
  have hrun : run ≠ [] := fun hnil => h (hnil ▸ List.nil_infix)
  have hdrop : run.dropLast ++ [run.getLast hrun] = run := List.dropLast_concat_getLast hrun
  have hbefore : front ++ run.dropLast <+: front ++ run ++ back := by
    refine ⟨run.getLast hrun :: back, ?_⟩
    rw [List.append_cons, List.append_assoc front, hdrop]
  have hearlier : earlier ++ run <+: front ++ run ++ back := ⟨later, hxs.symm⟩
  have hlength : (earlier ++ run).length ≤ (front ++ run.dropLast).length := by
    have hpos : 0 < run.length := List.length_pos_iff.mpr hrun
    rw [List.length_append, List.length_append, List.length_dropLast]
    omega
  obtain ⟨more, hmore⟩ := List.prefix_of_prefix_length_le hearlier hbefore hlength
  exact h ⟨earlier, more, hmore⟩

omit [BEq α] [LawfulBEq α] in
/-- A run whose first member does not occur before it ends at the first occurrence. -/
theorem FirstCut.of_not_mem {x : α} {run front : List α} (h : x ∉ front) (back : List α) :
    FirstCut (x :: run) (front ++ x :: run ++ back) front back := by
  refine ⟨rfl, fun earlier later hxs => ?_⟩
  refine Nat.le_of_not_lt fun hshort => ?_
  -- an earlier occurrence would begin inside of what stands before
  have hearlier : earlier ++ [x] <+: front ++ x :: run ++ back := by
    rw [hxs]
    exact ⟨run ++ later, by simp⟩
  have hfront : front <+: front ++ x :: run ++ back := ⟨x :: run ++ back, by simp⟩
  have hlength : (earlier ++ [x]).length ≤ front.length := by
    rw [List.length_append]
    exact hshort
  have hinside := List.prefix_of_prefix_length_le hearlier hfront hlength
  exact h (hinside.subset (List.mem_append_right earlier List.mem_cons_self))

omit [BEq α] [LawfulBEq α] in
theorem FirstCut.cons {run xs front back : List α} {x : α} (h : FirstCut run xs front back)
    (hx : ∀ later, x :: xs ≠ run ++ later) : FirstCut run (x :: xs) (x :: front) back := by
  refine ⟨by rw [h.joined]; rfl, fun earlier later hxs => ?_⟩
  cases earlier with
  | nil => exact absurd hxs (hx later)
  | cons y earlier => exact Nat.succ_le_succ (h.first earlier later (List.cons.inj hxs).2)

omit [BEq α] [LawfulBEq α] in
theorem FirstCut.of_cons {run xs front back : List α} {x : α}
    (h : FirstCut run (x :: xs) (x :: front) back) : FirstCut run xs front back := by
  refine ⟨(List.cons.inj h.joined).2, fun earlier later hxs => ?_⟩
  exact Nat.le_of_succ_le_succ (h.first (x :: earlier) later (congrArg (x :: ·) hxs))

theorem dropRun?_eq_none_iff {run xs : List α} :
    dropRun? run xs = none ↔ ∀ rest, xs ≠ run ++ rest := by
  simp only [Option.eq_none_iff_forall_ne_some, ne_eq, dropRun?_eq_some_iff]

/-- **The first run**: a list is cut at the first occurrence of a run. -/
theorem cutAtRun?_eq_some_iff {run xs front back : List α} :
    cutAtRun? run xs = some (front, back) ↔ FirstCut run xs front back := by
  induction xs generalizing front with
  | nil =>
    constructor
    · intro hcut
      unfold cutAtRun? at hcut
      split at hcut
      · rename_i hrun
        cases hcut
        refine ⟨?_, fun _ _ _ => Nat.zero_le _⟩
        rw [List.isEmpty_iff.mp hrun]
        rfl
      · cases hcut
    · intro hcut
      obtain ⟨hfront, rfl⟩ := List.append_eq_nil_iff.mp hcut.joined.symm
      obtain ⟨rfl, rfl⟩ := List.append_eq_nil_iff.mp hfront
      rfl
  | cons x xs ih =>
    unfold cutAtRun?
    cases hdrop : dropRun? run (x :: xs) with
    | some after =>
      -- the run stands right at the front
      have hxs : x :: xs = [] ++ run ++ after := dropRun?_eq_some_iff.mp hdrop
      simp only [Option.some.injEq, Prod.mk.injEq]
      constructor
      · rintro ⟨rfl, rfl⟩
        exact ⟨hxs, fun _ _ _ => Nat.zero_le _⟩
      · intro hcut
        obtain rfl : front = [] :=
          List.length_eq_zero_iff.mp (Nat.le_zero.mp (hcut.first [] after hxs))
        exact ⟨rfl, List.append_cancel_left (hxs.symm.trans hcut.joined)⟩
    | none =>
      have hlater := dropRun?_eq_none_iff.mp hdrop
      simp only [Option.map_eq_some_iff]
      constructor
      · rintro ⟨⟨before, after⟩, hcut, hsame⟩
        cases hsame
        exact (ih.mp hcut).cons hlater
      · intro hcut
        cases front with
        | nil => exact absurd hcut.joined (hlater back)
        | cons y front =>
          obtain ⟨rfl, -⟩ := List.cons.inj hcut.joined
          exact ⟨(front, back), ih.mpr hcut.of_cons, rfl⟩

theorem cutAtRun?_eq_none_iff {run xs : List α} : cutAtRun? run xs = none ↔ ¬run <:+: xs := by
  induction xs with
  | nil => simp [cutAtRun?]
  | cons x xs ih =>
    unfold cutAtRun?
    rw [List.infix_cons_iff, not_or, ← ih]
    cases hdrop : dropRun? run (x :: xs) with
    | some after =>
      have hfront : run <+: x :: xs := ⟨after, (dropRun?_eq_some_iff.mp hdrop).symm⟩
      simp [hfront]
    | none =>
      have hlater := dropRun?_eq_none_iff.mp hdrop
      have hfront : ¬run <+: x :: xs := fun ⟨after, hafter⟩ => hlater after hafter.symm
      simp [hfront]

end DeviceAccess.Text
