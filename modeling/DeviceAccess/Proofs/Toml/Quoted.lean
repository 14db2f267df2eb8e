import Mathlib
import DeviceAccess.Proofs.Text.Case
import DeviceAccess.Toml.Printer

/-!
# Quoted texts read back

A text reads back from each form in which it is written, whatever characters it has: controls by
their numbers, quotes by escapes, or as they are where at most two stand together.

- `basic?_escapeBasic`, `literal?_append`, `longBasic?_escapeLongBasic` and `longLiteral?_append`
  are the laws of the four forms, behind the opening quotes.
- `quoted?_write_formOfText` puts them together for the form that is chosen for a text.
-/

namespace DeviceAccess.Toml

open Text

variable {c : Char} {cs rest : List Char}

/-! ## §1 Characters -/

theorem isPlain_of_not_needsNumber (h : needsNumber c = false) (hline : c ≠ '\n') :
    isPlain c = true := by
  simp only [needsNumber, Bool.or_eq_false_iff, Bool.and_eq_false_iff, decide_eq_false_iff_not,
    bne_eq_false_iff_eq, beq_eq_false_iff_ne] at h
  simp only [isPlain, Bool.or_eq_true, Bool.and_eq_true, decide_eq_true_eq, beq_iff_eq,
    bne_iff_ne]
  obtain ⟨(hhigh | htab) | hsame, hdelete⟩ := h
  · exact .inr ⟨not_lt.mp hhigh, hdelete⟩
  · exact .inl htab
  · exact absurd hsame hline

/-- A text that is read as one character between double quotes. -/
inductive IsEscape : List Char → Char → Prop where
  | letter {l c : Char} (hmeans : escaped? l = some c) (hnumber : l ≠ 'u' ∧ l ≠ 'U')
      (hline : isGap l = false ∧ l ≠ '\n' ∧ l ≠ '\r') : IsEscape ['\\', l] c
  | number {d₁ d₂ d₃ d₄ c : Char} (hmeans : numbered? [d₁, d₂, d₃, d₄] = some c) :
      IsEscape ['\\', 'u', d₁, d₂, d₃, d₄] c

theorem IsEscape.exists_cons {w : List Char} (h : IsEscape w c) : ∃ more, w = '\\' :: more := by
  cases h <;> exact ⟨_, rfl⟩

theorem isEscape_quote : IsEscape ['\\', '"'] '"' := .letter rfl (by decide) (by decide)

theorem isEscape_lineFeed : IsEscape ['\\', 'n'] '\n' := .letter rfl (by decide) (by decide)

/-- The number of a control has four digits, and they denote the control. -/
theorem isEscape_capitalHexText (h : needsNumber c = true) :
    IsEscape (['\\', 'u'] ++ capitalHexText 4 c.toNat) c := by
  have hlow : c.toNat < 128 := by
    simp only [needsNumber, Bool.or_eq_true, Bool.and_eq_true, decide_eq_true_eq, beq_iff_eq] at h
    omega
  obtain ⟨hlength, hnumber⟩ := forall_char_lt 128
    (P := fun c => needsNumber c = true →
      (capitalHexText 4 c.toNat).length = 4 ∧ numbered? (capitalHexText 4 c.toNat) = some c)
    (by decide +kernel) hlow h
  match capitalHexText 4 c.toNat, hlength, hnumber with
  | [_, _, _, _], _, hnumber => exact .number hnumber

/-- A character is written as an escape, or as it is if it may stand so. -/
theorem isEscape_or_plain (c : Char) :
    IsEscape (escapeChar c) c ∨
      (escapeChar c = [c] ∧ needsNumber c = false ∧ c ≠ '\\' ∧ c ≠ '\r') := by
  unfold escapeChar
  split
  -- the five characters with a letter of their own
  · exact .inl (.letter rfl (by decide) (by decide))
  · exact .inl (.letter rfl (by decide) (by decide))
  · exact .inl (.letter rfl (by decide) (by decide))
  · exact .inl (.letter rfl (by decide) (by decide))
  · exact .inl (.letter rfl (by decide) (by decide))
  · rename_i hreturn hbackslash
    cases hneeds : needsNumber c with
    | true => exact .inl (isEscape_capitalHexText hneeds)
    | false => exact .inr ⟨rfl, rfl, hbackslash, hreturn⟩

/-! ## §2 Double quotes on one line -/

-- the readers are opened at the characters that they begin with
attribute [local simp] literal? basic? longLiteral? longBasic?

theorem basic?_escape {w : List Char} (h : IsEscape w c) (rest : List Char) :
    basic? (w ++ rest) = prepend c (basic? rest) := by
  cases h with
  | letter hmeans hnumber hline => simp [hmeans, hnumber]
  | number hmeans => simp [hmeans]

theorem basic?_plain (hplain : isPlain c = true) (hquote : c ≠ '"') (hbackslash : c ≠ '\\')
    (rest : List Char) : basic? (c :: rest) = prepend c (basic? rest) := by
  simp [hplain, hbackslash]

/-- What is written for a character: an escape, or the character itself if it may stand so. -/
theorem escapeBasic_cons (c : Char) (cs : List Char) :
    ∃ w, escapeBasic (c :: cs) = w ++ escapeBasic cs ∧
      (IsEscape w c ∨ (w = [c] ∧ isPlain c = true ∧ c ≠ '"' ∧ c ≠ '\\')) := by
  refine ⟨_, List.flatMap_cons, ?_⟩
  by_cases hquote : c = '"'
  · subst hquote
    exact .inl isEscape_quote
  by_cases hline : c = '\n'
  · subst hline
    exact .inl isEscape_lineFeed
  simp only [beq_iff_eq, hquote, hline, if_false]
  rcases isEscape_or_plain c with hescape | ⟨hsame, hneeds, hbackslash, -⟩
  · exact .inl hescape
  · exact .inr ⟨hsame, isPlain_of_not_needsNumber hneeds hline, hquote, hbackslash⟩

theorem basic?_escapeBasic (cs rest : List Char) :
    basic? (escapeBasic cs ++ '"' :: rest) = some (cs, rest) := by
  induction cs with
  | nil => simp [escapeBasic]
  | cons c cs ih =>
    obtain ⟨w, hwritten, hw⟩ := escapeBasic_cons c cs
    rw [hwritten, List.append_assoc]
    rcases hw with hescape | ⟨rfl, hplain, hquote, hbackslash⟩
    · rw [basic?_escape hescape, ih]
      rfl
    · rw [List.singleton_append, basic?_plain hplain hquote hbackslash, ih]
      rfl

/-! ## §3 Single quotes on one line -/

theorem literal?_append (h : ∀ c ∈ cs, isPlain c = true ∧ c ≠ '\'') (rest : List Char) :
    literal? (cs ++ '\'' :: rest) = some (cs, rest) := by
  induction cs with
  | nil => simp
  | cons c cs ih =>
    obtain ⟨hplain, hquote⟩ := h c List.mem_cons_self
    have hrest := ih fun d hd => h d (List.mem_cons_of_mem c hd)
    simp [hplain, hrest, prepend]

/-! ## §4 Three double quotes -/

theorem longBasic?_escape {w : List Char} (h : IsEscape w c) (rest : List Char) :
    longBasic? false (w ++ rest) = prepend c (longBasic? false rest) := by
  cases h with
  | @letter l _ hmeans hnumber hline =>
    have hblank : startsBlankLine (l :: rest) = false := by
      simp [startsBlankLine, hline, behindLineEnd?]
    simp [hmeans, hnumber, hblank]
  | number hmeans => simp [hmeans]

theorem longBasic?_lineFeed (rest : List Char) :
    longBasic? false ('\n' :: rest) = prepend '\n' (longBasic? false rest) := by
  simp

theorem longBasic?_plain (hplain : isPlain c = true) (hquote : c ≠ '"') (hbackslash : c ≠ '\\')
    (rest : List Char) : longBasic? false (c :: rest) = prepend c (longBasic? false rest) := by
  have hcontrol : c ≠ '\n' ∧ c ≠ '\r' := by
    constructor <;> rintro rfl <;> exact absurd hplain (by decide)
  simp [hplain, hquote, hbackslash, hcontrol]

/-- A quote that is not followed by two more is read as it is. -/
theorem longBasic?_quote {rest : List Char} (h : ∀ more, rest ≠ '"' :: '"' :: more) :
    longBasic? false ('"' :: rest) = prepend '"' (longBasic? false rest) := by
  rw [longBasic?.eq_def]
  split <;> simp_all
  rename_i hsame
  obtain ⟨rfl, rfl⟩ := hsame
  simp [isPlain]

/-- What is written for a character other than a quote, or for a third quote, begins with none. -/
theorem escapeLongBasic_cons {run : Nat} (h : c ≠ '"' ∨ run = 2) (cs : List Char) :
    ∃ x more, escapeLongBasic run (c :: cs) = x :: more ∧ x ≠ '"' := by
  by_cases hquote : c = '"'
  · subst hquote
    obtain rfl : run = 2 := h.resolve_left (by simp)
    exact ⟨'\\', _, rfl, by decide⟩
  by_cases hline : c = '\n'
  · subst hline
    exact ⟨'\n', _, rfl, by decide⟩
  have hwritten : escapeLongBasic run (c :: cs) = escapeChar c ++ escapeLongBasic 0 cs := by
    simp [escapeLongBasic, hquote, hline]
  rw [hwritten]
  rcases isEscape_or_plain c with hescape | ⟨hsame, -⟩
  · obtain ⟨more, hmore⟩ := hescape.exists_cons
    exact ⟨'\\', _, by rw [hmore]; rfl, by decide⟩
  · exact ⟨c, _, by rw [hsame]; rfl, hquote⟩

/-- The three quotes that close a text, with the end of its line. -/
def closing (quote : Char) (rest : List Char) : List Char :=
  quote :: quote :: quote :: '\n' :: rest

/-- Behind a quote that is written as it is, two more stand only if they close the text or a last
quote stands before those that do. -/
theorem escapeLongBasic_append_ne {run : Nat} (hrun : run = 1 ∨ run = 2) (hcs : cs ≠ [])
    (hlast : run = 1 → cs ≠ ['"']) (rest more : List Char) :
    escapeLongBasic run cs ++ closing '"' rest ≠ '"' :: '"' :: more := by
  obtain ⟨c, behind, rfl⟩ := List.exists_cons_of_ne_nil hcs
  by_cases hfree : c ≠ '"' ∨ run = 2
  · obtain ⟨x, written, hwritten, hx⟩ := escapeLongBasic_cons hfree behind
    simp [hwritten, hx]
  obtain ⟨rfl, htwo⟩ : c = '"' ∧ run ≠ 2 := by simpa using hfree
  obtain rfl : run = 1 := hrun.resolve_right htwo
  -- the second quote of a run: the text goes on, and a third one would be escaped
  have hbehind : behind ≠ [] := fun h => hlast rfl (by rw [h])
  obtain ⟨d, later, rfl⟩ := List.exists_cons_of_ne_nil hbehind
  obtain ⟨x, written, hwritten, hx⟩ := escapeLongBasic_cons (.inr rfl : d ≠ '"' ∨ 2 = 2) later
  have hsecond : escapeLongBasic 1 ('"' :: d :: later) = '"' :: x :: written := by
    rw [← hwritten]
    rfl
  simp [hsecond, hx]

theorem longBasic?_escapeLongBasic {run : Nat} (hrun : run ≤ 2) (cs rest : List Char) :
    longBasic? false (escapeLongBasic run cs ++ closing '"' rest) = some (cs, '\n' :: rest) := by
  induction cs generalizing run with
  | nil => simp [escapeLongBasic, closing]
  | cons c cs ih =>
    by_cases hquote : c = '"'
    · subst hquote
      by_cases htwo : run = 2
      · subst htwo
        have hthird : escapeLongBasic 2 ('"' :: cs) = ['\\', '"'] ++ escapeLongBasic 0 cs := rfl
        rw [hthird, List.append_assoc, longBasic?_escape isEscape_quote, ih (by omega)]
        rfl
      have hwritten : escapeLongBasic run ('"' :: cs) = '"' :: escapeLongBasic (run + 1) cs := by
        simp [escapeLongBasic, htwo]
      rw [hwritten, List.cons_append]
      -- up to two quotes at the end of the text are read with the three that close it
      by_cases hend : cs = []
      · subst hend
        simp [escapeLongBasic, closing]
      by_cases hends : run + 1 = 1 ∧ cs = ['"']
      · obtain ⟨hone, rfl⟩ := hends
        rw [hone]
        simp [escapeLongBasic, closing]
      have hnext := escapeLongBasic_append_ne (by omega) hend (fun h₁ h₂ => hends ⟨h₁, h₂⟩) rest
      rw [longBasic?_quote hnext, ih (by omega)]
      rfl
    by_cases hline : c = '\n'
    · subst hline
      have hwritten : escapeLongBasic run ('\n' :: cs) = '\n' :: escapeLongBasic 0 cs := rfl
      rw [hwritten, List.cons_append, longBasic?_lineFeed, ih (by omega)]
      rfl
    have hwritten : escapeLongBasic run (c :: cs) = escapeChar c ++ escapeLongBasic 0 cs := by
      simp [escapeLongBasic, hquote, hline]
    rw [hwritten, List.append_assoc]
    rcases isEscape_or_plain c with hescape | ⟨hsame, hneeds, hbackslash, -⟩
    · rw [longBasic?_escape hescape, ih (by omega)]
      rfl
    · have hplain := isPlain_of_not_needsNumber hneeds hline
      rw [hsame, List.singleton_append, longBasic?_plain hplain hquote hbackslash, ih (by omega)]
      rfl

/-! ## §5 Three single quotes -/

theorem longLiteral?_plain (hplain : isPlain c = true) (hquote : c ≠ '\'') (rest : List Char) :
    longLiteral? (c :: rest) = prepend c (longLiteral? rest) := by
  have hcontrol : c ≠ '\n' ∧ c ≠ '\r' := by
    constructor <;> rintro rfl <;> exact absurd hplain (by decide)
  simp [hplain, hquote, hcontrol]

theorem longLiteral?_quote {rest : List Char} (h : ∀ more, rest ≠ '\'' :: '\'' :: more) :
    longLiteral? ('\'' :: rest) = prepend '\'' (longLiteral? rest) := by
  rw [longLiteral?.eq_def]
  split <;> simp_all
  rename_i hsame
  obtain ⟨rfl, rfl⟩ := hsame
  simp [isPlain]

theorem longestRun_cons_self (q : Char) (run : Nat) (cs : List Char) :
    longestRun q run (q :: cs) = longestRun q (run + 1) cs := by
  simp [longestRun]

theorem longestRun_cons_of_ne {q : Char} (h : c ≠ q) (run : Nat) (cs : List Char) :
    longestRun q run (c :: cs) = max run (longestRun q 0 cs) := by
  simp [longestRun, h]

theorem le_longestRun (q : Char) (run : Nat) (cs : List Char) : run ≤ longestRun q run cs := by
  induction cs generalizing run with
  | nil => exact le_rfl
  | cons c cs ih =>
    by_cases hc : c = q
    · subst hc
      rw [longestRun_cons_self]
      exact le_trans (Nat.le_succ run) (ih (run + 1))
    · rw [longestRun_cons_of_ne hc]
      exact le_max_left ..

/-- Where no three quotes stand together, two stand behind a quote only if they close the text or a
last quote stands before those that do. -/
theorem append_closing_ne {run : Nat} (hrun : longestRun '\'' (run + 1) cs ≤ 2) (hcs : cs ≠ [])
    (hlast : cs ≠ ['\'']) (rest more : List Char) :
    cs ++ closing '\'' rest ≠ '\'' :: '\'' :: more := by
  match cs, hcs, hlast with
  | [c], _, hlast =>
    have hc : c ≠ '\'' := fun h => hlast (by rw [h])
    simp [hc]
  | c :: d :: later, _, _ =>
    intro hquotes
    obtain ⟨hc, hbehind⟩ := List.cons.inj hquotes
    obtain ⟨hd, -⟩ := List.cons.inj hbehind
    rw [hc, hd, longestRun_cons_self, longestRun_cons_self] at hrun
    have hthree := le_longestRun '\'' (run + 1 + 1 + 1) later
    omega

theorem longLiteral?_append {run : Nat} (hplain : ∀ c ∈ cs, isPlain c = true ∨ c = '\n')
    (hrun : longestRun '\'' run cs ≤ 2) (rest : List Char) :
    longLiteral? (cs ++ closing '\'' rest) = some (cs, '\n' :: rest) := by
  induction cs generalizing run with
  | nil => simp [closing]
  | cons c cs ih =>
    have hmore : ∀ d ∈ cs, isPlain d = true ∨ d = '\n' :=
      fun d hd => hplain d (List.mem_cons_of_mem c hd)
    by_cases hquote : c = '\''
    · subst hquote
      rw [longestRun_cons_self] at hrun
      rw [List.cons_append]
      -- up to two quotes at the end of the text are read with the three that close it
      by_cases hend : cs = []
      · subst hend
        simp [closing]
      by_cases hends : cs = ['\'']
      · subst hends
        simp [closing]
      rw [longLiteral?_quote (append_closing_ne hrun hend hends rest), ih hmore hrun]
      rfl
    rw [longestRun_cons_of_ne hquote] at hrun
    have hbehind := ih hmore (le_trans (le_max_right ..) hrun)
    rw [List.cons_append]
    rcases hplain c List.mem_cons_self with hc | rfl
    · rw [longLiteral?_plain hc hquote, hbehind]
      rfl
    · have hline : ∀ more, longLiteral? ('\n' :: more) = prepend '\n' (longLiteral? more) := by
        simp
      rw [hline, hbehind]
      rfl

/-! ## §6 The form that is chosen -/

theorem quoted?_basic {text : List Char} (h : ∀ more, text ≠ '"' :: '"' :: more) :
    quoted? ('"' :: text) = basic? text := by
  rw [quoted?.eq_def]
  split <;> simp_all

theorem quoted?_literal {text : List Char} (h : ∀ more, text ≠ '\'' :: '\'' :: more) :
    quoted? ('\'' :: text) = literal? text := by
  rw [quoted?.eq_def]
  split <;> simp_all

theorem quoted?_write_basic (cs rest : List Char) :
    quoted? (Form.basic.write cs ++ '\n' :: rest) = some (cs, '\n' :: rest) := by
  have hopen : Form.basic.write cs ++ '\n' :: rest =
      '"' :: (escapeBasic cs ++ '"' :: '\n' :: rest) := by
    simp [Form.write]
  rw [hopen, quoted?_basic, basic?_escapeBasic]
  -- two quotes are an empty text, since what follows is the end of the line
  intro more
  cases cs with
  | nil => simp [escapeBasic]
  | cons c cs =>
    obtain ⟨w, hwritten, hw⟩ := escapeBasic_cons c cs
    rw [hwritten]
    rcases hw with hescape | ⟨rfl, -, hquote, -⟩
    · obtain ⟨behind, rfl⟩ := hescape.exists_cons
      simp
    · simp [hquote]

theorem isPlain_of_fits_literal (h : Form.literal.fits cs = true) :
    ∀ c ∈ cs, isPlain c = true ∧ c ≠ '\'' := by
  simp only [Form.fits, Bool.and_eq_true, Bool.not_eq_true', List.any_eq_false,
    List.contains_eq_mem, decide_eq_false_iff_not] at h
  obtain ⟨⟨hneeds, hquote⟩, hline⟩ := h
  intro c hc
  have hnotLine : c ≠ '\n' := fun hsame => hline (hsame ▸ hc)
  refine ⟨isPlain_of_not_needsNumber (by simpa using hneeds c hc) hnotLine, ?_⟩
  exact fun hsame => hquote (hsame ▸ hc)

theorem quoted?_write_literal (h : Form.literal.fits cs = true) (rest : List Char) :
    quoted? (Form.literal.write cs ++ '\n' :: rest) = some (cs, '\n' :: rest) := by
  have hplain := isPlain_of_fits_literal h
  have hopen : Form.literal.write cs ++ '\n' :: rest =
      '\'' :: (cs ++ '\'' :: '\n' :: rest) := by
    simp [Form.write]
  rw [hopen, quoted?_literal, literal?_append hplain]
  intro more
  cases cs with
  | nil => simp
  | cons c cs => simp [(hplain c List.mem_cons_self).2]

/-- A line end that is put in front of a text is dropped again, and nothing else is. -/
theorem withoutFirstLineEnd_ownLine {written : List Char}
    (h : '\n' ∉ cs → ∀ more, written ≠ '\n' :: more ∧ written ≠ '\r' :: more) :
    withoutFirstLineEnd (Form.write.ownLine cs ++ written) = written := by
  unfold Form.write.ownLine
  split
  · rfl
  · rename_i hnone
    have hne := h (by simpa using hnone)
    match written with
    | [] => rfl
    | c :: behind =>
      obtain ⟨hline, hreturn⟩ := hne behind
      have hc : c ≠ '\n' ∧ c ≠ '\r' := ⟨fun h => hline (by rw [h]), fun h => hreturn (by rw [h])⟩
      simp [withoutFirstLineEnd, behindLineEnd?, hc]

theorem quoted?_write_longBasic (cs rest : List Char) :
    quoted? (Form.longBasic.write cs ++ '\n' :: rest) = some (cs, '\n' :: rest) := by
  have hopen : Form.longBasic.write cs ++ '\n' :: rest =
      '"' :: '"' :: '"' :: (Form.write.ownLine cs ++
        (escapeLongBasic 0 cs ++ closing '"' rest)) := by
    simp [Form.write, closing]
  have hbegin : '\n' ∉ cs → ∀ more, escapeLongBasic 0 cs ++ closing '"' rest ≠ '\n' :: more ∧
      escapeLongBasic 0 cs ++ closing '"' rest ≠ '\r' :: more := by
    intro hnone more
    cases cs with
    | nil => simp [escapeLongBasic, closing]
    | cons c cs =>
      have hline : c ≠ '\n' := fun h => hnone (h ▸ List.mem_cons_self)
      by_cases hquote : c = '"'
      · subst hquote
        simp [escapeLongBasic]
      have hwritten : escapeLongBasic 0 (c :: cs) = escapeChar c ++ escapeLongBasic 0 cs := by
        simp [escapeLongBasic, hquote, hline]
      rw [hwritten]
      rcases isEscape_or_plain c with hescape | ⟨hsame, -, -, hreturn⟩
      · obtain ⟨behind, hbehind⟩ := hescape.exists_cons
        simp [hbehind]
      · simp [hsame, hline, hreturn]
  rw [hopen]
  change longBasic? false (withoutFirstLineEnd _) = _
  rw [withoutFirstLineEnd_ownLine hbegin, longBasic?_escapeLongBasic (by omega)]

theorem quoted?_write_longLiteral (h : Form.longLiteral.fits cs = true) (rest : List Char) :
    quoted? (Form.longLiteral.write cs ++ '\n' :: rest) = some (cs, '\n' :: rest) := by
  simp only [Form.fits, Bool.and_eq_true, Bool.not_eq_true', List.any_eq_false,
    decide_eq_true_eq] at h
  obtain ⟨hneeds, hrun⟩ := h
  have hplain : ∀ c ∈ cs, isPlain c = true ∨ c = '\n' := by
    intro c hc
    by_cases hline : c = '\n'
    · exact .inr hline
    · exact .inl (isPlain_of_not_needsNumber (by simpa using hneeds c hc) hline)
  have hopen : Form.longLiteral.write cs ++ '\n' :: rest =
      '\'' :: '\'' :: '\'' :: (Form.write.ownLine cs ++ (cs ++ closing '\'' rest)) := by
    simp [Form.write, closing]
  have hbegin : '\n' ∉ cs → ∀ more, cs ++ closing '\'' rest ≠ '\n' :: more ∧
      cs ++ closing '\'' rest ≠ '\r' :: more := by
    intro hnone more
    cases cs with
    | nil => simp [closing]
    | cons c cs =>
      have hline : c ≠ '\n' := fun h => hnone (h ▸ List.mem_cons_self)
      have hreturn : c ≠ '\r' := by
        rintro rfl
        exact absurd (hneeds '\r' List.mem_cons_self) (by decide)
      simp [hline, hreturn]
  rw [hopen]
  change longLiteral? (withoutFirstLineEnd _) = _
  rw [withoutFirstLineEnd_ownLine hbegin, longLiteral?_append hplain hrun]

/-- The form that is chosen needs no escapes, or knows them. -/
theorem formOfText_cases (cs : List Char) :
    formOfText cs = .basic ∨ formOfText cs = .longBasic ∨ (formOfText cs).fits cs = true := by
  unfold formOfText
  cases hfind : ([Form.basic, .literal, .longBasic, .longLiteral] : List Form).find?
      (·.fits cs) with
  | some form => exact .inr (.inr (List.find?_some hfind))
  | none =>
    rw [Option.getD_none]
    split
    · exact .inr (.inl rfl)
    · exact .inl rfl

/-- **A text reads back from the form that is chosen for it.** -/
theorem quoted?_write_formOfText (cs rest : List Char) :
    quoted? ((formOfText cs).write cs ++ '\n' :: rest) = some (cs, '\n' :: rest) := by
  obtain hform | hform | hfits := formOfText_cases cs
  · rw [hform]
    exact quoted?_write_basic cs rest
  · rw [hform]
    exact quoted?_write_longBasic cs rest
  · cases hform : formOfText cs with
    | basic => exact quoted?_write_basic cs rest
    | literal => exact quoted?_write_literal (hform ▸ hfits) rest
    | longBasic => exact quoted?_write_longBasic cs rest
    | longLiteral => exact quoted?_write_longLiteral (hform ▸ hfits) rest

end DeviceAccess.Toml
