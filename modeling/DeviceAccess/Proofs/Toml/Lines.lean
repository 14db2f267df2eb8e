import Mathlib
import DeviceAccess.Proofs.Text.Cut
import DeviceAccess.Proofs.Toml.Quoted
import DeviceAccess.Toml.Reader

/-!
# Written lines read back

Sections are written line by line: a header, its entries, and blank lines between sections. What the
reader makes of them are the statements of the sections, one for each line.

- `cutPath?_joinWith` and `cutValue?_write` are the laws of the parts of a line.
- `ReadsAs.line` reads one line in front of a text, whatever the text is read as.
- `parse?_writeSections` reads a file: what is left is to carry the statements out.
-/

namespace DeviceAccess.Toml

open Text

/-! ## §1 Keys -/

/-- A character with which a written key begins. -/
def StartsKey (c : Char) : Prop := isKeyChar c = true ∨ c = '"' ∨ c = '\''

instance : DecidablePred StartsKey := fun _ => inferInstanceAs (Decidable (_ ∨ _ ∨ _))

theorem StartsKey.isGap_eq_false {c : Char} (h : StartsKey c) : isGap c = false := by
  rcases h with hkey | rfl | rfl
  -- of the characters of a bare key none is a blank
  · by_contra hgap
    simp only [Bool.not_eq_false, isGap, Bool.or_eq_true, beq_iff_eq] at hgap
    rcases hgap with rfl | rfl <;> exact absurd hkey (by decide)
  · rfl
  · rfl

theorem StartsKey.ne_bracket {c : Char} (h : StartsKey c) : c ≠ '[' := by
  rintro rfl
  exact absurd h (by decide)

theorem Form.exists_write (form : Form) (cs : List Char) :
    ∃ q more, form.write cs = q :: more ∧ (q = '"' ∨ q = '\'') := by
  cases form
  · exact ⟨'"', _, rfl, .inl rfl⟩
  · exact ⟨'\'', _, rfl, .inr rfl⟩
  · exact ⟨'"', _, rfl, .inl rfl⟩
  · exact ⟨'\'', _, rfl, .inr rfl⟩

/-- A key is written as it is, in double quotes, or in single ones that need no escapes. -/
theorem writeKey_cases (key : String) :
    (writeKey key = key.toList ∧ key.toList ≠ [] ∧ ∀ c ∈ key.toList, isKeyChar c = true) ∨
      writeKey key = Form.basic.write key.toList ∨
      (writeKey key = Form.literal.write key.toList ∧ Form.literal.fits key.toList = true) := by
  by_cases hbare : (!key.toList.isEmpty && key.toList.all isBareChar) = true
  · have hwritten : writeKey key = key.toList := if_pos hbare
    simp only [Bool.and_eq_true, Bool.not_eq_true', List.isEmpty_eq_false_iff,
      List.all_eq_true] at hbare
    exact .inl ⟨hwritten, hbare⟩
  have hwritten : writeKey key = (formOfKey key.toList).write key.toList := if_neg hbare
  rw [hwritten]
  unfold formOfKey
  cases hfind : ([Form.basic, .literal] : List Form).find? (·.fits key.toList) with
  | none => exact .inr (.inl rfl)
  | some form =>
    have hfits := List.find?_some hfind
    rcases List.mem_pair.mp (List.mem_of_find?_eq_some hfind) with rfl | rfl
    · exact .inr (.inl rfl)
    · exact .inr (.inr ⟨rfl, hfits⟩)

theorem exists_writeKey (key : String) : ∃ c more, writeKey key = c :: more ∧ StartsKey c := by
  rcases writeKey_cases key with ⟨hwritten, hne, hkey⟩ | hwritten | ⟨hwritten, -⟩
  · obtain ⟨c, more, hcs⟩ := List.exists_cons_of_ne_nil hne
    have hc : c ∈ key.toList := by
      rw [hcs]
      exact List.mem_cons_self
    exact ⟨c, more, by rw [hwritten, hcs], .inl (hkey c hc)⟩
  · exact ⟨'"', _, by rw [hwritten]; rfl, .inr (.inl rfl)⟩
  · exact ⟨'\'', _, by rw [hwritten]; rfl, .inr (.inr rfl)⟩

theorem cutKey?_bare {key : List Char} (hne : key ≠ []) (hkey : ∀ c ∈ key, isKeyChar c = true)
    {x : Char} (hx : isKeyChar x = false) (rest : List Char) :
    cutKey? (key ++ x :: rest) = some (key, x :: rest) := by
  have htake : (key ++ x :: rest).takeWhile isKeyChar = key := by
    rw [List.takeWhile_append_of_pos hkey]
    simp [hx]
  have hdrop : (key ++ x :: rest).dropWhile isKeyChar = x :: rest := by
    rw [List.dropWhile_append_of_pos hkey]
    simp [hx]
  obtain ⟨c, more, rfl⟩ := List.exists_cons_of_ne_nil hne
  have hc := hkey c List.mem_cons_self
  rw [cutKey?.eq_def]
  split
  -- a quote is no character of a bare key
  · rename_i hquote
    obtain ⟨rfl, -⟩ := List.cons.inj hquote
    exact absurd hc (by decide)
  · rename_i hquote
    obtain ⟨rfl, -⟩ := List.cons.inj hquote
    exact absurd hc (by decide)
  · rw [htake, hdrop]

/-- A key reads back, whatever stands behind it apart from characters that would belong to it. -/
theorem cutKey?_writeKey (key : String) {x : Char} (hx : isKeyChar x = false)
    (rest : List Char) : cutKey? (writeKey key ++ x :: rest) = some (key.toList, x :: rest) := by
  rcases writeKey_cases key with ⟨hwritten, hne, hkey⟩ | hwritten | ⟨hwritten, hfits⟩
  · rw [hwritten]
    exact cutKey?_bare hne hkey hx rest
  · have hopen : writeKey key ++ x :: rest =
        '"' :: (escapeBasic key.toList ++ '"' :: x :: rest) := by
      simp [hwritten, Form.write]
    rw [hopen]
    exact basic?_escapeBasic key.toList (x :: rest)
  · have hopen : writeKey key ++ x :: rest = '\'' :: (key.toList ++ '\'' :: x :: rest) := by
      simp [hwritten, Form.write]
    rw [hopen]
    exact literal?_append (isPlain_of_fits_literal hfits) (x :: rest)

/-! ## §2 Paths -/

/-- What may follow a path: something that is no part of a key, and behind blanks no point. -/
structure EndsPath (ending stop : List Char) : Prop where
  apart : ∃ x more, ending = x :: more ∧ isKeyChar x = false
  gaps : ending.dropWhile isGap = stop
  last : ∀ more, stop ≠ '.' :: more

theorem endsPath_equals (rest : List Char) : EndsPath (' ' :: '=' :: rest) ('=' :: rest) where
  apart := ⟨' ', _, rfl, by decide⟩
  gaps := by simp [isGap]
  last := by simp

theorem endsPath_bracket (rest : List Char) : EndsPath (']' :: rest) (']' :: rest) where
  apart := ⟨']', _, rfl, by decide⟩
  gaps := by simp [isGap]
  last := by simp

theorem dropWhile_isGap_writeKey (key : String) (rest : List Char) :
    (writeKey key ++ rest).dropWhile isGap = writeKey key ++ rest := by
  obtain ⟨c, more, hwritten, hc⟩ := exists_writeKey key
  rw [hwritten, List.cons_append, List.dropWhile_cons_of_neg]
  simp [hc.isGap_eq_false]

theorem cutPathWithin?_last (key : String) {ending stop : List Char}
    (hending : EndsPath ending stop) (steps : Nat) :
    cutPathWithin? (steps + 1) (writeKey key ++ ending) = some ([key], stop) := by
  obtain ⟨x, more, rfl, hx⟩ := hending.apart
  simp only [cutPathWithin?, dropWhile_isGap_writeKey, cutKey?_writeKey key hx, hending.gaps,
    String.ofList_toList]
  split
  · exact absurd rfl (hending.last _)
  · rfl

theorem cutPathWithin?_point (key : String) (steps : Nat) (rest : List Char) :
    cutPathWithin? (steps + 1) (writeKey key ++ '.' :: rest) =
      (cutPathWithin? steps rest).map fun (path, last) => (key :: path, last) := by
  have hpoint : isKeyChar '.' = false := by decide
  have hgap : ('.' :: rest).dropWhile isGap = '.' :: rest := by simp [isGap]
  simp only [cutPathWithin?, dropWhile_isGap_writeKey, cutKey?_writeKey key hpoint, hgap,
    String.ofList_toList]

theorem cutPathWithin?_joinWith {path : List String} (hpath : path ≠ []) {ending stop : List Char}
    (hending : EndsPath ending stop) {steps : Nat} (hsteps : path.length ≤ steps) :
    cutPathWithin? steps (joinWith ['.'] (path.map writeKey) ++ ending) = some (path, stop) := by
  -- one step for each part of the path, which is why it is the path that is gone through
  induction path generalizing steps with
  | nil => exact absurd rfl hpath
  | cons key path ih =>
    match steps, hsteps with
    | steps + 1, hsteps =>
      cases path with
      | nil => exact cutPathWithin?_last key hending steps
      | cons next path =>
        have hrest := ih (List.cons_ne_nil next path) (Nat.le_of_succ_le_succ hsteps)
        have hline : joinWith ['.'] ((key :: next :: path).map writeKey) ++ ending =
            writeKey key ++ '.' :: (joinWith ['.'] ((next :: path).map writeKey) ++ ending) := by
          simp [joinWith]
        rw [hline, cutPathWithin?_point, hrest]
        rfl

/-- Between two parts of a path there is a character, so that the reader has enough steps. -/
theorem length_le_joinWith (parts : List (List Char)) :
    parts.length ≤ (joinWith ['.'] parts).length + 1 := by
  induction parts with
  | nil => simp
  | cons part rest ih =>
    cases rest with
    | nil => simp
    | cons next rest =>
      simp only [joinWith, List.length_append, List.length_cons, List.length_nil] at ih ⊢
      omega

theorem cutPath?_joinWith {path : List String} (hpath : path ≠ []) {ending stop : List Char}
    (hending : EndsPath ending stop) :
    cutPath? (joinWith ['.'] (path.map writeKey) ++ ending) = some (path, stop) := by
  apply cutPathWithin?_joinWith hpath hending
  have hlength := length_le_joinWith (path.map writeKey)
  rw [List.length_map] at hlength
  rw [List.length_append]
  omega

theorem exists_writePath {path : List String} (hpath : path ≠ []) (ending : List Char) :
    ∃ c more, joinWith ['.'] (path.map writeKey) ++ ending = c :: more ∧ StartsKey c := by
  obtain ⟨key, rest, rfl⟩ := List.exists_cons_of_ne_nil hpath
  obtain ⟨c, more, hwritten, hc⟩ := exists_writeKey key
  obtain ⟨behind, hbehind⟩ := exists_joinWith_cons ['.'] (writeKey key) (rest.map writeKey)
  rw [List.map_cons, hbehind, hwritten]
  exact ⟨c, _, rfl, hc⟩

/-! ## §3 Values -/

/-- The value that is written. -/
def Plain.toValue : Plain → Value
  | string s => .string s
  | bool b => .bool b

theorem cutScalar?_quoted {q : Char} (hq : q = '"' ∨ q = '\'') (cs : List Char) :
    cutScalar? (q :: cs) =
      (quoted? (q :: cs)).map fun (text, rest) => (.string (String.ofList text), rest) := by
  rcases hq with rfl | rfl <;> simp [cutScalar?]

theorem cutValue?_write (p : Plain) {steps : Nat} (hsteps : 0 < steps) (depth : Nat)
    (rest : List Char) :
    cutValue? steps depth (p.write ++ '\n' :: rest) = some (p.toValue, '\n' :: rest) := by
  obtain ⟨steps, rfl⟩ := Nat.exists_eq_add_one.mpr hsteps
  match p with
  | .bool true => simp [Plain.write, cutValue?, cutScalar?, Plain.toValue, Value.bool]
  | .bool false => simp [Plain.write, cutValue?, cutScalar?, Plain.toValue, Value.bool]
  | .string s =>
    obtain ⟨q, more, hwritten, hq⟩ := (formOfText s.toList).exists_write s.toList
    have hquoted := quoted?_write_formOfText s.toList rest
    rw [hwritten, List.cons_append] at hquoted
    have hscalar : cutScalar? (q :: (more ++ '\n' :: rest)) = some (.string s, '\n' :: rest) := by
      rw [cutScalar?_quoted hq, hquoted]
      simp
    simp only [Plain.write, hwritten, List.cons_append, Plain.toValue, Value.string]
    -- what begins with a quote is neither an array nor a table in braces
    rcases hq with rfl | rfl <;> simp [cutValue?, hscalar]

theorem dropWhile_isGap_write (p : Plain) (rest : List Char) :
    (p.write ++ rest).dropWhile isGap = p.write ++ rest := by
  match p with
  | .bool true => simp [Plain.write, isGap]
  | .bool false => simp [Plain.write, isGap]
  | .string s =>
    obtain ⟨q, more, hwritten, hq⟩ := (formOfText s.toList).exists_write s.toList
    rw [Plain.write, hwritten]
    rcases hq with rfl | rfl <;> simp [isGap]

/-! ## §4 Lines -/

/-- A character with which a written line begins that is not blank. -/
def StartsLine (c : Char) : Prop := StartsKey c ∨ c = '['

theorem StartsLine.not_blank {c : Char} (h : StartsLine c) :
    isGap c = false ∧ c ≠ '#' ∧ c ≠ '\n' ∧ c ≠ '\r' := by
  rcases h with hkey | rfl
  · refine ⟨hkey.isGap_eq_false, ?_, ?_, ?_⟩ <;> rintro rfl <;> exact absurd hkey (by decide)
  · decide

/-- The statement of an entry. -/
def entryStatement (entry : String × Plain) : Statement := .entry [entry.1] entry.2.toValue

/-- The statement of a header. -/
def Section.headStatement (s : Section) : Statement :=
  if s.doubled then .listHeader s.path else .header s.path

theorem exists_writeEntry (entry : String × Plain) :
    ∃ c more, writeEntry entry = c :: more ∧ StartsLine c := by
  obtain ⟨c, more, hwritten, hc⟩ := exists_writeKey entry.1
  exact ⟨c, _, by rw [writeEntry, hwritten]; rfl, .inl hc⟩

theorem exists_writeHeader (s : Section) : ∃ more, writeHeader s = '[' :: more := by
  unfold writeHeader
  split <;> exact ⟨_, rfl⟩

theorem cutStatement?_writeEntry (entry : String × Plain) (rest : List Char) :
    cutStatement? (writeEntry entry ++ rest) = some (entryStatement entry, '\n' :: rest) := by
  obtain ⟨key, p⟩ := entry
  have hline : writeEntry (key, p) ++ rest =
      writeKey key ++ ' ' :: '=' :: ' ' :: (p.write ++ '\n' :: rest) := by
    simp [writeEntry]
  have hpath : cutPath? (writeKey key ++ ' ' :: '=' :: ' ' :: (p.write ++ '\n' :: rest)) =
      some ([key], '=' :: ' ' :: (p.write ++ '\n' :: rest)) :=
    cutPath?_joinWith (List.cons_ne_nil key []) (endsPath_equals _)
  have hgap : (' ' :: (p.write ++ '\n' :: rest)).dropWhile isGap = p.write ++ '\n' :: rest := by
    rw [List.dropWhile_cons_of_pos (by rfl), dropWhile_isGap_write]
  -- a line that begins with a key is no header
  obtain ⟨c, more, hwritten, hc⟩ := exists_writeKey key
  rw [hline]
  rw [hwritten, List.cons_append] at hpath ⊢
  simp [cutStatement?, hc.ne_bracket, hpath, hgap, cutValue?_write, entryStatement]

theorem cutStatement?_writeHeader {s : Section} (hpath : s.path ≠ []) (rest : List Char) :
    cutStatement? (writeHeader s ++ rest) = some (s.headStatement, '\n' :: rest) := by
  cases hdoubled : s.doubled with
  | true =>
    have hline : writeHeader s ++ rest =
        '[' :: '[' :: (joinWith ['.'] (s.path.map writeKey) ++ ']' :: ']' :: '\n' :: rest) := by
      simp [writeHeader, hdoubled]
    have hcut := cutPath?_joinWith hpath (endsPath_bracket (']' :: '\n' :: rest))
    simp [hline, cutStatement?, hcut, Section.headStatement, hdoubled]
  | false =>
    have hline : writeHeader s ++ rest =
        '[' :: (joinWith ['.'] (s.path.map writeKey) ++ ']' :: '\n' :: rest) := by
      simp [writeHeader, hdoubled]
    have hcut := cutPath?_joinWith hpath (endsPath_bracket ('\n' :: rest))
    -- the path does not begin with a bracket of its own, which would double the header
    obtain ⟨c, more, hstart, hc⟩ := exists_writePath hpath (']' :: '\n' :: rest)
    rw [hline, hstart]
    rw [hstart] at hcut
    simp [cutStatement?, hc.ne_bracket, hcut, Section.headStatement, hdoubled]

/-! ## §5 Files -/

/-- The text is read as the statements whenever there is a step for each of its characters. -/
def ReadsAs (cs : List Char) (read : List Statement) : Prop :=
  ∀ steps, cs.length ≤ steps → statements? steps cs = some read

theorem statements?_line {c : Char} (hc : StartsLine c) {more rest : List Char}
    {statement : Statement} (hcut : cutStatement? (c :: more) = some (statement, '\n' :: rest))
    (steps : Nat) :
    statements? (steps + 1) (c :: more) = (statements? steps rest).map (statement :: ·) := by
  obtain ⟨hgap, hcomment, hfeed, hreturn⟩ := hc.not_blank
  have hdrop : (c :: more).dropWhile isGap = c :: more := by simp [hgap]
  have hbehind : behindStatement? ('\n' :: rest) = some rest := by
    simp [behindStatement?, isGap, behindLineEnd?]
  rw [statements?, hdrop]
  cases hrest : statements? steps rest <;>
    simp [hcomment, hfeed, hreturn, hcut, hbehind, hrest]

theorem ReadsAs.nil : ReadsAs [] [] := by
  intro steps _
  cases steps <;> rfl

theorem ReadsAs.blankLine {cs : List Char} {read : List Statement} (h : ReadsAs cs read) :
    ReadsAs ('\n' :: cs) read := by
  intro steps hsteps
  match steps, hsteps with
  | steps + 1, hsteps =>
    have hrest := h steps (Nat.le_of_succ_le_succ hsteps)
    simpa [statements?, isGap] using hrest

/-- A line with a statement, in front of a text. -/
theorem ReadsAs.line {cs line : List Char} {read : List Statement} {statement : Statement}
    (h : ReadsAs cs read) (hstart : ∃ c more, line = c :: more ∧ StartsLine c)
    (hline : cutStatement? (line ++ cs) = some (statement, '\n' :: cs)) :
    ReadsAs (line ++ cs) (statement :: read) := by
  obtain ⟨c, more, rfl, hc⟩ := hstart
  intro steps hsteps
  match steps, hsteps with
  | steps + 1, hsteps =>
    have hrest : statements? steps cs = some read := by
      apply h
      simp only [List.cons_append, List.length_cons, List.length_append] at hsteps
      omega
    rw [List.cons_append] at hline ⊢
    rw [statements?_line hc hline, hrest]
    rfl

theorem ReadsAs.entries {cs : List Char} {read : List Statement} (h : ReadsAs cs read)
    (entries : List (String × Plain)) :
    ReadsAs (entries.flatMap writeEntry ++ cs) (entries.map entryStatement ++ read) := by
  induction entries with
  | nil => exact h
  | cons entry rest ih =>
    rw [List.flatMap_cons, List.append_assoc, List.map_cons, List.cons_append]
    exact ih.line (exists_writeEntry entry) (cutStatement?_writeEntry entry _)

/-- What a section states: its header, then its entries. -/
def Section.statements (s : Section) : List Statement :=
  s.headStatement :: s.entries.map entryStatement

theorem ReadsAs.section {cs : List Char} {read : List Statement} (h : ReadsAs cs read)
    {s : Section} (hpath : s.path ≠ []) : ReadsAs (s.write ++ cs) (s.statements ++ read) := by
  obtain ⟨more, hheader⟩ := exists_writeHeader s
  rw [Section.write, List.append_assoc]
  exact (h.entries s.entries).line ⟨'[', more, hheader, .inr rfl⟩
    (cutStatement?_writeHeader hpath _)

theorem readsAs_joinWith {sections : List Section} (hpaths : ∀ s ∈ sections, s.path ≠ []) :
    ReadsAs (joinWith ['\n'] (sections.map Section.write))
      (sections.flatMap Section.statements) := by
  induction sections with
  | nil => exact .nil
  | cons s rest ih =>
    have hs := hpaths s List.mem_cons_self
    have hrest := ih fun t ht => hpaths t (List.mem_cons_of_mem s ht)
    cases rest with
    | nil => simpa [joinWith] using ReadsAs.nil.section hs
    | cons next rest =>
      rw [List.map_cons] at hrest
      simpa [joinWith] using hrest.blankLine.section hs

/-- **A written file is read as the statements of its sections.** -/
theorem parse?_writeSections {sections : List Section} (hpaths : ∀ s ∈ sections, s.path ≠ []) :
    parse? (writeSections sections) = documentOf? (sections.flatMap Section.statements) := by
  have hread := readsAs_joinWith hpaths _ (Nat.le_succ _)
  -- a file begins with a bracket or has nothing in it, so that no mark is taken off
  have hmark : ∀ more, joinWith ['\n'] (sections.map Section.write) ≠ '\ufeff' :: more := by
    intro more
    cases sections with
    | nil => simp [joinWith]
    | cons s rest =>
      obtain ⟨behind, hheader⟩ := exists_writeHeader s
      obtain ⟨later, hlater⟩ := exists_joinWith_cons ['\n'] s.write (rest.map Section.write)
      rw [List.map_cons, hlater, Section.write, hheader]
      simp
  unfold parse? writeSections
  rw [String.toList_ofList]
  split
  · exact absurd ‹_› (hmark _)
  · dsimp only
    rw [hread]
    rfl

end DeviceAccess.Toml
