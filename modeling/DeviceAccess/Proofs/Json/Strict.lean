import Mathlib
import DeviceAccess.Json.Printer
import DeviceAccess.Json.Strict
import DeviceAccess.Proofs.Document.Tree
import DeviceAccess.Proofs.Json.Building
import DeviceAccess.Proofs.Json.Characters
import DeviceAccess.Proofs.Text.Digits

/-!
# The strict notation reads what is written

A value that is written in one line is read as the same value: every text between quotes ends at its
own quote and stands for the text that was written, and every number and word ends where a mark
follows it.

- `cutText?_escaped` and `unescape?_escaped` are the laws of a text in quotes.
- `IsLexed` says that a chunk of characters is read as its tokens, whatever follows it that ends a
  number or a word.
- `parse?_compact` is the law of whole values.
-/

namespace DeviceAccess.Json

open Text

/-! ## §1 Texts -/

/-- A character is cut off as it is written. -/
theorem cutText?_of_isEscaped {c : Char} {chars : List Char} (h : IsEscaped c chars)
    (rest : List Char) :
    cutText? (chars ++ rest) = (cutText? rest).map fun (text, after) => (chars ++ text, after) := by
  cases h with
  | letter h =>
    simp only [escapeLetters, List.mem_cons, List.not_mem_nil, or_false] at h
    rcases h with rfl | rfl | rfl | rfl | rfl | rfl | rfl | rfl
    all_goals simp [cutText?, escapeLetters]
  | number hcontrol hdigits hvalue =>
    simp only [List.cons_append, List.nil_append]
    rw [cutText?, if_pos hdigits]
  | plain hcontrol hquote hbackslash =>
    have hlow : ¬c.toNat < 0x20 := Nat.not_lt.mpr hcontrol
    rw [List.singleton_append, cutText?.eq_def]
    simp [hbackslash, hlow]

/-- A character is understood as the one that was written. -/
theorem unescape?_of_isEscaped {c : Char} {chars : List Char} (h : IsEscaped c chars)
    (rest : List Char) : unescape? (chars ++ rest) = (unescape? rest).map (c :: ·) := by
  cases h with
  | letter h =>
    simp only [escapeLetters, List.mem_cons, List.not_mem_nil, or_false] at h
    rcases h with rfl | rfl | rfl | rfl | rfl | rfl | rfl | rfl
    all_goals simp [unescape?]
  | number hcontrol hdigits hvalue =>
    -- the number stands for the character itself, and needs no second one
    obtain ⟨hhigh, hlow⟩ := not_half_of_control hcontrol
    simp only [List.cons_append, List.nil_append]
    rw [unescape?.eq_def]
    simp [hvalue, hhigh, hlow]
  | plain hcontrol hquote hbackslash =>
    rw [List.singleton_append, unescape?.eq_def]
    simp [hbackslash]

/-- A text as it stands between quotes. -/
def escapedText (s : String) : List Char := s.toList.flatMap escapeChar

/-- **A text ends at its own quote**, whatever follows. -/
theorem cutText?_escaped (s : String) (rest : List Char) :
    cutText? (escapedText s ++ '"' :: rest) = some (escapedText s, rest) := by
  unfold escapedText
  induction s.toList with
  | nil => simp [cutText?]
  | cons c cs ih =>
    rw [List.flatMap_cons, List.append_assoc, cutText?_of_isEscaped (isEscaped_escapeChar c), ih]
    rfl

/-- **A text stands for what was written.** -/
theorem key?_escaped (s : String) : key? (escapedText s) = some s := by
  have hread : unescape? (escapedText s) = some s.toList := by
    unfold escapedText
    induction s.toList with
    | nil => simp [unescape?]
    | cons c cs ih =>
      rw [List.flatMap_cons, unescape?_of_isEscaped (isEscaped_escapeChar c), ih]
      rfl
  rw [key?, hread, Option.map_some, String.ofList_toList]

/-! ## §2 Numbers -/

/-- The spelling of a number that is not too large. -/
structure IsNumeral (spelling : List Char) : Prop where
  chars : ∀ c ∈ spelling, isNumberChar c = true
  form : isNumber spelling = true
  fits : isFinite spelling = true

theorem IsNumeral.ne_nil {spelling : List Char} (h : IsNumeral spelling) : spelling ≠ [] := by
  intro hnil
  have hform := h.form
  rw [hnil] at hform
  exact absurd hform (by decide)

/-- No number but zero begins with a zero. -/
theorem head?_decimal {n : Nat} (hn : n ≠ 0) : (decimal n).head? ≠ some '0' := by
  induction n using Nat.strongRecOn with
  | ind n ih =>
    rw [decimal, Nat.toDigits_eq_if (by decide)]
    split
    · rename_i hsmall
      have hall : ∀ d < 10, d ≠ 0 → [Nat.digitChar d].head? ≠ some '0' := by decide
      exact hall n hsmall hn
    · rename_i hlarge
      -- the digits begin with those of the tenth part
      have hfront := ih (n / 10) (by omega) (by omega)
      have hne : Nat.toDigits 10 (n / 10) ≠ [] := Nat.toDigits_ne_nil
      rwa [List.head?_append_of_ne_nil _ hne]

theorem isDigit_of_mem_decimal {n : Nat} {c : Char} (hc : c ∈ decimal n) : c.isDigit = true :=
  Nat.isDigit_of_mem_toDigits (by decide) (by decide) hc

theorem takeWhile_decimal (n : Nat) : (decimal n).takeWhile Char.isDigit = decimal n :=
  List.takeWhile_eq_self_iff.mpr fun _ hc => isDigit_of_mem_decimal hc

theorem dropWhile_decimal (n : Nat) : (decimal n).dropWhile Char.isDigit = [] :=
  List.dropWhile_eq_nil_iff.mpr fun _ hc => isDigit_of_mem_decimal hc

/-- The digits of a number have no sign before them. -/
theorem decimal_ne_cons {c : Char} (hc : c.isDigit = false) (n : Nat) (rest : List Char) :
    decimal n ≠ c :: rest := by
  intro hsigned
  have hmem : c ∈ decimal n := hsigned ▸ List.mem_cons_self
  rw [isDigit_of_mem_decimal hmem] at hc
  cases hc

theorem isNumber_decimal (n : Nat) : isNumber (decimal n) = true := by
  have hdigits : isDigits (decimal n) = true := by
    simp only [isDigits, Bool.and_eq_true, Bool.not_eq_true', List.isEmpty_eq_false_iff,
      List.all_eq_true]
    exact ⟨Nat.toDigits_ne_nil, fun c hc => isDigit_of_mem_decimal hc⟩
  have hzero : ((decimal n).length == 1 || (decimal n).head? != some '0') = true := by
    by_cases hn : n = 0
    · subst hn
      decide
    · simp [head?_decimal hn]
  unfold isNumber
  split
  · rename_i rest hsigned
    exact absurd hsigned (decimal_ne_cons (by decide) n rest)
  · simp only [takeWhile_decimal, dropWhile_decimal, hdigits, hzero]
    rfl

theorem isFinite_decimal {n : Nat} (hshort : (decimal n).length < 300) :
    isFinite (decimal n) = true := by
  have hmark : ∀ c ∈ decimal n, (c != 'e' && c != 'E') = true := by
    intro c hc
    have hdigit := isDigit_of_mem_decimal hc
    rw [Bool.and_eq_true, bne_iff_ne, bne_iff_ne]
    constructor
    · intro h
      rw [h] at hdigit
      exact absurd hdigit (by decide)
    · intro h
      rw [h] at hdigit
      exact absurd hdigit (by decide)
  have hmantissa : (decimal n).takeWhile (fun c => c != 'e' && c != 'E') = decimal n :=
    List.takeWhile_eq_self_iff.mpr hmark
  have hexponent : (decimal n).dropWhile (fun c => c != 'e' && c != 'E') = [] :=
    List.dropWhile_eq_nil_iff.mpr hmark
  have hrange : isInRange n 0 0 = true := by
    unfold isInRange
    split
    · rfl
    · simp only
      rw [if_neg (by omega), if_pos (by omega)]
  unfold isFinite
  split
  · rename_i rest hsigned
    exact absurd hsigned (decimal_ne_cons (by decide) n rest)
  · rename_i rest hsigned
    exact absurd hsigned (decimal_ne_cons (by decide) n rest)
  · simp only [hmantissa, hexponent, takeWhile_decimal, dropWhile_decimal, List.drop_nil,
      List.append_nil]
    rw [decimal, digitsValue_toDigits (by decide) (by decide)]
    exact hrange

/-- The digits of a number are a spelling of it. -/
theorem isNumeral_decimal {n : Nat} (hshort : (decimal n).length < 300) :
    IsNumeral (decimal n) := by
  refine ⟨fun c hc => ?_, isNumber_decimal n, isFinite_decimal hshort⟩
  simp [isNumberChar, isDigit_of_mem_decimal hc]

/-! ## §3 Chunks of tokens -/

/-- What stands behind a number or a word: nothing that could belong to it. -/
def Ends (rest : List Char) : Prop :=
  ∀ c, rest.head? = some c → isNumberChar c = false ∧ c.isAlpha = false

theorem ends_nil : Ends [] := by
  intro c hc
  cases hc

theorem ends_cons {c : Char} (hnumber : isNumberChar c = false) (halpha : c.isAlpha = false)
    (rest : List Char) : Ends (c :: rest) := by
  intro d hd
  cases hd
  exact ⟨hnumber, halpha⟩

/-- The characters are read as the tokens, whatever follows that ends a number or a word. -/
def IsLexed (chunk : List Char) (spelling : List ShapeToken) : Prop :=
  ∀ rest, Ends rest → tokens? (chunk ++ rest) = (tokens? rest).map (spelling ++ ·)

section

variable {chunk chunk' : List Char} {spelling spelling' : List ShapeToken}

theorem isLexed_nil : IsLexed [] [] := by
  intro rest _
  simp

/-- A mark is no blank and ends what stands before it. -/
theorem mark?_eq_some {c : Char} {mark : ShapeToken} (hmark : mark? c = some mark) :
    isGap c = false ∧ isNumberChar c = false ∧ c.isAlpha = false := by
  have hall : marks.all (fun c => !isGap c && !isNumberChar c && !c.isAlpha) = true := by
    decide +kernel
  have hc := List.all_eq_true.mp hall c (mem_marks hmark)
  simpa [and_assoc] using hc

theorem tokens?_mark {c : Char} {mark : ShapeToken} (hmark : mark? c = some mark)
    (rest : List Char) : tokens? (c :: rest) = (tokens? rest).map (mark :: ·) := by
  rw [tokens?, (mark?_eq_some hmark).1, hmark]
  rfl

/-- A mark ends what stands before it and needs nothing to end it. -/
theorem IsLexed.append_mark {c : Char} {mark : ShapeToken} (h : IsLexed chunk spelling)
    (hmark : mark? c = some mark) (h' : IsLexed chunk' spelling') :
    IsLexed (chunk ++ [c] ++ chunk') (spelling ++ [mark] ++ spelling') := by
  intro rest hrest
  obtain ⟨-, hnumber, halpha⟩ := mark?_eq_some hmark
  have hbehind : tokens? (c :: (chunk' ++ rest)) =
      (tokens? rest).map fun tokens => mark :: (spelling' ++ tokens) := by
    rw [tokens?_mark hmark, h' rest hrest, Option.map_map]
    rfl
  have hall : chunk ++ [c] ++ chunk' ++ rest = chunk ++ c :: (chunk' ++ rest) := by simp
  rw [hall, h _ (ends_cons hnumber halpha _), hbehind, Option.map_map]
  congr 1
  funext tokens
  simp

/-- What stands between with marks is read one after the other. -/
theorem IsLexed.joinWith {c : Char} {mark : ShapeToken} (hmark : mark? c = some mark) {β : Type}
    {xs : List β} {write : β → List Char} {spell : β → List ShapeToken}
    (hxs : ∀ x ∈ xs, IsLexed (write x) (spell x)) :
    IsLexed (Text.joinWith [c] (xs.map write)) (Text.joinWith [mark] (xs.map spell)) := by
  induction xs with
  | nil => exact isLexed_nil
  | cons first rest ih =>
    have hfirst := hxs first List.mem_cons_self
    have hrest := ih fun x hx => hxs x (List.mem_cons_of_mem first hx)
    cases rest with
    | nil => exact hfirst
    | cons second rest => exact hfirst.append_mark hmark hrest

/-- Between an opening and a closing mark. -/
theorem IsLexed.enclosed {o c : Char} {opening closing : ShapeToken}
    (hopening : mark? o = some opening) (hclosing : mark? c = some closing)
    (h : IsLexed chunk spelling) :
    IsLexed ([o] ++ chunk ++ [c]) ([opening] ++ spelling ++ [closing]) := by
  have hall := (isLexed_nil.append_mark hopening h).append_mark hclosing isLexed_nil
  simpa using hall

end

/-! ## §4 Leaves -/

/-- A text in quotes is read as a key and as a leaf, whatever follows. -/
theorem isLexed_quote (s : String) :
    IsLexed (quote s) [.scalar (some (escapedText s)) (some (.string (escapedText s)))] := by
  intro rest _
  have hquote : quote s ++ rest = '"' :: (escapedText s ++ '"' :: rest) := by
    simp [quote, escapedText]
  have hmark : mark? (κ := List Char) (α := Spelling) '"' = none := rfl
  have hgap : isGap '"' = false := by decide
  rw [hquote, tokens?, hgap, hmark]
  simp only [Bool.false_eq_true, if_false, beq_self_eq_true, if_true]
  split
  · rename_i text after hcut
    rw [cutText?_escaped] at hcut
    cases hcut
    rfl
  · rename_i hcut
    rw [cutText?_escaped] at hcut
    cases hcut

/-- What follows a number or a word is left, and the characters of it are not. -/
theorem span_of_ends {p : Char → Bool} {word rest : List Char} (hword : ∀ c ∈ word, p c = true)
    (hrest : ∀ c, rest.head? = some c → p c = false) :
    (word ++ rest).takeWhile p = word ∧ (word ++ rest).dropWhile p = rest := by
  rw [List.takeWhile_append_of_pos hword, List.dropWhile_append_of_pos hword]
  cases rest with
  | nil => simp
  | cons c rest => simp [hrest c rfl]

/-- What a number or a word begins with is no blank, no mark and no quote. -/
theorem begins_of_isNumberChar_or {c : Char} (h : isNumberChar c = true ∨ c.isAlpha = true) :
    isGap c = false ∧ (mark? c : Option ShapeToken) = none ∧ (c == '"') = false := by
  have hother : ∀ d : Char, isNumberChar d = false → d.isAlpha = false → c ≠ d := by
    intro d hnumber halpha hcd
    rw [hcd, hnumber, halpha] at h
    simp at h
  refine ⟨?_, ?_, ?_⟩
  · simp only [isGap, Bool.or_eq_false_iff, beq_eq_false_iff_ne]
    refine ⟨⟨⟨?_, ?_⟩, ?_⟩, ?_⟩
    all_goals exact hother _ (by decide) (by decide)
  · rw [Option.eq_none_iff_forall_ne_some]
    intro mark hmark
    obtain ⟨-, hnumber, halpha⟩ := mark?_eq_some hmark
    exact hother c hnumber halpha rfl
  · exact beq_eq_false_iff_ne.mpr (hother '"' (by decide) (by decide))

theorem isLexed_number {number : List Char} (h : IsNumeral number) :
    IsLexed number [.scalar none (some (.number number))] := by
  intro rest hrest
  obtain ⟨c, cs, rfl⟩ := List.exists_cons_of_ne_nil h.ne_nil
  have hc := h.chars c List.mem_cons_self
  have hcs : ∀ d ∈ cs, isNumberChar d = true := fun d hd => h.chars d (List.mem_cons_of_mem c hd)
  obtain ⟨hgap, hmark, hquote⟩ := begins_of_isNumberChar_or (.inl hc)
  obtain ⟨hspelling, hbehind⟩ := span_of_ends hcs fun d hd => (hrest d hd).1
  rw [List.cons_append, tokens?, hgap, hmark]
  simp [hquote, hc, hspelling, hbehind, h.form]

/-- The three words end where no letter follows. -/
theorem isLexed_word {c : Char} {cs : List Char} {s : Spelling} (hword : word? (c :: cs) = some s)
    (hletters : (c :: cs).all Char.isAlpha = true) (hnumber : isNumberChar c = false) :
    IsLexed (c :: cs) [.scalar none (some s)] := by
  intro rest hrest
  have hletters := List.all_eq_true.mp hletters
  have hcs : ∀ d ∈ cs, d.isAlpha = true := fun d hd => hletters d (List.mem_cons_of_mem c hd)
  obtain ⟨hgap, hmark, hquote⟩ := begins_of_isNumberChar_or (.inr (hletters c List.mem_cons_self))
  obtain ⟨hspelling, hbehind⟩ := span_of_ends hcs fun d hd => (hrest d hd).2
  rw [List.cons_append, tokens?, hgap, hmark]
  simp [hquote, hnumber, hspelling, hbehind, hword]

/-! ## §5 Whole values -/

/-- The scalar can be written so that it is read: a number has the spelling of one. -/
def Scalar.IsWritable (s : Scalar) : Prop :=
  ∀ spelling, s = .number spelling → IsNumeral spelling.toList

/-- A leaf as it is written. -/
def spellingOf : Scalar → Spelling
  | .null => .null
  | .bool b => .bool b
  | .number spelling => .number spelling.toList
  | .string s => .string (escapedText s)

/-- A value as it is written. -/
def shapeOf (v : Value) : Shape := v.map escapedText spellingOf

/-- What a leaf is as a key. -/
def keyOfLeaf : Spelling → Option (List Char)
  | .string spelling => some spelling
  | _ => none

/-- The tokens of a shape. -/
def shapeTokens (s : Shape) : List ShapeToken :=
  tokens (fun key => some (.string key)) keyOfLeaf s

theorem isLexed_toChars {s : Scalar} (hs : s.IsWritable) :
    IsLexed s.toChars [.scalar (keyOfLeaf (spellingOf s)) (some (spellingOf s))] := by
  cases s with
  | null => exact isLexed_word (by decide) (by decide) (by decide)
  | bool b =>
    cases b with
    | true => exact isLexed_word (by decide) (by decide) (by decide)
    | false => exact isLexed_word (by decide) (by decide) (by decide)
  | number spelling => exact isLexed_number (hs spelling rfl)
  | string s => exact isLexed_quote s

theorem isLexed_compactChars {v : Value} (hv : v.AllLeaves Scalar.IsWritable) :
    IsLexed v.compactChars (shapeTokens (shapeOf v)) := by
  induction hv with
  | leaf hs => exact isLexed_toChars hs
  | array _ ih =>
    rw [Value.compactChars_array, shapeOf, Tree.map_array, shapeTokens, tokens_array, List.map_map]
    apply IsLexed.enclosed rfl rfl
    exact IsLexed.joinWith rfl ih
  | object _ ih =>
    rw [Value.compactChars_object, shapeOf, Tree.map_object, shapeTokens, tokens_object,
      List.map_map]
    apply IsLexed.enclosed rfl rfl
    apply IsLexed.joinWith rfl
    intro m hm
    exact (isLexed_quote m.1).append_mark rfl (ih m hm)

theorem shape?_compactChars {v : Value} (hv : v.AllLeaves Scalar.IsWritable) :
    shape? v.compactChars = some (shapeOf v) := by
  have hread : tokens? v.compactChars = some (shapeTokens (shapeOf v)) := by
    have hall := isLexed_compactChars hv [] ends_nil
    rw [List.append_nil] at hall
    rw [hall]
    simp [tokens?]
  rw [shape?, hread, Option.bind_some]
  exact treeOfTokens?_tokens false _ _ (shapeOf v)

theorem scalar?_spellingOf {s : Scalar} (hs : s.IsWritable) : scalar? (spellingOf s) = some s := by
  cases s with
  | null => rfl
  | bool b => rfl
  | number spelling =>
    have hfits := (hs spelling rfl).fits
    simp only [spellingOf, scalar?, hfits, if_true, String.ofList_toList]
  | string s =>
    simp only [spellingOf, scalar?, key?_escaped, Option.map_some]

/-- **A value that is written in one line** is read as itself, if its numbers are spelled as such and
it is not nested too deeply. -/
theorem parse?_compact {v : Value} (hv : v.AllLeaves Scalar.IsWritable)
    (hdepth : v.depth ≤ maxDepth) : parse? v.compact = some v := by
  have hmeaning : (shapeOf v).interpret? key? scalar? = some v :=
    Tree.interpret?_map key?_escaped (fun _ => scalar?_spellingOf) hv
  have hshape : (shapeOf v).depth = v.depth := Tree.depth_map escapedText spellingOf v
  have hplace : 0 + (shapeOf v).depth ≤ maxDepth := by omega
  rw [parse?, Value.compact, String.toList_ofList, shape?_compactChars hv, Option.bind_some,
    Shape.value?, if_pos hplace, hmeaning]

/-! ## §6 Texts and numbers -/

namespace Value

theorem string_inj {s t : String} : string s = string t ↔ s = t := by
  simp [string]

/-- Numbers that are written alike are the same. -/
theorem nat_inj {m n : Nat} : nat m = nat n ↔ m = n := by
  constructor
  · intro h
    simp only [nat, Tree.leaf.injEq, Scalar.number.injEq] at h
    have hdigits : decimal m = decimal n := by
      rw [← String.toList_ofList (l := decimal m), h, String.toList_ofList]
    have hvalue : some m = some n := by
      rw [← natOfDigits?_decimal m, hdigits, natOfDigits?_decimal]
    exact Option.some.inj hvalue
  · intro h
    rw [h]

theorem allLeaves_string (s : String) : (string s).AllLeaves Scalar.IsWritable :=
  .leaf fun _ hnumber => by cases hnumber

/-- Numbers of sixty-four bits are small enough to be read. -/
theorem allLeaves_nat {n : Nat} (hn : n < limit64) : (nat n).AllLeaves Scalar.IsWritable := by
  have hbound : n < 10 ^ 20 := lt_of_lt_of_le hn (by decide)
  have hlength : (decimal n).length ≤ 20 := Nat.toDigits_length 10 n 20 (by decide) hbound
  apply Tree.AllLeaves.leaf
  intro spelling hspelling
  cases hspelling
  rw [String.toList_ofList]
  exact isNumeral_decimal (by omega)

end Value

end DeviceAccess.Json
