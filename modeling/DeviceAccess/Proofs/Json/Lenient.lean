import Mathlib
import DeviceAccess.Json.Lenient
import DeviceAccess.Json.Printer
import DeviceAccess.Proofs.Json.Building
import DeviceAccess.Proofs.Json.Characters
import DeviceAccess.Proofs.Text.Cut

/-!
# The lenient notation reads what is written strictly

A value of texts that is written in one line is read by the lenient notation as the same value. All
escapes of the strict notation mean the same there, and the only characters that the strict notation
writes as they are and the lenient one refuses are two separators of lines.

- `pieces?_escapeChar` is the law of one character, `cutToken?_quote` that of a text in quotes.
- `IsLexed` says that a chunk of characters is read as its tokens, whatever follows it.
- `parse?_compact` is the law of whole values.
-/

namespace DeviceAccess.Json.Lenient

open Text

/-! ## §1 Texts -/

/-- The text has neither of the separators of lines that may not stand between quotes. -/
def IsQuotable (s : String) : Prop := ∀ c ∈ s.toList, c ≠ '\u2028' ∧ c ≠ '\u2029'

instance (s : String) : Decidable (IsQuotable s) :=
  decidable_of_iff (s.toList.all (fun c => c != '\u2028' && c != '\u2029') = true)
    (by simp [IsQuotable])

/-- The piece is read as a character, whatever pieces follow it. -/
def Piece.StandsFor (piece : Piece) (c : Char) : Prop :=
  ∀ more, joinPieces? (piece :: more) = (joinPieces? more).map (c :: ·)

theorem standsFor_char (c : Char) : (Piece.char c).StandsFor c := by
  intro more
  rw [joinPieces?]

theorem standsFor_unit {c : Char} (hcontrol : c.toNat < 0x20) :
    (Piece.unit c.toNat).StandsFor c := by
  intro more
  obtain ⟨hhigh, hlow⟩ := not_half_of_control hcontrol
  rw [joinPieces?.eq_def]
  simp [hhigh, hlow]

-- the reader is opened at the characters that a text begins with
attribute [local simp] pieces?

/-- A piece in front of what a text is read as. -/
def withPiece (piece : Piece) (r : Option (List Piece × List Char)) :
    Option (List Piece × List Char) :=
  r.map fun (text, after) => (piece :: text, after)

/-- The letters that the strict notation puts behind a backslash mean the same here. -/
theorem pieces?_letter {letter : Char} (h : letter ∈ escapeLetters) (rest : List Char) :
    pieces? '"' ('\\' :: letter :: rest) =
      withPiece (.char (escaped letter)) (pieces? '"' rest) := by
  simp only [escapeLetters, List.mem_cons, List.not_mem_nil, or_false] at h
  rcases h with rfl | rfl | rfl | rfl | rfl | rfl | rfl | rfl
  all_goals simp [endsLine, escaped, withPiece]

/-- Four digits behind a `u` are read as the number that they denote. -/
theorem pieces?_number {a b c d : Char} (hdigits : [a, b, c, d].all isHexDigit = true)
    (rest : List Char) :
    pieces? '"' ('\\' :: 'u' :: a :: b :: c :: d :: rest) =
      withPiece (.unit (digitsValue 16 [a, b, c, d])) (pieces? '"' rest) := by
  rw [pieces?, if_pos hdigits]
  rfl

/-- What is written for a character is read as one piece that stands for it. -/
theorem pieces?_escapeChar {c : Char} (hc : c ≠ '\u2028' ∧ c ≠ '\u2029') :
    ∃ piece : Piece, piece.StandsFor c ∧
      ∀ rest, pieces? '"' (escapeChar c ++ rest) = withPiece piece (pieces? '"' rest) := by
  have hescaped := isEscaped_escapeChar c
  generalize escapeChar c = chars at hescaped
  cases hescaped with
  | letter h => exact ⟨_, standsFor_char _, pieces?_letter h⟩
  | number hcontrol hdigits hvalue =>
    refine ⟨_, standsFor_unit hcontrol, fun rest => ?_⟩
    rw [← hvalue]
    exact pieces?_number hdigits rest
  | plain hcontrol hquote hbackslash =>
    refine ⟨_, standsFor_char c, fun rest => ?_⟩
    -- the other characters that end a line are controls
    have hfeed : c ≠ '\n' ∧ c ≠ '\r' := by
      constructor
      · rintro rfl
        exact absurd hcontrol (by decide)
      · rintro rfl
        exact absurd hcontrol (by decide)
    have hline : endsLine c = false := by simp [endsLine, hfeed, hc]
    simp [hquote, hbackslash, hline, withPiece]

/-- A text is read up to the quote behind it. -/
theorem pieces?_escaped {cs : List Char} (hcs : ∀ c ∈ cs, c ≠ '\u2028' ∧ c ≠ '\u2029')
    (rest : List Char) :
    ∃ text, pieces? '"' (cs.flatMap escapeChar ++ '"' :: rest) = some (text, rest) ∧
      joinPieces? text = some cs := by
  induction cs with
  | nil => exact ⟨[], by simp, rfl⟩
  | cons c cs ih =>
    obtain ⟨text, hread, hjoin⟩ := ih fun d hd => hcs d (List.mem_cons_of_mem c hd)
    obtain ⟨piece, hpiece, hescape⟩ := pieces?_escapeChar (hcs c List.mem_cons_self)
    refine ⟨piece :: text, ?_, ?_⟩
    · rw [List.flatMap_cons, List.append_assoc, hescape, hread]
      rfl
    · rw [hpiece, hjoin]
      rfl

/-- **A text in quotes** is read as the text, as a key and as a leaf. -/
theorem cutToken?_quote {s : String} (hs : IsQuotable s) (rest : List Char) :
    cutToken? (quote s ++ rest) = some (.scalar (some s) (some (.string s)), rest) := by
  obtain ⟨text, hread, hjoin⟩ := pieces?_escaped hs rest
  have hquote : quote s ++ rest = '"' :: (s.toList.flatMap escapeChar ++ '"' :: rest) := by
    simp [quote]
  have hmark : mark? (κ := String) (α := Scalar) '"' = none := rfl
  rw [hquote, cutToken?, hmark]
  simp [hread, hjoin]

/-! ## §2 Chunks of tokens -/

/-- The characters are read as the tokens, one step for each, whatever follows them. -/
structure IsLexed (chunk : List Char) (spelling : List LenientToken) : Prop where
  length_le : spelling.length ≤ chunk.length
  reads : ∀ steps rest, tokensWithin? (spelling.length + steps) (chunk ++ rest) =
    (tokensWithin? steps rest).map (spelling ++ ·)

section

variable {chunk chunk' : List Char} {spelling spelling' : List LenientToken}

theorem isLexed_nil : IsLexed [] [] := by
  refine ⟨le_rfl, fun steps rest => ?_⟩
  simp

theorem IsLexed.append (h : IsLexed chunk spelling) (h' : IsLexed chunk' spelling') :
    IsLexed (chunk ++ chunk') (spelling ++ spelling') := by
  refine ⟨?_, fun steps rest => ?_⟩
  · rw [List.length_append, List.length_append]
    exact Nat.add_le_add h.length_le h'.length_le
  · rw [List.length_append, Nat.add_assoc, List.append_assoc, h.reads, h'.reads, Option.map_map]
    congr 1
    funext tokens
    exact (List.append_assoc spelling spelling' tokens).symm

theorem IsLexed.joinWith {sep : List Char} {mark : List LenientToken} (hsep : IsLexed sep mark)
    {β : Type} {xs : List β} {write : β → List Char} {spell : β → List LenientToken}
    (hxs : ∀ x ∈ xs, IsLexed (write x) (spell x)) :
    IsLexed (Text.joinWith sep (xs.map write)) (Text.joinWith mark (xs.map spell)) := by
  induction xs with
  | nil => exact isLexed_nil
  | cons first rest ih =>
    have hfirst := hxs first List.mem_cons_self
    have hrest := ih fun x hx => hxs x (List.mem_cons_of_mem first hx)
    cases rest with
    | nil => exact hfirst
    | cons second rest => exact (hfirst.append hsep).append hrest

/-- A token that is neither a blank nor a comment at its first character. -/
theorem isLexed_of_cutToken? {c : Char} {more : List Char} {token : LenientToken}
    (hslash : c ≠ '/') (hgap : isGap c = false)
    (hcut : ∀ rest, cutToken? (c :: more ++ rest) = some (token, rest)) :
    IsLexed (c :: more) [token] := by
  refine ⟨by simp, fun steps rest => ?_⟩
  have hread : tokensWithin? (steps + 1) (c :: (more ++ rest)) =
      (tokensWithin? steps rest).map (token :: ·) := by
    rw [tokensWithin?]
    · have hcut : cutToken? (c :: (more ++ rest)) = some (token, rest) := hcut rest
      simp [hgap, hcut]
    · exact fun _ hc => absurd hc hslash
    · exact fun _ hc => absurd hc hslash
  rw [List.length_singleton, Nat.add_comm]
  exact hread

theorem isLexed_mark {c : Char} {token : LenientToken} (hmark : mark? c = some token) :
    IsLexed [c] [token] := by
  have hall : marks.all (fun c => c != '/' && !isGap c) = true := by decide +kernel
  have hc := List.all_eq_true.mp hall c (mem_marks hmark)
  rw [Bool.and_eq_true, bne_iff_ne, Bool.not_eq_true'] at hc
  apply isLexed_of_cutToken? hc.1 hc.2
  intro rest
  rw [List.singleton_append, cutToken?, hmark]

theorem isLexed_quote {s : String} (hs : IsQuotable s) :
    IsLexed (quote s) [.scalar (some s) (some (.string s))] := by
  have hgap : isGap '"' = false := by decide +kernel
  apply isLexed_of_cutToken? (by decide) hgap
  intro rest
  exact cutToken?_quote hs rest

end

/-! ## §3 Whole values -/

/-- Every key and every leaf of the value is a text that may stand between quotes. -/
inductive IsTextual : Value → Prop where
  | string {s : String} (hs : IsQuotable s) : IsTextual (.leaf (.string s))
  | array {items : List Value} (hitems : ∀ v ∈ items, IsTextual v) : IsTextual (.array items)
  | object {members : List (String × Value)} (hkeys : ∀ m ∈ members, IsQuotable m.1)
      (hvalues : ∀ m ∈ members, IsTextual m.2) : IsTextual (.object members)

/-- The tokens of a value of texts. -/
def textTokens (v : Value) : List LenientToken :=
  tokens (fun key => some (.string key)) (fun leaf => Value.string? (.leaf leaf)) v

theorem isLexed_compactChars {v : Value} (hv : IsTextual v) :
    IsLexed v.compactChars (textTokens v) := by
  have hcomma : IsLexed [','] [.comma] := isLexed_mark rfl
  induction hv with
  | string hs => exact isLexed_quote hs
  | array hitems ih =>
    rw [Value.compactChars_array, textTokens, tokens_array]
    have hopen : IsLexed ['['] [.openArray] := isLexed_mark rfl
    have hclose : IsLexed [']'] [.closeArray] := isLexed_mark rfl
    exact (hopen.append (hcomma.joinWith ih)).append hclose
  | object hkeys hvalues ih =>
    rw [Value.compactChars_object, textTokens, tokens_object]
    have hopen : IsLexed ['{'] [.openObject] := isLexed_mark rfl
    have hclose : IsLexed ['}'] [.closeObject] := isLexed_mark rfl
    have hcolon : IsLexed [':'] [.colon] := isLexed_mark rfl
    refine (hopen.append (hcomma.joinWith fun m hm => ?_)).append hclose
    exact ((isLexed_quote (hkeys m hm)).append hcolon).append (ih m hm)

/-- **A value of texts** that is written in one line is read as itself. -/
theorem parse?_compact {v : Value} (hv : IsTextual v) : parse? v.compact = some v := by
  have hlexed := isLexed_compactChars hv
  obtain ⟨spare, hspare⟩ := Nat.exists_eq_add_of_le hlexed.length_le
  have hread : tokensWithin? v.compactChars.length v.compactChars = some (textTokens v) := by
    have hall := hlexed.reads spare []
    rw [← hspare, List.append_nil] at hall
    rw [hall, tokensWithin?, Option.map_some, List.append_nil]
  rw [parse?, Value.compact, String.toList_ofList]
  simp only [hread]
  exact treeOfTokens?_tokens true _ _ v

end DeviceAccess.Json.Lenient
