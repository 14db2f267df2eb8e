import Mathlib
import DeviceAccess.Certificate.Basic
import DeviceAccess.Proofs.Certificate.Base64
import DeviceAccess.Proofs.Text.Cut

/-!
# Armoured certificates

A certificate may be given by its octets, or by the letters of its octets between two marks. Both
ways lead to the same outcome, whatever stands before the first mark and behind the second, and
wherever there are blanks between the letters.

- `IsSpaced` is a text with blanks put in anywhere; `IsSpaced.filter_eq` takes them out again.
- `ofArmoured_of_cuts` is the outcome for the first block of a text.
- `ofArmoured_eq_ofOctets` puts both together, and `ofArmoured_eq_ok_iff` says which texts are read as
  a given certificate.
-/

namespace DeviceAccess

open Text

/-! ## §1 Blanks between letters -/

namespace Text

/-- The second text is the first one with blanks of ASCII put in anywhere. -/
inductive IsSpaced : List Char → List Char → Prop where
  | nil : IsSpaced [] []
  | letter (c : Char) {letters spaced : List Char} (h : IsSpaced letters spaced) :
      IsSpaced (c :: letters) (c :: spaced)
  | blank {c : Char} (hc : isAsciiBlank c = true) {letters spaced : List Char}
      (h : IsSpaced letters spaced) : IsSpaced letters (c :: spaced)

variable {letters spaced : List Char}

/-- The blanks can be taken out again, if there were none before. -/
theorem IsSpaced.filter_eq (h : IsSpaced letters spaced)
    (hletters : ∀ c ∈ letters, isAsciiBlank c = false) :
    spaced.filter (!isAsciiBlank ·) = letters := by
  induction h with
  | nil => rfl
  | letter c h ih =>
    have hc := hletters c List.mem_cons_self
    rw [List.filter_cons_of_pos (by simp [hc]),
      ih fun d hd => hletters d (List.mem_cons_of_mem c hd)]
  | blank hc h ih => rw [List.filter_cons_of_neg (by simp [hc]), ih hletters]

theorem isSpaced_filter (spaced : List Char) :
    IsSpaced (spaced.filter (!isAsciiBlank ·)) spaced := by
  induction spaced with
  | nil => exact .nil
  | cons c spaced ih =>
    cases hc : isAsciiBlank c with
    | true =>
      rw [List.filter_cons_of_neg (by simp [hc])]
      exact .blank hc ih
    | false =>
      rw [List.filter_cons_of_pos (by simp [hc])]
      exact .letter c ih

/-- Only blanks are put in. -/
theorem IsSpaced.mem (h : IsSpaced letters spaced) {c : Char} (hc : c ∈ spaced) :
    c ∈ letters ∨ isAsciiBlank c = true := by
  induction h with
  | nil => cases hc
  | letter d h ih =>
    rcases List.mem_cons.mp hc with rfl | hc
    · exact .inl List.mem_cons_self
    · exact (ih hc).imp_left (List.mem_cons_of_mem d)
  | blank hd h ih =>
    rcases List.mem_cons.mp hc with rfl | hc
    · exact .inr hd
    · exact ih hc

end Text

namespace Certificate

variable {text : String} {octets : Octets} {front spaced back : List Char}

/-! ## §2 The letters of a block -/

theorem isAsciiBlank_of_isLetter {c : Char} (hc : Base64.IsLetter c) : isAsciiBlank c = false := by
  cases hblank : isAsciiBlank c with
  | false => rfl
  | true =>
    -- none of the five blanks has a value, and none is padding
    simp only [isAsciiBlank, Bool.or_eq_true, beq_iff_eq] at hblank
    have hnone : ¬Base64.IsLetter c := by
      unfold Base64.IsLetter
      rcases hblank with (((rfl | rfl) | rfl) | rfl) | rfl
      all_goals decide
    exact absurd hc hnone

/-- The letters of octets with blanks between have no hyphen. -/
theorem hyphen_not_mem (h : IsSpaced (Base64.encode octets) spaced) : '-' ∉ spaced := by
  intro hmem
  rcases h.mem hmem with hletter | hblank
  · have hnone : ¬Base64.IsLetter '-' := by
      unfold Base64.IsLetter
      decide
    exact hnone (Base64.mem_encode hletter)
  · exact absurd hblank (by decide)

/-- The letters end at the mark behind them, whatever follows it. -/
theorem firstCut_armourEnd (h : IsSpaced (Base64.encode octets) spaced) (back : List Char) :
    FirstCut armourEnd (spaced ++ armourEnd ++ back) spaced back := by
  have hmark : armourEnd = '-' :: armourEnd.tail := by decide
  rw [hmark]
  exact .of_not_mem (hyphen_not_mem h) back

theorem decode?_of_isSpaced (h : IsSpaced (Base64.encode octets) spaced) :
    Base64.decode? (spaced.filter (!isAsciiBlank ·)) = some octets := by
  rw [h.filter_eq fun c hc => isAsciiBlank_of_isLetter (Base64.mem_encode hc)]
  exact Base64.decode?_encode octets

/-! ## §3 Reading octets -/

theorem ofOctets_of_reads {body : X509.Structure} (h : X509.ofOctets? octets = some body) :
    ofOctets octets = .ok ⟨octets, body, h⟩ := by
  unfold ofOctets
  split
  · rename_i body' hbody
    obtain rfl : body' = body := Option.some.inj (hbody.symm.trans h)
    rfl
  · rename_i hnone
    rw [h] at hnone
    cases hnone

theorem ofOctets_of_not_reads (h : X509.ofOctets? octets = none) :
    ofOctets octets = .error (.certificate "malformed encoding") := by
  unfold ofOctets
  split
  · rename_i body hbody
    rw [h] at hbody
    cases hbody
  · rfl

theorem ofOctets_eq_ok_iff {c : Certificate} : ofOctets octets = .ok c ↔ c.octets = octets := by
  constructor
  · intro h
    cases hreads : X509.ofOctets? octets with
    | none =>
      rw [ofOctets_of_not_reads hreads] at h
      cases h
    | some body =>
      rw [ofOctets_of_reads hreads] at h
      cases h
      rfl
  · intro h
    subst h
    exact ofOctets_of_reads c.reads

/-- Octets are those of a certificate, or there is a fault of certificates. -/
theorem ofOctets_cases (octets : Octets) :
    (∃ c, ofOctets octets = .ok c ∧ c.octets = octets) ∨
      ∃ reason, ofOctets octets = .error (.certificate reason) := by
  cases hreads : X509.ofOctets? octets with
  | none => exact .inr ⟨_, ofOctets_of_not_reads hreads⟩
  | some body => exact .inl ⟨⟨octets, body, hreads⟩, ofOctets_of_reads hreads, rfl⟩

/-! ## §4 Reading blocks -/

/-- The outcome for the first block of a text is that for the octets of its letters. -/
theorem ofArmoured_of_cuts {body : List Char} (hbegin : FirstCut armourBegin text.toList front body)
    (hend : FirstCut armourEnd body spaced back)
    (hletters : Base64.decode? (spaced.filter (!isAsciiBlank ·)) = some octets) :
    ofArmoured text = ofOctets octets := by
  have hbegin := cutAtRun?_eq_some_iff.mpr hbegin
  have hend := cutAtRun?_eq_some_iff.mpr hend
  simp only [ofArmoured, hbegin, hend, hletters]

theorem ofArmoured_of_isSpaced
    (hbegin : FirstCut armourBegin text.toList front (spaced ++ armourEnd ++ back))
    (hspaced : IsSpaced (Base64.encode octets) spaced) : ofArmoured text = ofOctets octets :=
  ofArmoured_of_cuts hbegin (firstCut_armourEnd hspaced back) (decode?_of_isSpaced hspaced)

/-- **The texts that are read as a certificate** are those whose first block has the letters of its
octets. -/
theorem ofArmoured_eq_ok_iff {c : Certificate} :
    ofArmoured text = .ok c ↔
      ∃ front spaced back, FirstCut armourBegin text.toList front (spaced ++ armourEnd ++ back) ∧
        IsSpaced (Base64.encode c.octets) spaced := by
  constructor
  · intro h
    unfold ofArmoured at h
    split at h
    · cases h
    · rename_i front body hbegin
      split at h
      · cases h
      · rename_i spaced back hend
        have hbegin := cutAtRun?_eq_some_iff.mp hbegin
        have hend := cutAtRun?_eq_some_iff.mp hend
        split at h
        · cases h
        · rename_i octets hletters
          refine ⟨front, spaced, back, ?_, ?_⟩
          · rw [← hend.joined]
            exact hbegin
          · rw [ofOctets_eq_ok_iff.mp h, Base64.encode_of_decode? hletters]
            exact isSpaced_filter spaced
  · intro h
    obtain ⟨front, spaced, back, hbegin, hspaced⟩ := h
    rw [ofArmoured_of_isSpaced hbegin hspaced]
    exact ofOctets_eq_ok_iff.mpr rfl

/-- **A block is read like the octets in it**: the outcome is the certificate of the octets, or the
same fault of certificates. -/
theorem ofArmoured_eq_ofOctets
    (hbegin : FirstCut armourBegin text.toList front (spaced ++ armourEnd ++ back))
    (hspaced : IsSpaced (Base64.encode octets) spaced) :
    ofArmoured text = ofOctets octets ∧
      ((∃ c, ofOctets octets = .ok c ∧ c.octets = octets) ∨
        ∃ reason, ofOctets octets = .error (.certificate reason)) := by
  constructor
  · exact ofArmoured_of_isSpaced hbegin hspaced
  · exact ofOctets_cases octets

/-- A block with blanks in all places, behind a mark that is cut off and before another block. Its
octets end too early for a certificate. -/
theorem ofArmoured_eq_ofOctets_wrapped :
    let octets : Octets := [0x30, 0x82, 0x01, 0x0A]
    let front := "-----BEGIN CERTIFICATE----\n".toList
    let spaced := "\r\nMI IB\r\nC\tg=\x0c=\n".toList
    let back := "\n-----BEGIN CERTIFICATE-----\nMAA=\n-----END CERTIFICATE-----\n".toList
    let text := String.ofList (front ++ armourBegin ++ (spaced ++ armourEnd ++ back))
    FirstCut armourBegin text.toList front (spaced ++ armourEnd ++ back) ∧
      IsSpaced (Base64.encode octets) spaced ∧
      ofArmoured text = .error (.certificate "malformed encoding") := by
  intro octets front spaced back text
  have hbegin : FirstCut armourBegin text.toList front (spaced ++ armourEnd ++ back) := by
    rw [String.toList_ofList]
    exact cutAtRun?_eq_some_iff.mp (by decide)
  have hletters : spaced.filter (!isAsciiBlank ·) = Base64.encode octets := by decide
  have hspaced : IsSpaced (Base64.encode octets) spaced := by
    rw [← hletters]
    exact isSpaced_filter spaced
  refine ⟨hbegin, hspaced, ?_⟩
  rw [(ofArmoured_eq_ofOctets hbegin hspaced).1]
  exact ofOctets_of_not_reads (by decide +kernel)

end Certificate

end DeviceAccess
