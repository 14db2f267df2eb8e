import Mathlib
import DeviceAccess.Helper.Client
import DeviceAccess.Proofs.Fault
import DeviceAccess.Proofs.Text.Cut
import DeviceAccess.Proofs.Text.Digits

/-!
# Versions by their numbers

Versions are compared by four numbers, with zeros in the place of missing ones, and a helper passes
a minimum version whose numbers are not greater than its own. The revision is an exception: where it
is spelled as zero in the minimum version alone, the four numbers are the same, and still the helper
counts as older.

- `Version.Spells` says which numbers a text spells.
- `Version.compare_eq_lt_iff_padded` is the order of versions in terms of the numbers of their
  texts.
- `Link.availability_iff_numbers` is the law of the minimum version.
-/

namespace DeviceAccess

open Text

namespace Version

/-! ## §1 The numbers of a text -/

/-- The text spells one to four numbers of sixty-four bits, with dots between them. -/
structure Spells (text : String) (numbers : List Nat) : Prop where
  parts : List.Forall₂ (WrittenNumber limit64) (pieces '.' (trim text.toList)) numbers
  length_le : numbers.length ≤ 4

variable {text : String} {as bs : List Nat}

theorem mapM_word64?_eq_some_iff :
    (pieces '.' (trim text.toList)).mapM word64? = some as ↔
      List.Forall₂ (WrittenNumber limit64) (pieces '.' (trim text.toList)) as := by
  rw [mapM_eq_some_iff]
  simp only [word64?, boundedNat?_eq_some_iff]

theorem Spells.unique (ha : Spells text as) (hb : Spells text bs) : as = bs := by
  have hread := mapM_word64?_eq_some_iff.mpr ha.parts
  exact Option.some.inj (hread.symm.trans (mapM_word64?_eq_some_iff.mpr hb.parts))

/-- One to four numbers with zeros in the place of those that are missing. -/
def padded (numbers : List Nat) : List Nat := numbers.rightpad 4 0

/-- The four numbers of a version. -/
def numbers (v : Version) : List Nat := [v.major, v.minor, v.patch, v.revision.getD 0]

/-- The version has the given one to four numbers, and a revision exactly if there are four. -/
structure HasNumbers (v : Version) (as : List Nat) : Prop where
  numbers_eq : v.numbers = padded as
  revision_iff : v.revision.isSome ↔ as.length = 4
  length_le : as.length ≤ 4

theorem hasNumbers_of_ofNumbers? {v : Version} (h : ofNumbers? as = some v) :
    v.HasNumbers as := by
  unfold ofNumbers? at h
  split at h
  all_goals cases h
  all_goals exact ⟨rfl, by simp, by simp⟩

/-- A version is read from a text that spells its numbers. -/
theorem exists_spells_of_parse? {v : Version} (h : parse? text = some v) :
    ∃ as, Spells text as ∧ v.HasNumbers as := by
  obtain ⟨as, hread, hv⟩ := Option.bind_eq_some_iff.mp h
  have hnumbers := hasNumbers_of_ofNumbers? hv
  exact ⟨as, ⟨mapM_word64?_eq_some_iff.mp hread, hnumbers.length_le⟩, hnumbers⟩

/-- A text that spells numbers is read. -/
theorem exists_parse?_of_spells (h : Spells text as) :
    ∃ v, parse? text = some v ∧ v.HasNumbers as := by
  have hread := mapM_word64?_eq_some_iff.mpr h.parts
  -- a text has at least one piece
  have hne : as ≠ [] := by
    rintro rfl
    exact pieces_ne_nil _ _ (List.forall₂_nil_right_iff.mp h.parts)
  obtain ⟨v, hv⟩ : ∃ v, ofNumbers? as = some v := by
    match as, hne, h.length_le with
    | [_], _, _ | [_, _], _, _ | [_, _, _], _, _ | [_, _, _, _], _, _ => exact ⟨_, rfl⟩
  exact ⟨v, Option.bind_eq_some_iff.mpr ⟨as, hread, hv⟩, hasNumbers_of_ofNumbers? hv⟩

/-! ## §2 The order -/

/-- Both have the same four numbers, but only the second has the last of them spelled, as a zero. -/
structure LacksZeroOf (as bs : List Nat) : Prop where
  padded_eq : padded as = padded bs
  missing : as.length < 4
  spelled : bs.length = 4

theorem revisionRank_lt_iff (r s : Option Nat) :
    revisionRank r < revisionRank s ↔
      r.getD 0 < s.getD 0 ∨ r.getD 0 = s.getD 0 ∧ r = none ∧ s.isSome := by
  cases r with
  | some m => cases s <;> simp [revisionRank]
  | none =>
    cases s with
    | none => simp [revisionRank]
    | some n =>
      -- a revision of zero comes behind none, any other is greater than zero
      have hcases : 0 < n ∨ 0 = n := by omega
      simpa [revisionRank] using hcases

theorem compare_eq_lt_iff {v w : Version} :
    v.compare w = .lt ↔
      v.numbers < w.numbers ∨ v.numbers = w.numbers ∧ v.revision = none ∧ w.revision.isSome := by
  simp only [compare, numbers, Ordering.then_eq_lt, Nat.compare_eq_lt, Nat.compare_eq_eq,
    revisionRank_lt_iff, List.cons_lt_cons_iff, List.cons.injEq, lt_irrefl]
  tauto

/-- The order of versions is that of their four numbers, but for a revision that one lacks. -/
theorem compare_eq_lt_iff_padded {v w : Version} (hv : v.HasNumbers as) (hw : w.HasNumbers bs) :
    v.compare w = .lt ↔ padded as < padded bs ∨ LacksZeroOf as bs := by
  have hmissing : v.revision = none ↔ as.length < 4 := by
    have hlength := hv.length_le
    rw [← Option.not_isSome_iff_eq_none, hv.revision_iff]
    omega
  rw [compare_eq_lt_iff, hv.numbers_eq, hw.numbers_eq, hmissing, hw.revision_iff]
  refine or_congr_right ⟨?_, fun h => ⟨h.padded_eq, h.missing, h.spelled⟩⟩
  rintro ⟨hsame, hless, hfour⟩
  exact ⟨hsame, hless, hfour⟩

theorem isAtLeast_iff {v w : Version} (hv : v.HasNumbers as) (hw : w.HasNumbers bs) :
    v.isAtLeast w = true ↔ padded bs ≤ padded as ∧ ¬LacksZeroOf as bs := by
  rw [isAtLeast, bne_iff_ne, ne_eq, compare_eq_lt_iff_padded hv hw, not_or, not_lt]

end Version

/-! ## §3 The minimum version -/

/-- What a client that requires a version with certain numbers says to the version of a helper. -/
structure Admission (required : List Nat) (version : String) (outcome : Except Fault String) :
    Prop where
  /-- The helper passes if its numbers are not less, and no revision is lacking. -/
  passes_iff : outcome = .ok version ↔ ∃ numbers, Version.Spells version numbers ∧
    Version.padded required ≤ Version.padded numbers ∧ ¬Version.LacksZeroOf numbers required
  /-- Otherwise it counts as missing. -/
  unavailable : outcome ≠ .ok version → ∃ message, outcome = .error (.unavailable message)
  /-- The numbers alone decide, unless a revision is lacking. -/
  by_numbers_iff :
    (outcome = .ok version ↔ ∃ numbers, Version.Spells version numbers ∧
      Version.padded required ≤ Version.padded numbers) ↔
    ∀ numbers, Version.Spells version numbers → ¬Version.LacksZeroOf numbers required

namespace Client

theorem admits_iff {c : Client} {least : Version} {required : List Nat}
    (hminimum : c.minimum = some least) (hrequired : least.HasNumbers required) (version : String) :
    c.admits version = true ↔ ∃ numbers, Version.Spells version numbers ∧
      Version.padded required ≤ Version.padded numbers ∧ ¬Version.LacksZeroOf numbers required := by
  unfold admits
  rw [hminimum]
  cases hparse : Version.parse? version with
  | none =>
    have hnone : ∀ numbers, ¬Version.Spells version numbers := by
      intro numbers hspells
      obtain ⟨v, hv, _⟩ := Version.exists_parse?_of_spells hspells
      rw [hparse] at hv
      cases hv
    simp [hnone]
  | some actual =>
    obtain ⟨numbers, hspells, hnumbers⟩ := Version.exists_spells_of_parse? hparse
    simp only [Version.isAtLeast_iff hnumbers hrequired]
    constructor
    · rintro ⟨hle, hzero⟩
      exact ⟨numbers, hspells, hle, hzero⟩
    · rintro ⟨others, hothers, hle, hzero⟩
      rw [hspells.unique hothers]
      exact ⟨hle, hzero⟩

end Client

namespace Link

variable {σ : Type} {transport : Transport σ} {link next : Link σ} {version : String}

/-- Asking changes nothing about the minimum version. -/
theorem minimum_ping (transport : Transport σ) (link : Link σ) :
    (ping transport link).2.client.minimum = link.client.minimum := rfl

/-- A version that was answered is given back, or the helper counts as missing. -/
theorem availability_of_ping (hping : ping transport link = (.ok version, next)) :
    availability transport link =
      (if next.client.admits version then .ok version else .error (next.client.tooOld version),
        next) := by
  unfold availability
  rw [hping]
  simp only
  split <;> rfl

theorem admission_of_ping {least : Version} {required : List Nat}
    (hminimum : link.client.minimum = some least) (hrequired : least.HasNumbers required)
    (hping : ping transport link = (.ok version, next)) :
    Admission required version (availability transport link).1 := by
  have hnext : next.client.minimum = some least := by
    have hkept := minimum_ping transport link
    rwa [hping, hminimum] at hkept
  have hadmits := Client.admits_iff hnext hrequired version
  have hpasses : (availability transport link).1 = .ok version ↔
      next.client.admits version = true := by
    rw [availability_of_ping hping]
    simp only
    split <;> simp_all
  refine ⟨hpasses.trans hadmits, fun hrefused => ?_, ?_⟩
  · rw [availability_of_ping hping]
    simp only
    split
    · rename_i hadmitted
      exact absurd (hpasses.mpr hadmitted) hrefused
    · exact ⟨_, rfl⟩
  · rw [hpasses, hadmits]
    constructor
    · -- numbers that lack a revision are not less, so the helper would pass by them
      rintro hiff numbers hspells hzero
      obtain ⟨others, hothers, _, hnot⟩ :=
        hiff.mpr ⟨numbers, hspells, le_of_eq hzero.padded_eq.symm⟩
      rw [hothers.unique hspells] at hnot
      exact hnot hzero
    · intro hnone
      constructor
      · rintro ⟨numbers, hspells, hle, _⟩
        exact ⟨numbers, hspells, hle⟩
      · rintro ⟨numbers, hspells, hle⟩
        exact ⟨numbers, hspells, hle, hnone numbers hspells⟩

/-- **The law of the minimum version**: a client takes every text that spells a version as minimum.
Then a helper passes if the numbers that it answers are not less, and is unavailable otherwise, and
the versions before the minimum are those whose four numbers are less. Both hold unless one text
lacks a revision that the other spells as zero. -/
theorem availability_iff_numbers (c : Client) {minimum : String} {least : Version}
    (hminimum : Version.parse? minimum = some least) :
    ∃ client required, c.requiring minimum = .ok client ∧ Version.Spells minimum required ∧
      (∀ (σ : Type) (transport : Transport σ) (peer : σ) (version : String) (next : Link σ),
        ping transport ⟨client, peer⟩ = (.ok version, next) →
          Admission required version (availability transport ⟨client, peer⟩).1) ∧
      ∀ (text : String) (v : Version), Version.parse? text = some v →
        ∃ numbers, Version.Spells text numbers ∧
          (v.compare least = .lt ↔
            Version.padded numbers < Version.padded required ∨
              Version.LacksZeroOf numbers required) := by
  obtain ⟨required, hspells, hrequired⟩ := Version.exists_spells_of_parse? hminimum
  refine ⟨{ c with minimum := some least }, required, ?_, hspells, ?_, ?_⟩
  · simp only [Client.requiring, hminimum]
  · intro σ transport peer version next hping
    exact admission_of_ping rfl hrequired hping
  · intro text v hv
    obtain ⟨numbers, hnumbers, hhas⟩ := Version.exists_spells_of_parse? hv
    exact ⟨numbers, hnumbers, Version.compare_eq_lt_iff_padded hhas hrequired⟩

/-- A helper that answers every request with a version. -/
def answering (version : String) : Transport Unit := fun _ peer =>
  let result := "\x7b\"version\":\"" ++ version ++ "\"\x7d"
  (.ok (utf8Text ("\x7b\"commandId\":1,\"result\":" ++ result ++ "\x7d")), peer)

/-- A helper with a revision passes a minimum version of two numbers. -/
theorem availability_iff_numbers_revision :
    let client : Client := { nextId := 1, minimum := some ⟨2, 0, 0, none⟩ }
    Client.start.requiring " 2.0" = .ok client ∧
      (ping (answering "2.0.1.7") ⟨client, ()⟩).1 = .ok "2.0.1.7" ∧
      (availability (answering "2.0.1.7") ⟨client, ()⟩).1 = .ok "2.0.1.7" := by
  intro client
  have hclient : Client.start.requiring " 2.0" = .ok client := by decide
  have hping : ping (answering "2.0.1.7") ⟨client, ()⟩ =
      (.ok "2.0.1.7", ⟨{ client with nextId := 2 }, ()⟩) :=
    Prod.ext (by decide +kernel) rfl
  have hminimum : Version.Spells " 2.0" [2, 0] :=
    ⟨Version.mapM_word64?_eq_some_iff.mp (by decide), by decide⟩
  have hversion : Version.Spells "2.0.1.7" [2, 0, 1, 7] :=
    ⟨Version.mapM_word64?_eq_some_iff.mp (by decide), by decide⟩
  have hparse : Version.parse? " 2.0" = some ⟨2, 0, 0, none⟩ := by decide
  obtain ⟨other, required, hother, hspells, hadmission, _⟩ :=
    availability_iff_numbers Client.start hparse
  obtain rfl : client = other := Except.ok.inj (hclient.symm.trans hother)
  obtain rfl : required = [2, 0] := hspells.unique hminimum
  refine ⟨hclient, by rw [hping], ?_⟩
  refine (hadmission Unit _ () _ _ hping).passes_iff.mpr ⟨_, hversion, by decide, fun hzero => ?_⟩
  exact absurd hzero.spelled (by decide)

/-- A helper with the numbers of the minimum version counts as missing if it does not spell the
revision. -/
theorem unavailable_of_lacking_zero :
    let client : Client := { nextId := 1, minimum := some ⟨1, 2, 3, some 0⟩ }
    Client.start.requiring "1.2.3.0" = .ok client ∧
      (ping (answering "1.2.3") ⟨client, ()⟩).1 = .ok "1.2.3" ∧
      Version.Spells "1.2.3.0" [1, 2, 3, 0] ∧ Version.Spells "1.2.3" [1, 2, 3] ∧
      Version.padded [1, 2, 3, 0] ≤ Version.padded [1, 2, 3] ∧
      ∃ message, (availability (answering "1.2.3") ⟨client, ()⟩).1 =
        .error (.unavailable message) := by
  intro client
  refine ⟨by decide, by decide +kernel,
    ⟨Version.mapM_word64?_eq_some_iff.mp (by decide), by decide⟩,
    ⟨Version.mapM_word64?_eq_some_iff.mp (by decide), by decide⟩, by decide, ?_⟩
  exact ⟨"Native helper version 1.2.3 is older than 1.2.3+0", by decide +kernel⟩

end Link

end DeviceAccess
