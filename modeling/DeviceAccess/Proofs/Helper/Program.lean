import Mathlib
import DeviceAccess.Proofs.Fault
import DeviceAccess.Proofs.Helper.Consultation
import DeviceAccess.Proofs.Helper.Frame
import DeviceAccess.Script.Program
import DeviceAccess.Settings.Helper

/-!
# Asking a helper program

A helper program is asked like every other helper, and what comes of a request can be told from what
the system does: whether the program starts, and what it writes for the frame of the request. These
laws are about all systems of programs.

- `Program.Exchanged` has one rule for each way in which a request to a program can end.
- `refreshWithProgram_refreshed` says that a refresh with a helper program ends as every refresh with a
  helper does, with requests that end in these ways.
- `refreshWithProgram_of_alike` is about two systems: what a program writes behind its answer makes no
  difference.
-/

namespace DeviceAccess

open Text

namespace Program

variable {programs programs' : Programs} {path : String} {args : List String} {message : Octets}

/-! ## §1 One request -/

/-- How a request to a program ends. -/
inductive Exchanged (programs : Programs) (path : String) (args : List String)
    (message : Octets) : Except IoFault Octets → Prop where
  /-- The program does not start, and the request is not looked at. -/
  | notStarted {fault : IoFault} (hstart : programs.start path args = .error fault) :
      Exchanged programs path args message (.error fault)
  /-- The request is too long for a frame. -/
  | tooLong {outputFor : Octets → Except IoFault Octets} {fault : IoFault}
      (hstart : programs.start path args = .ok outputFor)
      (hwrite : Frame.write message = .error fault) :
      Exchanged programs path args message (.error fault)
  /-- The program breaks off while the request is written to it. -/
  | brokenOff {outputFor : Octets → Except IoFault Octets} {fault : IoFault}
      (hstart : programs.start path args = .ok outputFor)
      (hlength : message.length ≤ Frame.maxLength)
      (houtput : outputFor (Frame.octets message) = .error fault) :
      Exchanged programs path args message (.error fault)
  /-- The output does not begin with a frame. -/
  | unframed {outputFor : Octets → Except IoFault Octets} {output : Octets} {fault : IoFault}
      (hstart : programs.start path args = .ok outputFor)
      (hlength : message.length ≤ Frame.maxLength)
      (houtput : outputFor (Frame.octets message) = .ok output)
      (hread : Frame.read output = .error fault) :
      Exchanged programs path args message (.error fault)
  /-- The output begins with the frame of the answer, whatever stands behind it. -/
  | answered {outputFor : Octets → Except IoFault Octets} {output answer rest : Octets}
      (hstart : programs.start path args = .ok outputFor)
      (hlength : message.length ≤ Frame.maxLength)
      (houtput : outputFor (Frame.octets message) = .ok output)
      (hframe : Frame.StartsWith output answer rest) :
      Exchanged programs path args message (.ok answer)

theorem write_of_le (hlength : message.length ≤ Frame.maxLength) :
    Frame.write message = .ok (Frame.octets message) := if_pos hlength

/-- A request step by step. -/
theorem exchange_eq_bind (programs : Programs) (path : String) (args : List String)
    (message : Octets) :
    exchange programs path args message =
      (programs.start path args).bind fun outputFor =>
        (Frame.write message).bind fun frame =>
          (outputFor frame).bind fun output => (Frame.read output).map Prod.fst := rfl

/-- Every request ends in one of these ways. -/
theorem exchanged_exchange (programs : Programs) (path : String) (args : List String)
    (message : Octets) :
    Exchanged programs path args message (exchange programs path args message) := by
  rw [exchange_eq_bind]
  cases hstart : programs.start path args with
  | error fault => exact .notStarted hstart
  | ok outputFor =>
    rw [Except.bind]
    by_cases hlength : message.length ≤ Frame.maxLength
    · rw [write_of_le hlength, Except.bind]
      cases houtput : outputFor (Frame.octets message) with
      | error fault => exact .brokenOff hstart hlength houtput
      | ok output =>
        rw [Except.bind]
        cases hread : Frame.read output with
        | error fault => exact .unframed hstart hlength houtput hread
        | ok found =>
          exact .answered hstart hlength houtput (Frame.read_eq_ok_iff.mp hread)
    · cases hwrite : Frame.write message with
      | error fault => exact .tooLong hstart hwrite
      | ok frame =>
        -- a message that is too long has no frame
        unfold Frame.write at hwrite
        rw [if_neg hlength] at hwrite
        cases hwrite

/-- **A request to a program** ends in the way that the rules say, and in no other. -/
theorem exchange_eq_iff {outcome : Except IoFault Octets} :
    exchange programs path args message = outcome ↔
      Exchanged programs path args message outcome := by
  constructor
  · rintro rfl
    exact exchanged_exchange programs path args message
  · intro h
    rw [exchange_eq_bind]
    cases h with
    | notStarted hstart =>
      rw [hstart]
      rfl
    | tooLong hstart hwrite =>
      rw [hstart, Except.bind, hwrite]
      rfl
    | brokenOff hstart hlength houtput =>
      rw [hstart, Except.bind, write_of_le hlength, Except.bind, houtput]
      rfl
    | unframed hstart hlength houtput hread =>
      rw [hstart, Except.bind, write_of_le hlength, Except.bind, houtput, Except.bind, hread]
      rfl
    | answered hstart hlength houtput hframe =>
      rw [hstart, Except.bind, write_of_le hlength, Except.bind, houtput, Except.bind,
        Frame.read_eq_ok_iff.mpr hframe]
      rfl

/-- A script that gives back what it gets, and then says more. -/
example :
    let script := Node.file (utf8Text "#!/bin/sh\ncat; echo done\n") true
    let files := (FileTree.empty.add "/h" script).files "/"
    exchange (Script.programs files) "/h" [] [1, 2, 3] = .ok [1, 2, 3] := by
  decide +kernel

/-! ## §2 Two systems -/

/-- What a program makes of its input is the same up to what stands behind the answer. -/
inductive AlikeOutput : Except IoFault Octets → Except IoFault Octets → Prop where
  | same (output : Except IoFault Octets) : AlikeOutput output output
  | answer {output output' answer rest rest' : Octets}
      (h : Frame.StartsWith output answer rest) (h' : Frame.StartsWith output' answer rest') :
      AlikeOutput (.ok output) (.ok output')

/-- Starting a program has the same effect up to what it writes behind its answers. -/
inductive Alike : Except IoFault (Octets → Except IoFault Octets) →
    Except IoFault (Octets → Except IoFault Octets) → Prop where
  | error (fault : IoFault) : Alike (.error fault) (.error fault)
  | ok {outputFor outputFor' : Octets → Except IoFault Octets}
      (h : ∀ input, AlikeOutput (outputFor input) (outputFor' input)) :
      Alike (.ok outputFor) (.ok outputFor')

theorem AlikeOutput.read_eq {output output' : Except IoFault Octets}
    (h : AlikeOutput output output') :
    (output.bind fun o => (Frame.read o).map Prod.fst) =
      output'.bind fun o => (Frame.read o).map Prod.fst := by
  cases h with
  | same => rfl
  | answer h h' =>
    rw [Except.bind, Except.bind, Frame.read_eq_ok_iff.mpr h, Frame.read_eq_ok_iff.mpr h']
    rfl

theorem exchange_of_alike (h : Alike (programs.start path args) (programs'.start path args))
    (message : Octets) :
    exchange programs path args message = exchange programs' path args message := by
  rw [exchange_eq_bind, exchange_eq_bind]
  generalize programs.start path args = started at h ⊢
  generalize programs'.start path args = started' at h ⊢
  cases h with
  | error fault => rfl
  | @ok outputFor outputFor' houtput =>
    -- the frame of a request does not depend on the system
    show (Frame.write message).bind _ = (Frame.write message).bind _
    congr 1
    funext frame
    exact (houtput frame).read_eq

theorem transport_of_alike (h : Alike (programs.start path args) (programs'.start path args)) :
    transport programs path args = transport programs' path args := by
  funext message _
  exact congrArg (·, ()) (exchange_of_alike h message)

/-- What a way to a program did is a list of requests to it. -/
theorem exchanged_of_replays {log : List Exchange} {peer : Unit}
    (h : Replays (transport programs path args) () log peer) :
    ∀ x ∈ log, Exchanged programs path args x.request x.answer := by
  induction h with
  | none => simp
  | more h request ih =>
    intro x hx
    rcases List.mem_append.mp hx with hbefore | hlast
    · exact ih x hbefore
    · rw [List.mem_singleton.mp hlast]
      exact exchanged_exchange programs path args request

end Program

/-! ## §3 Refreshing with a program -/

variable {settings : EnrollmentSettings} {policy : Policy} {store : CertificateStore}
  {programs programs' : Programs} {user : String}

theorem refreshWithProgram_of_client {p : HelperProgram} {client : Client}
    (hclient : p.client = .ok client) :
    refreshWithProgram settings policy store programs (some p) user =
      (refreshWithHelper settings policy store (p.transport programs) user
        (some { client, peer := () })).1 := by
  simp only [refreshWithProgram, HelperProgram.link, hclient]
  rfl

/-- **A refresh with a helper program** ends as every refresh with a helper does. Without a program
nobody is asked. With one the requests are made to that program, under the origin that it is told; a
minimum version that is none is the outcome, and then nobody is asked either. -/
theorem refreshWithProgram_refreshed (settings : EnrollmentSettings) (policy : Policy)
    (store : CertificateStore) (programs : Programs) (program : Option HelperProgram)
    (user : String) :
    let refreshed := refresh settings policy store
    let outcome := refreshWithProgram settings policy store programs program user
    (program = none → Refreshed none user refreshed [] outcome) ∧
      ∀ p, program = some p →
        (∀ fault, p.client = .error fault → outcome = .error fault) ∧
          ∀ client, p.client = .ok client →
            ∃ log, Refreshed (some client) user refreshed log outcome ∧
              ∀ x ∈ log, Program.Exchanged programs p.path p.origin.toList x.request x.answer := by
  intro refreshed outcome
  constructor
  · rintro rfl
    obtain ⟨log, hrefreshed, -⟩ := exists_log_refreshed settings policy store
      refreshWithProgram.noHelper user none
    obtain rfl := hrefreshed.obeys.of_no_client rfl
    exact hrefreshed
  · rintro p rfl
    constructor
    · intro fault hfault
      simp only [outcome, refreshWithProgram, HelperProgram.link, hfault]
      rfl
    · intro client hclient
      let link : Link Unit := { client, peer := () }
      obtain ⟨log, hrefreshed, hlog⟩ := exists_log_refreshed settings policy store
        (p.transport programs) user (some link)
      obtain ⟨peer, hreplays⟩ := hlog link rfl
      have houtcome : outcome = _ := refreshWithProgram_of_client hclient
      rw [houtcome]
      exact ⟨log, hrefreshed, Program.exchanged_of_replays hreplays⟩

/-- **What a program writes behind its answers makes no difference.** -/
theorem refreshWithProgram_of_alike {program : Option HelperProgram}
    (h : ∀ p, program = some p →
      Program.Alike (programs.start p.path p.origin.toList)
        (programs'.start p.path p.origin.toList)) :
    refreshWithProgram settings policy store programs program user =
      refreshWithProgram settings policy store programs' program user := by
  cases program with
  | none => rfl
  | some p =>
    have htransport : p.transport programs = p.transport programs' :=
      Program.transport_of_alike (h p rfl)
    simp only [refreshWithProgram, htransport]

end DeviceAccess
