import Mathlib
import DeviceAccess.Helper.Advice
import DeviceAccess.Proofs.Helper.Version

/-!
# Asking the helper for advice

A helper is asked at most twice, for its version and then for its advice, and what it answers
decides about nothing but its own status. The laws are about every transport: a record of all
requests and answers is kept beside the state of the other side, and a run is compared with what was
recorded. They hold whatever number a response carries, since no outcome depends on it apart from
the text of a refusal.

- `SaysAbsent`, `Fails` and `Gives` sort the answers to one request.
- `Consulted` has one rule for each way in which a consultation can end.
- `Replays` ties what was recorded to the transport.
- `refreshWithHelper_obeys` says what a refresh with a helper gives, and what it asks.
-/

namespace DeviceAccess

open Text

/-! ## §1 Answers -/

/-- The answer of a helper that cannot be started. -/
inductive SaysAbsent : Except IoFault Octets → Prop where
  | io {f : IoFault} (hkind : f.kind = .notFound ∨ f.kind = .permissionDenied) :
      SaysAbsent (.error f)

/-- The response has no text that says what went wrong, or an empty one. -/
def Response.IsAccepted (r : Response) : Prop := r.error = none ∨ r.error = some ""

variable {σ β : Type}

/-- The answer is of no use, and for what reason. -/
inductive Fails (decode : Json.Value → Option β) : Except IoFault Octets → Fault → Prop where
  | io {f : IoFault} (hkind : ¬(f.kind = .notFound ∨ f.kind = .permissionDenied)) :
      Fails decode (.error f) (.helperIo f)
  | unreadable {octets : Octets} (hreads : Response.ofOctets? octets = none) :
      Fails decode (.ok octets) Response.unreadable
  | rejected {octets : Octets} {r : Response} {message : String}
      (hreads : Response.ofOctets? octets = some r) (herror : r.error = some message)
      (hmessage : message ≠ "") : Fails decode (.ok octets) (.rejected r.id message)
  | noResult {octets : Octets} {r : Response} (hreads : Response.ofOctets? octets = some r)
      (haccepted : r.IsAccepted) (hdecode : decode r.result = none) :
      Fails decode (.ok octets) Response.unreadable

/-- The answer has a result. -/
inductive Gives (decode : Json.Value → Option β) : Except IoFault Octets → β → Prop where
  | result {octets : Octets} {r : Response} {value : β}
      (hreads : Response.ofOctets? octets = some r) (haccepted : r.IsAccepted)
      (hdecode : decode r.result = some value) : Gives decode (.ok octets) value

variable {decode : Json.Value → Option β} {answer : Except IoFault Octets} {fault : Fault}

theorem Response.outcome_of_isAccepted {r : Response} (h : r.IsAccepted) :
    r.outcome decode = (decode r.result).elim (.error unreadable) .ok := by
  have hnone : r.error.filter (· != "") = none := by
    rcases h with h | h <;> rw [h] <;> rfl
  unfold outcome
  rw [hnone]
  cases decode r.result <;> rfl

theorem Response.isAccepted_or (r : Response) :
    r.IsAccepted ∨ ∃ message, r.error = some message ∧ message ≠ "" := by
  unfold IsAccepted
  cases r.error with
  | none => exact .inl (.inl rfl)
  | some message =>
    by_cases hmessage : message = ""
    · exact .inl (.inr (congrArg some hmessage))
    · exact .inr ⟨message, rfl, hmessage⟩

theorem Response.outcome_of_message {r : Response} {message : String}
    (herror : r.error = some message) (hmessage : message ≠ "") :
    r.outcome decode = .error (.rejected r.id message) := by
  have hkept : r.error.filter (· != "") = some message := by
    simp [herror, Option.filter, hmessage]
  unfold outcome
  rw [hkept]

theorem SaysAbsent.interpret_eq (h : SaysAbsent answer) (decode : Json.Value → Option β) :
    ∃ message, Client.interpret decode answer = .error (.unavailable message) := by
  cases h with
  | io hkind => exact ⟨_, congrArg Except.error (if_pos hkind)⟩

theorem Gives.interpret_eq {value : β} (h : Gives decode answer value) :
    Client.interpret decode answer = .ok value := by
  cases h with
  | result hreads haccepted hdecode =>
    simp only [Client.interpret, hreads, Response.outcome_of_isAccepted haccepted, hdecode,
      Option.elim_some]

theorem Fails.interpret_eq (h : Fails decode answer fault) :
    Client.interpret decode answer = .error fault := by
  cases h with
  | io hkind => exact congrArg Except.error (if_neg hkind)
  | unreadable hreads => simp only [Client.interpret, hreads]
  | rejected hreads herror hmessage =>
    simp only [Client.interpret, hreads, Response.outcome_of_message herror hmessage]
  | noResult hreads haccepted hdecode =>
    simp only [Client.interpret, hreads, Response.outcome_of_isAccepted haccepted, hdecode,
      Option.elim_none]

theorem Fails.not_isHelperUnavailable (h : Fails decode answer fault) :
    fault.isHelperUnavailable = false := by
  cases h <;> rfl

/-- Every answer is of one of the three sorts. -/
theorem answer_cases (decode : Json.Value → Option β) (answer : Except IoFault Octets) :
    SaysAbsent answer ∨ (∃ fault, Fails decode answer fault) ∨
      ∃ value, Gives decode answer value := by
  cases answer with
  | error f =>
    by_cases hkind : f.kind = .notFound ∨ f.kind = .permissionDenied
    · exact .inl (.io hkind)
    · exact .inr (.inl ⟨_, .io hkind⟩)
  | ok octets =>
    right
    cases hreads : Response.ofOctets? octets with
    | none => exact .inl ⟨_, .unreadable hreads⟩
    | some r =>
      rcases r.isAccepted_or with haccepted | ⟨message, herror, hmessage⟩
      · cases hdecode : decode r.result with
        | none => exact .inl ⟨_, .noResult hreads haccepted hdecode⟩
        | some value => exact .inr ⟨value, .result hreads haccepted hdecode⟩
      · exact .inl ⟨_, .rejected hreads herror hmessage⟩

theorem Gives.unique {v w : β} (hv : Gives decode answer v) (hw : Gives decode answer w) :
    v = w :=
  Except.ok.inj (hv.interpret_eq.symm.trans hw.interpret_eq)

theorem Fails.unique {fault' : Fault} (h : Fails decode answer fault)
    (h' : Fails decode answer fault') : fault = fault' :=
  Except.error.inj (h.interpret_eq.symm.trans h'.interpret_eq)

theorem Gives.not_fails {value : β} (h : Gives decode answer value) (fault : Fault) :
    ¬Fails decode answer fault := by
  intro hfails
  cases h.interpret_eq.symm.trans hfails.interpret_eq

theorem Fails.not_gives (h : Fails decode answer fault) (value : β) :
    ¬Gives decode answer value :=
  fun hgives => hgives.not_fails fault h

theorem SaysAbsent.not_fails (h : SaysAbsent answer) (fault : Fault) :
    ¬Fails decode answer fault := by
  intro hfails
  obtain ⟨message, hinterpret⟩ := h.interpret_eq decode
  -- an absent helper is unavailable, and no failure says so
  obtain rfl := Except.error.inj (hinterpret.symm.trans hfails.interpret_eq)
  cases hfails.not_isHelperUnavailable

theorem SaysAbsent.not_gives (h : SaysAbsent answer) (value : β) :
    ¬Gives decode answer value := by
  intro hgives
  obtain ⟨message, hinterpret⟩ := h.interpret_eq decode
  cases hinterpret.symm.trans hgives.interpret_eq

theorem Gives.not_saysAbsent {value : β} (h : Gives decode answer value) : ¬SaysAbsent answer :=
  fun habsent => habsent.not_gives value h

theorem Fails.not_saysAbsent (h : Fails decode answer fault) : ¬SaysAbsent answer :=
  fun habsent => habsent.not_fails fault h

/-- The version passes the minimum version of the client, if it has one. -/
def Client.Accepts (c : Client) (version : String) : Prop :=
  ∀ least, c.minimum = some least →
    ∃ v, Version.parse? version = some v ∧ v.compare least ≠ .lt

theorem Client.admits_iff_accepts {c : Client} {version : String} :
    c.admits version = true ↔ c.Accepts version := by
  unfold admits Accepts
  cases c.minimum with
  | none => simp
  | some least =>
    cases Version.parse? version with
    | none => simp
    | some v => simp [Version.isAtLeast]

/-! ## §2 Endings of a consultation -/

/-- A request that was sent, and what came back. -/
structure Exchange where
  request : Octets
  answer : Except IoFault Octets

/-- The question for the version, with the next number of the client. -/
def Client.pingRequest (c : Client) : Octets := Request.octets { id := c.nextId, command := .ping }

/-- The question for advice about a user, with the number after that. -/
def Client.adviceRequest (c : Client) (user : String) : Octets :=
  Request.octets { id := c.nextId + 1, command := .shouldEnroll user }

/-- How a consultation ends, by what was asked and answered. -/
inductive Consulted (c : Client) (user : String) :
    List Exchange → Except Fault HelperStatus → Prop where
  | absent {a : Except IoFault Octets} (ha : SaysAbsent a) :
      Consulted c user [⟨c.pingRequest, a⟩] (.ok .notInstalled)
  | failed {a : Except IoFault Octets} {fault : Fault} (ha : Fails Result.version? a fault) :
      Consulted c user [⟨c.pingRequest, a⟩] (.error fault)
  | refused {a : Except IoFault Octets} {version : String} (ha : Gives Result.version? a version)
      (hgate : ¬c.Accepts version) :
      Consulted c user [⟨c.pingRequest, a⟩] (.ok .notInstalled)
  | absentLater {a b : Except IoFault Octets} {version : String}
      (ha : Gives Result.version? a version) (hgate : c.Accepts version) (hb : SaysAbsent b) :
      Consulted c user [⟨c.pingRequest, a⟩, ⟨c.adviceRequest user, b⟩] (.ok .notInstalled)
  | failedLater {a b : Except IoFault Octets} {version : String} {fault : Fault}
      (ha : Gives Result.version? a version) (hgate : c.Accepts version)
      (hb : Fails Result.advice? b fault) :
      Consulted c user [⟨c.pingRequest, a⟩, ⟨c.adviceRequest user, b⟩] (.error fault)
  | advised {a b : Except IoFault Octets} {version : String} {advice : Bool}
      (ha : Gives Result.version? a version) (hgate : c.Accepts version)
      (hb : Gives Result.advice? b advice) :
      Consulted c user [⟨c.pingRequest, a⟩, ⟨c.adviceRequest user, b⟩]
        (.ok (.installed version advice))

/-! ## §3 Consultations -/

variable {transport : Transport σ} {user version : String} {link next : Link σ}

theorem askHelper_of_error (hping : link.ping transport = (.error fault, next)) :
    askHelper transport user link = (.error fault, next) := by
  unfold askHelper Link.availability
  rw [hping]

theorem askHelper_of_refused (hping : link.ping transport = (.ok version, next))
    (hgate : next.client.admits version = false) :
    askHelper transport user link = (.error (next.client.tooOld version), next) := by
  unfold askHelper
  rw [Link.availability_of_ping hping, hgate]
  rfl

theorem askHelper_of_admitted (hping : link.ping transport = (.ok version, next))
    (hgate : next.client.admits version = true) :
    askHelper transport user link =
      ((next.shouldEnroll transport user).1.map (HelperStatus.installed version),
        (next.shouldEnroll transport user).2) := by
  unfold askHelper
  rw [Link.availability_of_ping hping, hgate]
  rfl

/-- The transport with a record of what was asked and answered. -/
def Transport.recorded (transport : Transport σ) : Transport (σ × List Exchange) :=
  fun request peer =>
    ((transport request peer.1).1,
      (transport request peer.1).2, peer.2 ++ [⟨request, (transport request peer.1).1⟩])

/-- The link with an empty record. -/
def Link.recording (link : Link σ) : Link (σ × List Exchange) := ⟨link.client, link.peer, []⟩

/-- The link without its record. -/
def Link.forget (link : Link (σ × List Exchange)) : Link σ := ⟨link.client, link.peer.1⟩

/-- One call puts one exchange behind the record. -/
theorem Link.call_recorded (transport : Transport σ) (command : Command)
    (decode : Json.Value → Option β) (c : Client) (peer : σ) (log : List Exchange) :
    let request := Request.octets { id := c.nextId, command }
    call transport.recorded command decode ⟨c, peer, log⟩ =
      (Client.interpret decode (transport request peer).1,
        ⟨{ c with nextId := c.nextId + 1 }, (transport request peer).2,
          log ++ [⟨request, (transport request peer).1⟩]⟩) := rfl

/-- The exchanges are what the transport does, one after the other, from the state `start` of the
other side on. -/
inductive Replays (transport : Transport σ) (start : σ) : List Exchange → σ → Prop where
  | none : Replays transport start [] start
  | more {log : List Exchange} {peer : σ} (h : Replays transport start log peer)
      (request : Octets) :
      Replays transport start (log ++ [⟨request, (transport request peer).1⟩])
        (transport request peer).2

/-- The record of the link is true: the transport did what it says. -/
def Link.IsTrue (transport : Transport σ) (start : σ) (link : Link (σ × List Exchange)) : Prop :=
  Replays transport start link.peer.2 link.peer.1

theorem Link.IsTrue.call {start : σ} {link : Link (σ × List Exchange)}
    (h : link.IsTrue transport start) (command : Command) (decode : Json.Value → Option β) :
    (link.call transport.recorded command decode).2.IsTrue transport start :=
  h.more _

/-- A consultation makes one call or two, so that a true record stays true. -/
theorem Link.IsTrue.askHelper {start : σ} {link : Link (σ × List Exchange)}
    (h : link.IsTrue transport start) (user : String) :
    (askHelper transport.recorded user link).2.IsTrue transport start := by
  obtain ⟨⟨outcome, next⟩, hping⟩ : ∃ x, link.ping transport.recorded = x := ⟨_, rfl⟩
  have hnext : next.IsTrue transport start := by
    have hcall := h.call .ping Result.version?
    unfold Link.ping at hping
    rwa [hping] at hcall
  cases outcome with
  | error fault =>
    rw [askHelper_of_error hping]
    exact hnext
  | ok version =>
    cases hgate : next.client.admits version with
    | false =>
      rw [askHelper_of_refused hping hgate]
      exact hnext
    | true =>
      rw [askHelper_of_admitted hping hgate]
      exact hnext.call (.shouldEnroll user) Result.advice?

/-- The second half of a consultation, behind a version that passed. -/
theorem consulted_advice {c : Client} {a : Except IoFault Octets}
    (ha : Gives Result.version? a version) (hgate : c.Accepts version)
    (b : Except IoFault Octets) :
    Consulted c user [⟨c.pingRequest, a⟩, ⟨c.adviceRequest user, b⟩]
      (toleratingAbsence
        ((Client.interpret Result.advice? b).map (HelperStatus.installed version))) := by
  rcases answer_cases Result.advice? b with hb | ⟨fault, hb⟩ | ⟨advice, hb⟩
  · obtain ⟨message, hinterpret⟩ := hb.interpret_eq Result.advice?
    rw [hinterpret]
    exact .absentLater ha hgate hb
  · rw [hb.interpret_eq, Except.map, toleratingAbsence, hb.not_isHelperUnavailable]
    exact .failedLater ha hgate hb
  · rw [hb.interpret_eq]
    exact .advised ha hgate hb

/-- A consultation ends in one of the ways that are allowed for what was recorded. -/
theorem consulted_askHelper (transport : Transport σ) (user : String) (link : Link σ) :
    let run := askHelper transport.recorded user link.recording
    Consulted link.client user run.2.peer.2 (toleratingAbsence run.1) := by
  obtain ⟨c, peer⟩ := link
  intro run
  -- the answers to both requests, and the links after them
  obtain ⟨⟨a, peer₁⟩, hfirst⟩ : ∃ x, transport c.pingRequest peer = x := ⟨_, rfl⟩
  obtain ⟨⟨b, peer₂⟩, hsecond⟩ : ∃ x, transport (c.adviceRequest user) peer₁ = x := ⟨_, rfl⟩
  let later : Link (σ × List Exchange) :=
    ⟨{ c with nextId := c.nextId + 1 }, peer₁, [⟨c.pingRequest, a⟩]⟩
  let last : Link (σ × List Exchange) :=
    ⟨{ c with nextId := c.nextId + 1 + 1 }, peer₂,
      [⟨c.pingRequest, a⟩, ⟨c.adviceRequest user, b⟩]⟩
  have hping : (Link.recording ⟨c, peer⟩).ping transport.recorded =
      (Client.interpret Result.version? a, later) := by
    have hcall := Link.call_recorded transport .ping Result.version? c peer []
    unfold Client.pingRequest at hfirst
    simp only [hfirst] at hcall
    exact hcall
  have hadvice : later.shouldEnroll transport.recorded user =
      (Client.interpret Result.advice? b, last) := by
    have hcall := Link.call_recorded transport (.shouldEnroll user) Result.advice? later.client
      peer₁ [⟨c.pingRequest, a⟩]
    unfold Client.adviceRequest at hsecond
    simp only [later, hsecond] at hcall
    exact hcall
  rcases answer_cases Result.version? a with ha | ⟨fault, ha⟩ | ⟨version, ha⟩
  · obtain ⟨message, hinterpret⟩ := ha.interpret_eq Result.version?
    rw [hinterpret] at hping
    have hrun : run = (.error (.unavailable message), later) := askHelper_of_error hping
    rw [hrun]
    exact .absent ha
  · rw [ha.interpret_eq] at hping
    have hrun : run = (.error fault, later) := askHelper_of_error hping
    rw [hrun, toleratingAbsence, ha.not_isHelperUnavailable]
    exact .failed ha
  rw [ha.interpret_eq] at hping
  cases hgate : later.client.admits version with
  | false =>
    have hrun : run = (.error (later.client.tooOld version), later) :=
      askHelper_of_refused hping hgate
    rw [hrun]
    apply Consulted.refused ha
    intro haccepts
    have hadmits : c.admits version = true := Client.admits_iff_accepts.mpr haccepts
    exact absurd (hgate.symm.trans hadmits) (by decide)
  | true =>
    have hrun : run = ((later.shouldEnroll transport.recorded user).1.map
        (HelperStatus.installed version), (later.shouldEnroll transport.recorded user).2) :=
      askHelper_of_admitted hping hgate
    have haccepts : c.Accepts version := Client.admits_iff_accepts.mp hgate
    rw [hrun, hadvice]
    exact consulted_advice ha haccepts b

/-- One call does the same without the record. -/
theorem Link.call_forget (transport : Transport σ) (command : Command)
    (decode : Json.Value → Option β) (link : Link (σ × List Exchange)) :
    call transport command decode link.forget =
      ((call transport.recorded command decode link).1,
        (call transport.recorded command decode link).2.forget) := rfl

theorem askHelper_forget (transport : Transport σ) (user : String)
    (link : Link (σ × List Exchange)) :
    askHelper transport user link.forget =
      ((askHelper transport.recorded user link).1,
        (askHelper transport.recorded user link).2.forget) := by
  have hforget := Link.call_forget transport .ping Result.version? link
  obtain ⟨⟨outcome, next⟩, hping⟩ : ∃ x, link.ping transport.recorded = x := ⟨_, rfl⟩
  have hplain : link.forget.ping transport = (outcome, next.forget) := by
    unfold Link.ping at hping ⊢
    rw [hforget, hping]
  cases outcome with
  | error fault => rw [askHelper_of_error hping, askHelper_of_error hplain]
  | ok version =>
    cases hgate : next.client.admits version with
    | false => rw [askHelper_of_refused hping hgate, askHelper_of_refused hplain hgate]; rfl
    | true => rw [askHelper_of_admitted hping hgate, askHelper_of_admitted hplain hgate]; rfl

/-! ## §4 Refreshing with a helper -/

/-- How a refresh with a helper ends, by the enrollment and by what was asked and answered. -/
inductive Refreshed (client : Option Client) (user : String) :
    Except Fault Enrollment → List Exchange → Except Fault EnrollmentReport → Prop where
  | failed {fault : Fault} : Refreshed client user (.error fault) [] (.error fault)
  | disabled {e : Enrollment} (hoff : e.state = .disabled) :
      Refreshed client user (.ok e) [] (.ok ⟨e, .skipped⟩)
  | noClient {e : Enrollment} (hon : e.state ≠ .disabled) (hclient : client = none) :
      Refreshed client user (.ok e) [] (.ok ⟨e, .notInstalled⟩)
  | asked {e : Enrollment} {c : Client} {log : List Exchange} {status : Except Fault HelperStatus}
      (hon : e.state ≠ .disabled) (hclient : client = some c)
      (hconsulted : Consulted c user log status) :
      Refreshed client user (.ok e) log (status.map fun helper => ⟨e, helper⟩)

/-- What was recorded on the way to a helper, if there is one. -/
def recordOf (link : Option (Link (σ × List Exchange))) : List Exchange :=
  link.elim [] fun l => l.peer.2

theorem helperStatus_of_disabled {e : Enrollment} (hoff : e.state = .disabled)
    (link : Option (Link σ)) :
    helperStatus transport user e link = (.ok .skipped, link) := by
  simp [helperStatus, hoff]

theorem helperStatus_of_none {e : Enrollment} (hon : e.state ≠ .disabled) :
    helperStatus transport user e none = (.ok .notInstalled, none) := by
  cases e with
  | disabled => exact absurd rfl hon
  | notEnrolled | enrolled => rfl

theorem helperStatus_of_some {e : Enrollment} (hon : e.state ≠ .disabled) (link : Link σ) :
    helperStatus transport user e (some link) =
      (toleratingAbsence (askHelper transport user link).1,
        some (askHelper transport user link).2) := by
  cases e with
  | disabled => exact absurd rfl hon
  | notEnrolled | enrolled => rfl

variable {settings : EnrollmentSettings} {policy : Policy} {store : CertificateStore}

theorem refreshWithHelper_of_error (h : refresh settings policy store = .error fault)
    (link : Option (Link σ)) :
    refreshWithHelper settings policy store transport user link = (.error fault, link) := by
  unfold refreshWithHelper
  rw [h]

theorem refreshWithHelper_of_ok {e : Enrollment} (h : refresh settings policy store = .ok e)
    (transport : Transport σ) (user : String) (link : Option (Link σ)) :
    refreshWithHelper settings policy store transport user link =
      ((helperStatus transport user e link).1.map fun helper => ⟨e, helper⟩,
        (helperStatus transport user e link).2) := by
  unfold refreshWithHelper
  rw [h]

/-- A refresh ends in one of the ways that are allowed for what was recorded. -/
theorem refreshed_refreshWithHelper (settings : EnrollmentSettings) (policy : Policy)
    (store : CertificateStore) (transport : Transport σ) (user : String)
    (link : Option (Link σ)) :
    let run := refreshWithHelper settings policy store transport.recorded user
      (link.map Link.recording)
    Refreshed (link.map Link.client) user (refresh settings policy store) (recordOf run.2)
      run.1 := by
  intro run
  -- before anything is asked the record is empty
  have hempty : recordOf (link.map Link.recording) = [] := by cases link <;> rfl
  cases hrefresh : refresh settings policy store with
  | error fault =>
    have hrun : run = (.error fault, link.map Link.recording) :=
      refreshWithHelper_of_error hrefresh _
    rw [hrun, hempty]
    exact .failed
  | ok e =>
    have hrun := refreshWithHelper_of_ok hrefresh transport.recorded user
      (link.map Link.recording)
    by_cases hoff : e.state = .disabled
    · rw [helperStatus_of_disabled hoff] at hrun
      rw [show run = _ from hrun, hempty]
      exact .disabled hoff
    cases link with
    | none =>
      rw [Option.map_none, helperStatus_of_none hoff] at hrun
      rw [show run = _ from hrun]
      exact .noClient hoff rfl
    | some l =>
      rw [Option.map_some, helperStatus_of_some hoff] at hrun
      rw [show run = _ from hrun]
      exact .asked hoff rfl (consulted_askHelper transport user l)

/-- What is recorded on the way to a helper is what the transport did. -/
theorem replays_refreshWithHelper (settings : EnrollmentSettings) (policy : Policy)
    (store : CertificateStore) (transport : Transport σ) (user : String) (link : Link σ) :
    ∃ peer, Replays transport link.peer
      (recordOf (refreshWithHelper settings policy store transport.recorded user
        (some link.recording)).2) peer := by
  -- nothing is recorded before the helper is asked
  have hstart : link.recording.IsTrue transport link.peer := .none
  cases hrefresh : refresh settings policy store with
  | error fault =>
    rw [refreshWithHelper_of_error hrefresh]
    exact ⟨_, hstart⟩
  | ok e =>
    rw [refreshWithHelper_of_ok hrefresh]
    by_cases hoff : e.state = .disabled
    · rw [helperStatus_of_disabled hoff]
      exact ⟨_, hstart⟩
    · rw [helperStatus_of_some hoff]
      exact ⟨_, hstart.askHelper user⟩

/-- The record is only kept: without it a refresh gives the same. -/
theorem refreshWithHelper_forget (settings : EnrollmentSettings) (policy : Policy)
    (store : CertificateStore) (transport : Transport σ) (user : String)
    (link : Option (Link (σ × List Exchange))) :
    let run := refreshWithHelper settings policy store transport.recorded user link
    refreshWithHelper settings policy store transport user (link.map Link.forget) =
      (run.1, run.2.map Link.forget) := by
  intro run
  cases hrefresh : refresh settings policy store with
  | error fault =>
    have hrun : run = (.error fault, link) := refreshWithHelper_of_error hrefresh _
    rw [hrun, refreshWithHelper_of_error hrefresh]
  | ok e =>
    have hrun := refreshWithHelper_of_ok hrefresh transport.recorded user link
    rw [show run = _ from hrun, refreshWithHelper_of_ok hrefresh]
    by_cases hoff : e.state = .disabled
    · rw [helperStatus_of_disabled hoff, helperStatus_of_disabled hoff]
    cases link with
    | none => rw [Option.map_none, helperStatus_of_none hoff, helperStatus_of_none hoff]; rfl
    | some l =>
      rw [Option.map_some, helperStatus_of_some hoff, helperStatus_of_some hoff,
        askHelper_forget]
      rfl

/-- A refresh gives the same as one with a record that is forgotten afterwards. -/
theorem refreshWithHelper_eq_recorded (settings : EnrollmentSettings) (policy : Policy)
    (store : CertificateStore) (transport : Transport σ) (user : String)
    (link : Option (Link σ)) :
    let run := refreshWithHelper settings policy store transport.recorded user
      (link.map Link.recording)
    refreshWithHelper settings policy store transport user link =
      (run.1, run.2.map Link.forget) := by
  intro run
  have hforget := refreshWithHelper_forget settings policy store transport user
    (link.map Link.recording)
  -- a record that is begun and forgotten leaves the link as it was
  have hsame : (link.map Link.recording).map Link.forget = link := by cases link <;> rfl
  rwa [hsame] at hforget

/-- Some exchanges with the transport explain the outcome. -/
theorem exists_log_refreshed (settings : EnrollmentSettings) (policy : Policy)
    (store : CertificateStore) (transport : Transport σ) (user : String)
    (link : Option (Link σ)) :
    ∃ log, Refreshed (link.map Link.client) user (refresh settings policy store) log
        (refreshWithHelper settings policy store transport user link).1 ∧
      ∀ l, link = some l → ∃ peer, Replays transport l.peer log peer := by
  rw [refreshWithHelper_eq_recorded settings policy store transport user link]
  refine ⟨_, refreshed_refreshWithHelper settings policy store transport user link, ?_⟩
  rintro l rfl
  exact replays_refreshWithHelper settings policy store transport user l

/-! ## §5 The law -/

/-- What a refresh with a helper has to keep to: `refreshed` is the enrollment without the helper,
`log` what was asked and answered, and `outcome` what the refresh gives. -/
structure Obeys (client : Option Client) (user : String) (refreshed : Except Fault Enrollment)
    (log : List Exchange) (outcome : Except Fault EnrollmentReport) : Prop where
  /-- A fault of the refresh itself is passed on, and nothing is asked. -/
  of_error : ∀ fault, refreshed = .error fault → outcome = .error fault ∧ log = []
  /-- Nothing is asked while certificates are not used. -/
  of_disabled : ∀ e, refreshed = .ok e → e.state = .disabled →
    outcome = .ok ⟨e, .skipped⟩ ∧ log = []
  /-- Only then is the helper passed over. -/
  skipped_iff : (∃ e, outcome = .ok ⟨e, .skipped⟩) ↔ ∃ e, refreshed = .ok e ∧ e.state = .disabled
  /-- At most two requests are sent, the first for the version and the second for advice. -/
  requests : ∀ c, client = some c →
    log.map Exchange.request <+: [c.pingRequest, c.adviceRequest user]
  /-- Nobody is asked without a client. -/
  of_no_client : client = none → log = []
  /-- Where certificates are used, a helper is asked for its version. -/
  asks_version : ∀ e c, refreshed = .ok e → e.state ≠ .disabled → client = some c →
    ∃ a later, log = ⟨c.pingRequest, a⟩ :: later
  /-- Advice is asked for behind a version that passes, and only there. -/
  asks_advice : ∀ c a later, client = some c → log = ⟨c.pingRequest, a⟩ :: later →
    ((∃ version, Gives Result.version? a version ∧ c.Accepts version) ↔
      ∃ b, later = [⟨c.adviceRequest user, b⟩])
  /-- No answer changes the enrollment. -/
  enrollment : ∀ report, outcome = .ok report → refreshed = .ok report.enrollment
  notInstalled_iff : (∃ e, outcome = .ok ⟨e, .notInstalled⟩) ↔
    (∃ e, refreshed = .ok e ∧ e.state ≠ .disabled) ∧
      (client = none ∨ (∃ x ∈ log, SaysAbsent x.answer) ∨
        ∃ c x version, client = some c ∧ log = [x] ∧ Gives Result.version? x.answer version ∧
          ¬c.Accepts version)
  installed_iff : ∀ e version advice, outcome = .ok ⟨e, .installed version advice⟩ ↔
    refreshed = .ok e ∧ ∃ x y, log = [x, y] ∧ Gives Result.version? x.answer version ∧
      Gives Result.advice? y.answer advice
  /-- Every other failure is the outcome. -/
  error_iff : ∀ fault, outcome = .error fault ↔
    refreshed = .error fault ∨ (∃ x, log = [x] ∧ Fails Result.version? x.answer fault) ∨
      ∃ x y, log = [x, y] ∧ Fails Result.advice? y.answer fault

section

variable {client : Option Client} {refreshed : Except Fault Enrollment} {log : List Exchange}
  {outcome : Except Fault EnrollmentReport}

/-- Every consultation begins with the question for the version. -/
theorem Consulted.asks_version {c : Client} {status : Except Fault HelperStatus}
    (h : Consulted c user log status) : ∃ a later, log = ⟨c.pingRequest, a⟩ :: later := by
  cases h with
  | absent | failed | refused => exact ⟨_, [], rfl⟩
  | absentLater | failedLater | advised => exact ⟨_, [_], rfl⟩

/-- The version decides whether a consultation goes on, and it goes on with the question for
advice. -/
theorem Consulted.asks_advice_iff {c : Client} {status : Except Fault HelperStatus}
    {a : Except IoFault Octets} {later : List Exchange} (h : Consulted c user log status)
    (hlog : log = ⟨c.pingRequest, a⟩ :: later) :
    (∃ version, Gives Result.version? a version ∧ c.Accepts version) ↔
      ∃ b, later = [⟨c.adviceRequest user, b⟩] := by
  cases h with
  | absent ha | failed ha =>
    obtain ⟨hfirst, rfl⟩ := List.cons.inj hlog
    obtain rfl := congrArg Exchange.answer hfirst
    simp [ha.not_gives]
  | refused ha hgate =>
    obtain ⟨hfirst, rfl⟩ := List.cons.inj hlog
    obtain rfl := congrArg Exchange.answer hfirst
    refine iff_of_false ?_ (by simp)
    rintro ⟨version, hversion, haccepts⟩
    -- the answer gives one version only, and that one was refused
    rw [hversion.unique ha] at haccepts
    exact hgate haccepts
  | absentLater ha hgate _ | failedLater ha hgate _ | advised ha hgate _ =>
    obtain ⟨hfirst, rfl⟩ := List.cons.inj hlog
    obtain rfl := congrArg Exchange.answer hfirst
    exact iff_of_true ⟨_, ha, hgate⟩ ⟨_, rfl⟩

theorem Refreshed.skipped_iff (h : Refreshed client user refreshed log outcome) :
    (∃ e, outcome = .ok ⟨e, .skipped⟩) ↔ ∃ e, refreshed = .ok e ∧ e.state = .disabled := by
  cases h with
  | failed => simp
  | disabled hoff => simp [hoff]
  | noClient hon _ => simp [hon]
  | asked hon _ hconsulted => cases hconsulted <;> simp [hon, Except.map]

theorem Refreshed.notInstalled_iff (h : Refreshed client user refreshed log outcome) :
    (∃ e, outcome = .ok ⟨e, .notInstalled⟩) ↔
      (∃ e, refreshed = .ok e ∧ e.state ≠ .disabled) ∧
        (client = none ∨ (∃ x ∈ log, SaysAbsent x.answer) ∨
          ∃ c x version, client = some c ∧ log = [x] ∧ Gives Result.version? x.answer version ∧
            ¬c.Accepts version) := by
  cases h with
  | failed => simp
  | disabled hoff => simp [hoff]
  | noClient hon hclient => simp [hon, hclient]
  | asked hon hclient hconsulted =>
    subst hclient
    -- an answer is of one sort only, so that no other ending fits what was recorded
    cases hconsulted with
    | absent ha => simp [hon, ha, Except.map]
    | failed ha => simp [ha.not_gives, ha.not_saysAbsent, Except.map]
    | refused ha hgate =>
      simp only [Except.map, Except.ok.injEq, EnrollmentReport.mk.injEq, and_true, exists_eq']
      refine ⟨fun _ => ⟨⟨_, rfl, hon⟩, .inr (.inr ?_)⟩, fun _ => trivial⟩
      exact ⟨_, _, _, rfl, rfl, ha, hgate⟩
    | absentLater _ _ hb => simp [hon, hb, Except.map]
    | failedLater ha _ hb => simp [ha.not_saysAbsent, hb.not_saysAbsent, Except.map]
    | advised ha _ hb => simp [ha.not_saysAbsent, hb.not_saysAbsent, Except.map]

theorem Refreshed.installed_iff (h : Refreshed client user refreshed log outcome) {e : Enrollment}
    {version : String} {advice : Bool} :
    outcome = .ok ⟨e, .installed version advice⟩ ↔
      refreshed = .ok e ∧ ∃ x y, log = [x, y] ∧ Gives Result.version? x.answer version ∧
        Gives Result.advice? y.answer advice := by
  cases h with
  | failed => simp
  | disabled hoff => simp
  | noClient hon hclient => simp
  | asked hon hclient hconsulted =>
    cases hconsulted with
    | absent _ => simp [Except.map]
    | failed _ => simp [Except.map]
    | refused _ _ => simp [Except.map]
    | absentLater _ _ hb => simp [hb.not_gives, Except.map]
    | failedLater _ _ hb => simp [hb.not_gives, Except.map]
    | advised ha _ hb =>
      simp only [Except.map, Except.ok.injEq, EnrollmentReport.mk.injEq,
        HelperStatus.installed.injEq]
      refine and_congr_right fun _ => ⟨?_, ?_⟩
      · rintro ⟨rfl, rfl⟩
        exact ⟨_, _, rfl, ha, hb⟩
      · rintro ⟨x, y, hlog, hx, hy⟩
        obtain ⟨rfl, hlater⟩ := List.cons.inj hlog
        obtain ⟨rfl, -⟩ := List.cons.inj hlater
        exact ⟨ha.unique hx, hb.unique hy⟩

theorem Refreshed.error_iff (h : Refreshed client user refreshed log outcome) :
    outcome = .error fault ↔
      refreshed = .error fault ∨ (∃ x, log = [x] ∧ Fails Result.version? x.answer fault) ∨
        ∃ x y, log = [x, y] ∧ Fails Result.advice? y.answer fault := by
  cases h with
  | failed => simp
  | disabled hoff => simp
  | noClient hon hclient => simp
  | asked hon hclient hconsulted =>
    cases hconsulted with
    | absent ha => simp [ha.not_fails, Except.map]
    | refused ha _ => simp [ha.not_fails, Except.map]
    | absentLater _ _ hb => simp [hb.not_fails, Except.map]
    | advised _ _ hb => simp [hb.not_fails, Except.map]
    | failed ha =>
      simp only [Except.map, Except.error.injEq]
      constructor
      · rintro rfl
        exact .inr (.inl ⟨_, rfl, ha⟩)
      · rintro (hfault | ⟨x, hlog, hx⟩ | ⟨x, y, hlog, _⟩)
        · cases hfault
        · obtain ⟨rfl, -⟩ := List.cons.inj hlog
          exact ha.unique hx
        · simp at hlog
    | failedLater _ _ hb =>
      simp only [Except.map, Except.error.injEq]
      constructor
      · rintro rfl
        exact .inr (.inr ⟨_, _, rfl, hb⟩)
      · rintro (hfault | ⟨x, hlog, _⟩ | ⟨x, y, hlog, hy⟩)
        · cases hfault
        · simp at hlog
        · obtain ⟨-, hlater⟩ := List.cons.inj hlog
          obtain ⟨rfl, -⟩ := List.cons.inj hlater
          exact hb.unique hy

theorem Refreshed.obeys (h : Refreshed client user refreshed log outcome) :
    Obeys client user refreshed log outcome where
  of_error fault hfault := by
    subst hfault
    cases h
    exact ⟨rfl, rfl⟩
  of_disabled e hok hoff := by
    subst hok
    cases h with
    | disabled _ => exact ⟨rfl, rfl⟩
    | noClient hon _ => exact absurd hoff hon
    | asked hon _ _ => exact absurd hoff hon
  requests c hclient := by
    cases h with
    | asked _ hasked hconsulted =>
      obtain rfl := Option.some.inj (hasked.symm.trans hclient)
      cases hconsulted <;> simp
    | _ => simp
  of_no_client hclient := by
    cases h with
    | asked _ hasked _ => cases hasked.symm.trans hclient
    | _ => rfl
  skipped_iff := h.skipped_iff
  asks_version e c hok hon hclient := by
    subst hok hclient
    cases h with
    | disabled hoff => exact absurd hoff hon
    | noClient _ hnone => cases hnone
    | asked _ hasked hconsulted =>
      obtain rfl := Option.some.inj hasked
      exact hconsulted.asks_version
  asks_advice c a later hclient hlog := by
    cases h with
    | asked _ hasked hconsulted =>
      obtain rfl := Option.some.inj (hasked.symm.trans hclient)
      exact hconsulted.asks_advice_iff hlog
    | _ => cases hlog
  enrollment report hreport := by
    cases h with
    | failed => cases hreport
    | disabled | noClient => cases hreport; rfl
    | asked _ _ hconsulted =>
      cases hconsulted with
      | absent | refused | absentLater | advised => cases hreport; rfl
      | failed | failedLater => cases hreport
  notInstalled_iff := h.notInstalled_iff
  installed_iff _ _ _ := h.installed_iff
  error_iff _ := h.error_iff

end

/-- **What a refresh with a helper gives and asks**, for every transport: the outcome is the same
without the record, what was recorded is what the transport did, and the outcome is one of the
endings that are allowed for it, so that it obeys the law. -/
theorem refreshWithHelper_obeys (settings : EnrollmentSettings) (policy : Policy)
    (store : CertificateStore) (transport : Transport σ) (user : String)
    (link : Option (Link σ)) :
    let run := refreshWithHelper settings policy store transport.recorded user
      (link.map Link.recording)
    let refreshed := refresh settings policy store
    refreshWithHelper settings policy store transport user link =
        (run.1, run.2.map Link.forget) ∧
      (∀ l, link = some l → ∃ peer, Replays transport l.peer (recordOf run.2) peer) ∧
      Refreshed (link.map Link.client) user refreshed (recordOf run.2) run.1 ∧
      Obeys (link.map Link.client) user refreshed (recordOf run.2) run.1 := by
  intro run refreshed
  have hrefreshed := refreshed_refreshWithHelper settings policy store transport user link
  refine ⟨?_, ?_, hrefreshed, hrefreshed.obeys⟩
  · exact refreshWithHelper_eq_recorded settings policy store transport user link
  · rintro l rfl
    exact replays_refreshWithHelper settings policy store transport user l

end DeviceAccess
