import Mathlib
import DeviceAccess.Helper.Callers
import DeviceAccess.Proofs.Helper.Request

/-!
# The numbers of requests

However callers of one client take turns, and whatever becomes of their calls, the requests are
numbered one after another, from one on and modulo 2 ^ 32. A caller sends the requests that were
handed out to it, each once, and no others.

- `Step.counter` says which steps count: only the first step of a call.
- `Step.unsent` keeps the books of one caller: what it had to send and what was handed out to it is
  what it has sent and what it has still to send.
- `Run.map_id` and `Run.unsent` carry both through a run.
- `run_perform` goes the other way: a call on a link that nobody shares is a run.
-/

namespace DeviceAccess

open Text

/-! ## §1 Calls -/

/-- A call on a link takes the next number, sends one message and makes of the answer what every
caller makes of it. -/
theorem Call.perform_eq {σ : Type} (transport : Transport σ) (call : Call) (link : Link σ) :
    call.perform transport link =
      (call.conclude link.client
        (transport (link.client.issue call.command).1.octets link.peer).1,
        { client := (link.client.issue call.command).2
          peer := (transport (link.client.issue call.command).1.octets link.peer).2 }) := by
  cases call with
  | ping => rfl
  | shouldEnroll user => rfl
  | deviceInfo attributes => rfl
  | availability =>
    simp only [Call.perform, Call.conclude, Link.availability, Link.ping, Link.call, Call.command]
    cases Client.interpret Result.version?
        (transport (link.client.issue Command.ping).1.octets link.peer).1 with
    | error fault => rfl
    | ok version =>
      -- the minimum version is the same whatever the next number is
      show (if link.client.admits version then (Except.ok version, _)
        else (Except.error (link.client.tooOld version), _)) = _
      by_cases hadmits : link.client.admits version
      · simp only [if_pos hadmits]
        rfl
      · simp only [if_neg hadmits]
        rfl

/-! ## §2 Numbers -/

/-- Numbers that follow one another are different until all numbers of thirty-two bits were used. -/
theorem nodup_map_ofNat (first : Nat) {count : Nat} (h : count ≤ 2 ^ 32) :
    ((List.range' first count).map UInt32.ofNat).Nodup := by
  apply List.Nodup.map_on
  · intro m hm n hn hsame
    rw [List.mem_range'_1] at hm hn
    have hmod : m % 2 ^ 32 = n % 2 ^ 32 := by
      simpa using congrArg UInt32.toNat hsame
    omega
  · exact List.nodup_range'

/-- The consecutive numbers among consecutive numbers. -/
theorem take_drop_range' (first count start length : Nat) :
    ((List.range' first count).drop start).take length =
      List.range' (first + start) (min length (count - start)) := by
  rw [List.drop_range', Nat.mul_one]
  rcases Nat.le_total (count - start) length with h | h
  · rw [List.take_range'_of_length_le h, Nat.min_eq_right h]
  · rw [List.take_range'_of_length_ge h, Nat.min_eq_left h]

namespace Callers

variable {ι : Type}

/-! ## §3 What can be seen -/

theorem handedOut_append (before after : List (Event ι)) :
    handedOut (before ++ after) = handedOut before ++ handedOut after :=
  List.filterMap_append

theorem messages_append (before after : List (Event ι)) :
    messages (before ++ after) = messages before ++ messages after :=
  List.filterMap_append

variable [DecidableEq ι] {s t : Callers ι} {event : Event ι} {events : List (Event ι)} {who : ι}

theorem eventsOf_append (who : ι) (before after : List (Event ι)) :
    eventsOf who (before ++ after) = eventsOf who before ++ eventsOf who after :=
  List.filter_append _ _

/-! ## §4 Steps -/

@[simp]
theorem stage_moved (s : Callers ι) (who : ι) (stage : Stage) :
    (s.moved who stage).stage who = stage := by
  simp [moved]

theorem stage_moved_of_ne {who other : ι} (h : other ≠ who) (s : Callers ι) (stage : Stage) :
    (s.moved who stage).stage other = s.stage other := by
  simp [moved, h]

namespace Step

/-- A step hands out the request with the next number, or leaves the client as it is. -/
theorem counter (h : Step s event t) :
    (∃ request, handedOut [event] = [request] ∧ request.id = s.client.nextId ∧
        t.client.nextId = s.client.nextId + 1) ∨
      (handedOut [event] = [] ∧ t.client = s.client) := by
  cases h with
  | number who call hidle hissue =>
    cases hissue
    exact .inl ⟨_, rfl, rfl, rfl⟩
  | send who hstage => exact .inr ⟨rfl, rfl⟩
  | finish who hstage answer => exact .inr ⟨rfl, rfl⟩
  | abandon who hstage => exact .inr ⟨rfl, rfl⟩

/-- A caller does not move in the steps of others. -/
theorem stage_of_ne (h : Step s event t) (hwho : event.caller ≠ who) :
    t.stage who = s.stage who := by
  cases h with
  | number _ call hidle hissue => exact stage_moved_of_ne hwho.symm _ _
  | send _ hstage => exact stage_moved_of_ne hwho.symm _ _
  | finish _ hstage answer => exact stage_moved_of_ne hwho.symm _ _
  | abandon _ hstage => exact stage_moved_of_ne hwho.symm _ _

/-- In a step of its own a caller gets a request while it has nothing to send, or sends what it has,
or has nothing to send before and after. -/
theorem unsent_self (h : Step s event t) :
    (s.stage event.caller).unsent ++ (handedOut [event]).map Request.octets =
      messages [event] ++ (t.stage event.caller).unsent := by
  cases h with
  | @number who call request client hidle hissue =>
    show (s.stage who).unsent ++ [request.octets] =
      [] ++ (({ s with client }.moved who (.numbered call request)).stage who).unsent
    rw [hidle, stage_moved]
    rfl
  | @send who call request hstage =>
    show (s.stage who).unsent ++ [] =
      [request.octets] ++ ((s.moved who (.waiting call request)).stage who).unsent
    rw [hstage, stage_moved]
    rfl
  | @finish who call request hstage answer =>
    show (s.stage who).unsent ++ [] = [] ++ ((s.moved who .idle).stage who).unsent
    rw [hstage, stage_moved]
    rfl
  | @abandon who call request hstage =>
    show (s.stage who).unsent ++ [] = [] ++ ((s.moved who .idle).stage who).unsent
    rw [hstage, stage_moved]
    rfl

/-- For every caller, what it had to send and what was handed out to it is what it has sent and what
it has still to send. -/
theorem unsent (h : Step s event t) (who : ι) :
    (s.stage who).unsent ++ (handedOut (eventsOf who [event])).map Request.octets =
      messages (eventsOf who [event]) ++ (t.stage who).unsent := by
  -- an event counts for the caller whose step it was, and for no other
  by_cases hwho : event.caller = who
  · subst hwho
    have hown : eventsOf event.caller [event] = [event] := by simp [eventsOf]
    rw [hown]
    exact h.unsent_self
  · have hother : eventsOf who [event] = [] := by simp [eventsOf, hwho]
    rw [hother, h.stage_of_ne hwho]
    simp [handedOut, messages]

/-- The request of a call has the command of the call. -/
theorem command_eq {call : Call} {request : Request} (h : Step s (.number who call request) t) :
    request.command = call.command := by
  cases h with
  | number who call hidle hissue =>
    cases hissue
    rfl

end Step

/-! ## §5 Runs -/

namespace Run

/-- The requests of a run are numbered in the order in which they were handed out, and the client
knows the number that comes next. -/
theorem map_id {minimum : Option Version} (h : Run (start minimum) events t) :
    (handedOut events).map Request.id =
        (List.range' 1 (handedOut events).length).map UInt32.ofNat ∧
      t.client.nextId = UInt32.ofNat ((handedOut events).length + 1) := by
  -- by induction on the run: both parts together, since a request takes the number of the client
  induction h with
  | refl => exact ⟨rfl, rfl⟩
  | @step events t u event h hstep ih =>
    obtain ⟨hids, hnext⟩ := ih
    rw [handedOut_append]
    rcases hstep.counter with ⟨request, hrequest, hid, hcount⟩ | ⟨hnone, hclient⟩
    · have hlast : request.id = UInt32.ofNat (1 + (handedOut events).length) := by
        rw [hid, hnext, Nat.add_comm]
      rw [hrequest, List.length_append, List.length_singleton]
      constructor
      · rw [List.map_append, hids, List.range'_1_concat, List.map_append, List.map_singleton,
          List.map_singleton, hlast]
      · rw [hcount, hnext, ← UInt32.ofNat_one, ← UInt32.ofNat_add]
    · rw [hnone, List.append_nil, hclient]
      exact ⟨hids, hnext⟩

/-- A caller has sent the requests that were handed out to it, up to the one it has still to send. -/
theorem unsent {minimum : Option Version} (h : Run (start minimum) events t) (who : ι) :
    messages (eventsOf who events) ++ (t.stage who).unsent =
      (handedOut (eventsOf who events)).map Request.octets := by
  -- the books are even before the first call, and every step keeps them so
  induction h with
  | refl => rfl
  | @step events t u event h hstep ih =>
    rw [eventsOf_append, messages_append, handedOut_append, List.map_append, ← ih,
      List.append_assoc, List.append_assoc, hstep.unsent who]

/-- Every request that was handed out has the command of its call. -/
theorem command_eq (h : Run s events t) {call : Call} {request : Request}
    (hmem : .number who call request ∈ events) : request.command = call.command := by
  induction h with
  | refl => cases hmem
  | step h hstep ih =>
    rcases List.mem_append.mp hmem with hbefore | hlast
    · exact ih hbefore
    · rw [List.mem_singleton] at hlast
      subst hlast
      exact hstep.command_eq

/-- The first requests have the first numbers. -/
theorem map_toNat_take {minimum : Option Version} (h : Run (start minimum) events t) {count : Nat}
    (hcount : count ≤ (handedOut events).length) :
    ((handedOut events).take count).map (fun request => request.id.toNat) =
      (List.range' 1 count).map (· % 2 ^ 32) := by
  have hids : ((handedOut events).take count).map Request.id =
      (List.range' 1 count).map UInt32.ofNat := by
    rw [List.map_take, h.map_id.1, ← List.map_take, List.take_range'_of_length_ge hcount]
  calc ((handedOut events).take count).map (fun request => request.id.toNat)
      = (((handedOut events).take count).map Request.id).map UInt32.toNat := by
        rw [List.map_map]
        rfl
    _ = (List.range' 1 count).map (· % 2 ^ 32) := by
        rw [hids, List.map_map]
        exact List.map_congr_left fun n _ => UInt32.toNat_ofNat'

/-- Consecutive requests have different numbers until all numbers were used. -/
theorem nodup_take_drop {minimum : Option Version} (h : Run (start minimum) events t)
    (first : Nat) : ((((handedOut events).drop first).take (2 ^ 32)).map Request.id).Nodup := by
  rw [List.map_take, List.map_drop, h.map_id.1, ← List.map_drop, ← List.map_take,
    take_drop_range']
  exact nodup_map_ofNat _ (Nat.min_le_left _ _)

/-- **The numbers of requests.** In every run of callers of one client, whatever becomes of their
calls, the requests are numbered from one on modulo 2 ^ 32, in the order in which they are handed
out. So the numbers of 2 ^ 32 consecutive requests are different. Every caller sends the requests
that were handed out to it, each once, and each is written with its own number and the command of
the call. -/
theorem numbers {minimum : Option Version} (h : Run (start minimum) events t) :
    (∀ count ≤ (handedOut events).length,
      ((handedOut events).take count).map (fun request => request.id.toNat) =
        (List.range' 1 count).map (· % 2 ^ 32)) ∧
      (∀ first, ((((handedOut events).drop first).take (2 ^ 32)).map Request.id).Nodup) ∧
      (∀ who, messages (eventsOf who events) ++ (t.stage who).unsent =
        (handedOut (eventsOf who events)).map Request.octets) ∧
      ∀ who call request, .number who call request ∈ events →
        ∃ members,
          (textOfUtf8? request.octets).bind Json.parse? = some (.object members) ∧
            Request.IsDocumentOf request.id call.command members := by
  refine ⟨fun count hcount => h.map_toNat_take hcount, h.nodup_take_drop, h.unsent, ?_⟩
  intro who call request hmem
  have hcommand : request.command = call.command := h.command_eq hmem
  rw [← hcommand]
  exact request.exists_parse?_octets

/-- Two callers take turns. Both calls fail, one because the transport does and one because of what
it brings, and the call after them is given up. -/
theorem numbers_of_turns :
    ∃ events t, Run (start none : Callers Bool) events t ∧
      (handedOut events).map (fun request => request.id.toNat) = [1, 2, 3] ∧
      messages (eventsOf true events) ++ (t.stage true).unsent =
        (handedOut (eventsOf true events)).map Request.octets := by
  have hnone : Run (start none : Callers Bool) [] (start none) := .refl
  have hbegun := (((hnone.step (.number true .ping rfl rfl)).step
    (.number false (.shouldEnroll "user") rfl rfl)).step (.send false rfl)).step (.send true rfl)
  have hfailed := (hbegun.step (.finish false rfl (.error ⟨.brokenPipe, ""⟩))).step
    (.finish true rfl (.ok []))
  have hrun := ((hfailed.step (.number true .availability rfl rfl)).step (.send true rfl)).step
    (.abandon true rfl)
  obtain ⟨hids, -, hsent, -⟩ := Run.numbers hrun
  exact ⟨_, _, hrun, hids 3 (by decide), hsent true⟩

end Run

/-! ## §6 A caller alone -/

/-- **A call on a link that nobody shares is a run.** -/
theorem run_perform {σ : Type} (transport : Transport σ) (call : Call) {link : Link σ}
    (hclient : s.client = link.client) (hidle : s.stage who = .idle) :
    Run s
      [.number who call (link.client.issue call.command).1,
        .send who (link.client.issue call.command).1.octets,
        .finish who call (call.perform transport link).1]
      { s with client := (call.perform transport link).2.client } := by
  have hback : Function.update s.stage who .idle = s.stage := by
    rw [← hidle, Function.update_eq_self]
  have hnumber := Run.refl.step (.number who call hidle rfl)
  have hsend := hnumber.step (.send who (stage_moved _ who _))
  have hfinish := hsend.step (.finish who (stage_moved _ who _)
    (transport (s.client.issue call.command).1.octets link.peer).1)
  -- the caller is idle as before, and the next number does not matter to what it makes of the answer
  simp only [moved, Function.update_idem, hback] at hfinish
  rw [call.perform_eq, ← hclient]
  exact hfinish

end Callers

end DeviceAccess
