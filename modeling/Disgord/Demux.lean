import Disgord.Events

/-! The operation demultiplexer: one iteration of the `operationHandlers` loop per
inbound packet, with `eventHandler`, `sendHelloPacket` and `sendIdentityPacket`. Only this
loop and the registry calls write `Session`, so a run over packets and registrations is
the whole history of the session state. -/
namespace Disgord

/-- The fields of `Client` that the demultiplexer reads and writes. -/
structure Session where
  sequenceNumber : UInt64
  sessionID : String
  trace : List String
  heartbeatInterval : UInt64
  lastHeartbeatAck : Nat
  trackedEvents : List String
  deriving DecidableEq, Repr

/-- The zero values left by `NewClient`. -/
def Session.initial : Session := ⟨0, "", [], 0, 0, []⟩

@[simp] theorem Session.initial_sequenceNumber : Session.initial.sequenceNumber = 0 := rfl
@[simp] theorem Session.initial_sessionID : Session.initial.sessionID = "" := rfl
@[simp] theorem Session.initial_trackedEvents : Session.initial.trackedEvents = [] := rfl

/-- What handling one packet sets in motion, in program order: an `Emit`, a send on
`eventChan`, `go m.reconnect()`, the InvalidSession goroutine, or `go m.pulsate()`. -/
inductive Effect where
  | emit (command : String) (data : Payload)
  | dispatch (e : Event)
  | reconnect
  | identifyLater
  | pulsate
  deriving DecidableEq, Repr

/-- The sequence number an effect carries to the wire, if any. -/
def Effect.sequence : Effect → Option UInt64
  | .emit _ (.heartbeat n) | .emit _ (.resume _ _ n) => some n
  | _ => none

def Effect.isDispatch : Effect → Bool
  | .dispatch _ => true
  | _ => false

/-- What stays fixed for a client: its `Config`, `runtime.GOOS` and the decoders. -/
structure Setup where
  conf : Config
  goos : String
  codec : Codec

variable (setup : Setup)

/-- The locked section of `eventHandler`: increment, compare, roll back on mismatch. -/
def sequenceCheck (s : Session) (p : DiscordPacket) : Bool × Session :=
  let s := { s with sequenceNumber := s.sequenceNumber + 1 }
  if p.sequenceNumber ≠ s.sequenceNumber then
    (false, { s with sequenceNumber := s.sequenceNumber - 1 })
  else (true, s)

def passes (s : Session) (p : DiscordPacket) : Bool := (sequenceCheck s p).1

def eventHandler (s : Session) (p : DiscordPacket) : Session × List Effect :=
  match sequenceCheck s p with
  | (false, s) => (s, [.reconnect])
  | (true, s) =>
    let dispatch := [Effect.dispatch ⟨p.eventName, p.data⟩]
    if p.eventName = event.ready then
      let ready := setup.codec.ready p.data
      ({ s with sessionID := ready.sessionID, trace := ready.trace }, dispatch)
    else if p.eventName = event.resume then (s, dispatch)
    else if p.op = opcode.discordEvent ∧ eventOfInterest s.trackedEvents p.eventName = false then
      (s, [])
    else (s, dispatch)

def sendIdentityPacket : Effect :=
  .emit event.identify (.identify (identityPayload setup.conf setup.goos))

def sendHelloPacket (s : Session) : List Effect :=
  .pulsate :: if s.sessionID = "" ∧ s.sequenceNumber = 0 then [sendIdentityPacket setup]
    else [.emit event.resume (.resume setup.conf.token s.sessionID s.sequenceNumber)]

/-- The `switch p.Op` of `operationHandlers`; `now` is `time.Now()`. -/
def handleOperation (s : Session) (now : Nat) (p : DiscordPacket) : Session × List Effect :=
  if p.op = opcode.discordEvent then eventHandler setup s p
  else if p.op = opcode.reconnect then (s, [.reconnect])
  else if p.op = opcode.invalidSession then (s, [.identifyLater])
  else if p.op = opcode.heartbeat then (s, [.emit event.heartbeat (.heartbeat s.sequenceNumber)])
  else if p.op = opcode.hello then
    let s := { s with heartbeatInterval := (setup.codec.hello p.data).heartbeatInterval }
    (s, sendHelloPacket setup s)
  else if p.op = opcode.heartbeatAck then ({ s with lastHeartbeatAck := now }, [])
  else (s, [])

/-- The demultiplexer's inputs: a packet taken from `receiveChan`, or a registry call
made by the application in between. -/
inductive Input where
  | packet (p : DiscordPacket) (now : Nat)
  | registration (call : Registration)
  deriving DecidableEq, Repr

def step (s : Session) : Input → Session × List Effect
  | .packet p now => handleOperation setup s now p
  | .registration call => ({ s with trackedEvents := call.apply s.trackedEvents }, [])

def run (s : Session) : List Input → Session
  | [] => s
  | x :: xs => run (step setup s x).1 xs

/-- The dispatch an input makes pass the sequence check, if it is one. -/
def Input.accepted (s : Session) : Input → List DiscordPacket
  | .packet p _ => if p.op = opcode.discordEvent ∧ passes s p = true then [p] else []
  | .registration _ => []

/-- The dispatches that passed the sequence check, in processing order. -/
def accepted (s : Session) : List Input → List DiscordPacket
  | [] => []
  | x :: xs => x.accepted s ++ accepted (step setup s x).1 xs

def registrations : List Input → List Registration
  | [] => []
  | .registration call :: xs => call :: registrations xs
  | .packet _ _ :: xs => registrations xs

theorem toNat_add_one (a : UInt64) : (a + 1).toNat = (a.toNat + 1) % 2 ^ 64 := by
  simp [UInt64.toNat_add]

theorem passes_iff {s : Session} {p : DiscordPacket} :
    passes s p = true ↔ p.sequenceNumber = s.sequenceNumber + 1 := by
  by_cases h : p.sequenceNumber = s.sequenceNumber + 1 <;> simp [passes, sequenceCheck, h]

theorem passes_iff_toNat {s : Session} {p : DiscordPacket} :
    passes s p = true ↔ p.sequenceNumber.toNat = (s.sequenceNumber.toNat + 1) % 2 ^ 64 := by
  rw [passes_iff, ← toNat_add_one]
  exact ⟨congrArg _, UInt64.ext⟩

/-- A rejected packet restores the counter: the decrement undoes the increment. -/
theorem sequenceCheck_eq (s : Session) (p : DiscordPacket) :
    sequenceCheck s p = (passes s p,
      if passes s p then { s with sequenceNumber := s.sequenceNumber + 1 } else s) := by
  by_cases h : p.sequenceNumber = s.sequenceNumber + 1 <;> simp [passes, sequenceCheck, h]

theorem eventHandler_reject {s : Session} {p : DiscordPacket} (rejected : passes s p = false) :
    eventHandler setup s p = (s, [.reconnect]) := by
  simp [eventHandler, sequenceCheck_eq s p, rejected]

theorem eventHandler_accept {s : Session} {p : DiscordPacket} (accepted : passes s p = true)
    (dispatch : p.op = opcode.discordEvent) :
    eventHandler setup s p =
      (if p.eventName = event.ready then
        { s with sequenceNumber := s.sequenceNumber + 1,
                 sessionID := (setup.codec.ready p.data).sessionID,
                 trace := (setup.codec.ready p.data).trace }
       else { s with sequenceNumber := s.sequenceNumber + 1 },
       if p.eventName = event.ready ∨ p.eventName = event.resume ∨
           eventOfInterest s.trackedEvents p.eventName = true
       then [.dispatch ⟨p.eventName, p.data⟩] else []) := by
  simp only [eventHandler, sequenceCheck_eq s p, accepted, if_true, dispatch, true_and]
  by_cases ready : p.eventName = event.ready
  · simp [ready]
  · by_cases resume : p.eventName = event.resume
    · rw [if_neg ready, if_pos resume, if_neg ready, if_pos (Or.inr (Or.inl resume))]
    · cases h : eventOfInterest s.trackedEvents p.eventName <;>
        simp [ready, resume, h, -eventOfInterest_iff]

/-- Control packets leave the counter, the session and the registry alone, dispatch
nothing, and send the current counter whenever they send one. -/
theorem handleOperation_control {s : Session} {now : Nat} {p : DiscordPacket}
    (control : p.op ≠ opcode.discordEvent) :
    (handleOperation setup s now p).1.sequenceNumber = s.sequenceNumber ∧
    (handleOperation setup s now p).1.sessionID = s.sessionID ∧
    (handleOperation setup s now p).1.trackedEvents = s.trackedEvents ∧
    ∀ e ∈ (handleOperation setup s now p).2,
      e.isDispatch = false ∧ ∀ v, e.sequence = some v → v = s.sequenceNumber := by
  unfold handleOperation
  rw [if_neg control]
  by_cases reconnect : p.op = opcode.reconnect
  · rw [if_pos reconnect]; simp [Effect.isDispatch, Effect.sequence]
  rw [if_neg reconnect]
  by_cases invalid : p.op = opcode.invalidSession
  · rw [if_pos invalid]; simp [Effect.isDispatch, Effect.sequence]
  rw [if_neg invalid]
  by_cases heartbeat : p.op = opcode.heartbeat
  · rw [if_pos heartbeat]; simp [Effect.isDispatch, Effect.sequence]
  rw [if_neg heartbeat]
  by_cases hello : p.op = opcode.hello
  · simp only [if_pos hello, sendHelloPacket]
    split <;> simp [sendIdentityPacket, Effect.isDispatch, Effect.sequence]
  rw [if_neg hello]
  split <;> simp

theorem Input.accepted_cases (s : Session) (x : Input) :
    x.accepted s = [] ∨ ∃ p now, x = .packet p now ∧ x.accepted s = [p] ∧
      p.op = opcode.discordEvent ∧ passes s p = true := by
  cases x with
  | packet p now =>
    by_cases h : p.op = opcode.discordEvent ∧ passes s p = true
    · exact .inr ⟨p, now, rfl, by simp [Input.accepted, h], h⟩
    · exact .inl (by simp only [Input.accepted, if_neg h])
  | registration => exact .inl rfl

/-- An input that is not an accepted dispatch keeps counter and session. -/
theorem step_of_not_accepted {s : Session} {x : Input} (h : x.accepted s = []) :
    (step setup s x).1.sequenceNumber = s.sequenceNumber ∧
      (step setup s x).1.sessionID = s.sessionID := by
  cases x with
  | packet p now =>
    by_cases dispatch : p.op = opcode.discordEvent
    · have rejected : passes s p = false := by simpa [Input.accepted, dispatch] using h
      simp [step, handleOperation, dispatch, eventHandler_reject setup rejected]
    · exact ⟨(handleOperation_control setup dispatch).1, (handleOperation_control setup dispatch).2.1⟩
  | registration => exact ⟨rfl, rfl⟩

theorem step_of_accepted {s : Session} {p : DiscordPacket} {now : Nat}
    (dispatch : p.op = opcode.discordEvent) (accepted : passes s p = true) :
    (step setup s (.packet p now)).1.sequenceNumber = p.sequenceNumber ∧
      (step setup s (.packet p now)).1.sessionID =
        if p.eventName = event.ready then (setup.codec.ready p.data).sessionID else s.sessionID := by
  simp only [step, handleOperation, if_pos dispatch, eventHandler_accept setup accepted dispatch]
  split <;> exact ⟨(passes_iff.mp accepted).symm, rfl⟩

theorem step_trackedEvents (s : Session) (x : Input) :
    (step setup s x).1.trackedEvents = (registrations [x]).foldl Registration.apply s.trackedEvents := by
  cases x with
  | packet p now =>
    by_cases dispatch : p.op = opcode.discordEvent
    · cases h : passes s p
      · simp [registrations, step, handleOperation, dispatch, eventHandler_reject setup h]
      · simp only [registrations, step, handleOperation, if_pos dispatch,
          eventHandler_accept setup h dispatch]
        split <;> rfl
    · exact (handleOperation_control setup dispatch).2.2.1
  | registration => rfl

theorem run_append (s : Session) (xs ys : List Input) :
    run setup s (xs ++ ys) = run setup (run setup s xs) ys := by
  induction xs generalizing s <;> simp [run, *]

theorem accepted_append (s : Session) (xs ys : List Input) :
    accepted setup s (xs ++ ys) = accepted setup s xs ++ accepted setup (run setup s xs) ys := by
  induction xs generalizing s <;> simp [run, accepted, *]

theorem run_sequenceNumber (s : Session) (xs : List Input) :
    (run setup s xs).sequenceNumber.toNat =
      (s.sequenceNumber.toNat + (accepted setup s xs).length) % 2 ^ 64 := by
  induction xs generalizing s with
  | nil => simp [run, accepted, Nat.mod_eq_of_lt (UInt64.toNat_lt _)]
  | cons x xs ih =>
    simp only [run, accepted, List.length_append, ih]
    rcases Input.accepted_cases s x with h | ⟨p, now, rfl, h, dispatch, pass⟩
    · rw [(step_of_not_accepted setup h).1, h, List.length_nil, Nat.zero_add]
    · rw [(step_of_accepted setup dispatch pass).1, h, passes_iff_toNat.mp pass]
      simp only [List.length_singleton, Nat.add_mod_mod]
      omega

/-- The accepted dispatches carry consecutive numbers after the starting counter. -/
theorem accepted_sequenceNumbers (s : Session) (xs : List Input) :
    (accepted setup s xs).map (·.sequenceNumber.toNat) =
      (List.range (accepted setup s xs).length).map
        (fun j => (s.sequenceNumber.toNat + j + 1) % 2 ^ 64) := by
  induction xs generalizing s with
  | nil => rfl
  | cons x xs ih =>
    simp only [accepted]
    rcases Input.accepted_cases s x with h | ⟨p, now, rfl, h, dispatch, pass⟩
    · rw [h, List.nil_append, ih, (step_of_not_accepted setup h).1]
    · rw [h, List.singleton_append, List.map_cons, ih, List.length_cons, List.range_succ_eq_map,
        List.map_cons, List.map_map, (step_of_accepted setup dispatch pass).1,
        passes_iff_toNat.mp pass]
      refine congrArg₂ _ (by simp) (List.map_congr_left fun j _ => ?_)
      simp only [Function.comp_apply, Nat.add_mod_mod]
      omega

theorem getLast?_append_getD {α β : Type} (l₁ l₂ : List α) (f : α → β) (d : β) :
    ((l₁ ++ l₂).getLast?.map f).getD d = (l₂.getLast?.map f).getD ((l₁.getLast?.map f).getD d) := by
  rcases List.eq_nil_or_concat' l₂ with rfl | ⟨l₂, z, rfl⟩ <;> simp [← List.append_assoc]

/-- The counter is the number carried by the most recently accepted dispatch. -/
theorem run_sequenceNumber_last (s : Session) (xs : List Input) :
    (run setup s xs).sequenceNumber =
      ((accepted setup s xs).getLast?.map (·.sequenceNumber)).getD s.sequenceNumber := by
  induction xs generalizing s with
  | nil => rfl
  | cons x xs ih =>
    simp only [run, accepted, getLast?_append_getD, ih]
    congr 1
    rcases Input.accepted_cases s x with h | ⟨p, now, rfl, h, dispatch, pass⟩
    · simp [h, (step_of_not_accepted setup h).1]
    · simp [h, (step_of_accepted setup dispatch pass).1]

/-- The session id is the one decoded from the most recently accepted READY. -/
theorem run_sessionID (s : Session) (xs : List Input) :
    (run setup s xs).sessionID =
      (((accepted setup s xs).filter (·.eventName = event.ready)).getLast?.map
        (fun p => (setup.codec.ready p.data).sessionID)).getD s.sessionID := by
  induction xs generalizing s with
  | nil => rfl
  | cons x xs ih =>
    simp only [run, accepted, List.filter_append, getLast?_append_getD, ih]
    congr 1
    rcases Input.accepted_cases s x with h | ⟨p, now, rfl, h, dispatch, pass⟩
    · simp [h, (step_of_not_accepted setup h).2]
    · rw [h, (step_of_accepted setup dispatch pass).2]
      by_cases ready : p.eventName = event.ready <;> simp [ready]

theorem run_trackedEvents (s : Session) (xs : List Input) :
    (run setup s xs).trackedEvents = (registrations xs).foldl Registration.apply s.trackedEvents := by
  induction xs generalizing s with
  | nil => rfl
  | cons x xs ih => cases x <;> simp [run, ih, step_trackedEvents, registrations]

/-- The accepted dispatches carry 1, ..., k and the counter is k (as 64-bit uints); the next
passes iff it carries k + 1, a rejected one only spawns a reconnect, and the wire sees k. -/
theorem run_accepted_consecutive (xs : List Input) :
    let s := run setup .initial xs
    let k := (accepted setup .initial xs).length
    (accepted setup .initial xs).map (·.sequenceNumber.toNat) =
        (List.range k).map (fun j => (j + 1) % 2 ^ 64) ∧
      s.sequenceNumber.toNat = k % 2 ^ 64 ∧
      (∀ p now, p.op = opcode.discordEvent →
        (passes s p = true ↔ p.sequenceNumber.toNat = (k + 1) % 2 ^ 64) ∧
        (passes s p = false → step setup s (.packet p now) = (s, [.reconnect]))) ∧
      ∀ x, ∀ e ∈ (step setup s x).2, ∀ v, e.sequence = some v → v.toNat = k % 2 ^ 64 := by
  have counter := run_sequenceNumber setup .initial xs
  simp only [Session.initial_sequenceNumber, UInt64.toNat_zero, Nat.zero_add] at counter
  refine ⟨by simpa using accepted_sequenceNumbers setup .initial xs, counter,
    fun p now dispatch => ⟨?_, fun rejected => ?_⟩, fun x e member v carried => ?_⟩
  · rw [passes_iff_toNat, counter, Nat.mod_add_mod]
  · simp [step, handleOperation, dispatch, eventHandler_reject setup rejected]
  · cases x with
    | packet p now =>
      by_cases dispatch : p.op = opcode.discordEvent
      · have quiet : e.sequence = none := by
          cases pass : passes (run setup .initial xs) p
          · simp_all [step, handleOperation, eventHandler_reject, Effect.sequence]
          · simp only [step, handleOperation, if_pos dispatch, eventHandler_accept setup pass dispatch]
              at member
            split at member <;> simp_all [Effect.sequence]
        simp [quiet] at carried
      · rw [← counter, ((handleOperation_control setup dispatch).2.2.2 e member).2 v carried]
    | registration => simp [step] at member

/-- The registry tracks a name iff its latest call registered it, and an accepted dispatch
is sent on `eventChan` iff it is READY, RESUMED or tracked; nothing else is sent there. -/
theorem dispatch_iff_tracked (xs : List Input) :
    let s := run setup .initial xs
    s.trackedEvents.Nodup ∧
      (∀ name, eventOfInterest s.trackedEvents name = true ↔
        latest (registrations xs) name = some true) ∧
      (∀ p now, p.op = opcode.discordEvent → passes s p = true →
        (step setup s (.packet p now)).2 =
          if p.eventName = event.ready ∨ p.eventName = event.resume ∨
              eventOfInterest s.trackedEvents p.eventName = true
          then [.dispatch ⟨p.eventName, p.data⟩] else []) ∧
      ∀ x, ∀ e ∈ (step setup s x).2, e.isDispatch = true →
        ∃ p now, x = .packet p now ∧ p.op = opcode.discordEvent ∧ passes s p = true ∧
          e = .dispatch ⟨p.eventName, p.data⟩ := by
  obtain ⟨nodup, tracked⟩ := registrations_tracked (registrations xs)
  have registry := run_trackedEvents setup .initial xs
  simp only [Session.initial_trackedEvents] at registry
  refine ⟨registry ▸ nodup, fun name => by rw [eventOfInterest_iff, registry, tracked],
    fun p now dispatch pass => ?_, fun x e member sent => ?_⟩
  · simp [step, handleOperation, dispatch, eventHandler_accept setup pass dispatch]
  · cases x with
    | packet p now =>
      by_cases dispatch : p.op = opcode.discordEvent
      · cases pass : passes (run setup .initial xs) p
        · simp_all [step, handleOperation, eventHandler_reject, Effect.isDispatch]
        · simp only [step, handleOperation, if_pos dispatch, eventHandler_accept setup pass dispatch]
            at member
          split at member
          · exact ⟨p, now, rfl, dispatch, pass, by simpa using member⟩
          · simp at member
      · simp [((handleOperation_control setup dispatch).2.2.2 e member).1] at sent
    | registration => simp [step] at member

theorem step_hello {s : Session} {p : DiscordPacket} {now : Nat} (hello : p.op = opcode.hello) :
    let s' := { s with heartbeatInterval := (setup.codec.hello p.data).heartbeatInterval }
    step setup s (.packet p now) = (s', sendHelloPacket setup s') := by
  simp [step, handleOperation, hello, opcode.hello, opcode.discordEvent, opcode.reconnect,
    opcode.invalidSession, opcode.heartbeat]

theorem step_hello_identify {s : Session} {p : DiscordPacket} {now : Nat}
    (hello : p.op = opcode.hello) (fresh : s.sessionID = "" ∧ s.sequenceNumber = 0) :
    (step setup s (.packet p now)).2 = [.pulsate, sendIdentityPacket setup] := by
  rw [step_hello setup hello]
  simp [sendHelloPacket, fresh]

/-- Dispatches named `name` and numbered 1, ..., n. -/
def numbered (n : Nat) (name : String) : List Input :=
  (List.range n).map fun j => .packet ⟨opcode.discordEvent, UInt64.ofNat (j + 1), name, []⟩ 0

/-- Dispatches numbered 1, ..., n in order all pass the check. -/
theorem accepted_numbered (n : Nat) (name : String) :
    accepted setup .initial (numbered n name) =
      (List.range n).map fun j => ⟨opcode.discordEvent, UInt64.ofNat (j + 1), name, []⟩ := by
  induction n with
  | zero => rfl
  | succ n ih =>
    have counter := run_sequenceNumber setup .initial (numbered n name)
    rw [ih, List.length_map, List.length_range] at counter
    have pass : passes (run setup .initial (numbered n name))
        ⟨opcode.discordEvent, UInt64.ofNat (n + 1), name, []⟩ = true := by
      rw [passes_iff_toNat, counter]
      show (n + 1) % 2 ^ 64 = _
      simp
    rw [numbered, List.range_succ, List.map_append, accepted_append, ← numbered, ih]
    simp [accepted, Input.accepted, pass]

/-- On a Hello: Identify when the counter (k mod 2^64) is 0 and the session id empty,
otherwise one Resume with the token, the last READY's session id and the last number. -/
theorem hello_identify_or_resume (xs : List Input) (p : DiscordPacket) (now : Nat)
    (hello : p.op = opcode.hello) :
    let k := (accepted setup .initial xs).length
    let session := (((accepted setup .initial xs).filter (·.eventName = event.ready)).getLast?.map
      (fun p => (setup.codec.ready p.data).sessionID)).getD ""
    let sequence := ((accepted setup .initial xs).getLast?.map (·.sequenceNumber)).getD 0
    (step setup (run setup .initial xs) (.packet p now)).2 = .pulsate ::
      if session = "" ∧ k % 2 ^ 64 = 0 then [sendIdentityPacket setup]
      else [.emit event.resume (.resume setup.conf.token session sequence)] := by
  have counter := run_sequenceNumber setup .initial xs
  have last := run_sequenceNumber_last setup .initial xs
  have session := run_sessionID setup .initial xs
  simp only [Session.initial_sequenceNumber, Session.initial_sessionID, UInt64.toNat_zero,
    Nat.zero_add] at counter last session
  have zero : (run setup .initial xs).sequenceNumber = 0 ↔
      (accepted setup .initial xs).length % 2 ^ 64 = 0 := by
    rw [← counter]
    exact ⟨fun h => by rw [h]; rfl, fun h => UInt64.ext (h.trans UInt64.toNat_zero.symm)⟩
  rw [step_hello setup hello]
  simp only [sendHelloPacket, session, zero]
  simp only [last]

/-- A Hello on the empty history is answered with Identify; one after READY (session
"abc") and a second dispatch, with a Resume carrying "abc" and seq 2. -/
theorem hello_identify_or_resume_after_ready :
    let sample : Setup := ⟨⟨"T", "", "", "", 0, 0, 0⟩, "linux", ⟨fun _ => ⟨"abc", []⟩, fun _ => ⟨45000⟩⟩⟩
    let hello : DiscordPacket := ⟨opcode.hello, 0, "", []⟩
    let history : List Input := [.packet ⟨opcode.discordEvent, 1, event.ready, []⟩ 0,
      .packet ⟨opcode.discordEvent, 2, "MESSAGE_CREATE", []⟩ 0]
    (step sample (run sample .initial []) (.packet hello 0)).2 =
        [.pulsate, .emit event.identify (.identify ⟨"T", "linux", "", "", false, 0, none⟩)] ∧
      (step sample (run sample .initial history) (.packet hello 0)).2 =
        [.pulsate, .emit event.resume (.resume "T" "abc" 2)] := by
  intro sample hello history
  exact ⟨(hello_identify_or_resume sample [] hello 0 rfl).trans (by decide),
    (hello_identify_or_resume sample history hello 0 rfl).trans (by decide)⟩

/-- After 2^64 accepted dispatches and no READY, a Hello is answered with Identify. -/
theorem hello_identifies_after_wraparound :
    let sample : Setup := ⟨⟨"T", "", "", "", 0, 0, 0⟩, "linux", ⟨fun _ => ⟨"", []⟩, fun _ => ⟨45000⟩⟩⟩
    (accepted sample .initial (numbered (2 ^ 64) "MESSAGE_CREATE")).length = 2 ^ 64 ∧
      (run sample .initial (numbered (2 ^ 64) "MESSAGE_CREATE")).sessionID = "" ∧
      (step sample (run sample .initial (numbered (2 ^ 64) "MESSAGE_CREATE"))
        (.packet ⟨opcode.hello, 0, "", []⟩ 0)).2 = [.pulsate, sendIdentityPacket sample] := by
  intro sample
  have count := accepted_numbered sample (2 ^ 64) "MESSAGE_CREATE"
  have counter := run_sequenceNumber sample .initial (numbered (2 ^ 64) "MESSAGE_CREATE")
  have session := run_sessionID sample .initial (numbered (2 ^ 64) "MESSAGE_CREATE")
  have length : (accepted sample .initial (numbered (2 ^ 64) "MESSAGE_CREATE")).length = 2 ^ 64 := by
    rw [count, List.length_map, List.length_range]
  have none : (run sample .initial (numbered (2 ^ 64) "MESSAGE_CREATE")).sessionID = "" := by
    rw [session, count, List.filter_map]
    simp [Function.comp_def, event.ready]
  have zero : (run sample .initial (numbered (2 ^ 64) "MESSAGE_CREATE")).sequenceNumber = 0 :=
    UInt64.ext (by rw [counter, length]; rfl)
  refine ⟨length, none, ?_⟩
  exact step_hello_identify sample rfl ⟨none, zero⟩

end Disgord
