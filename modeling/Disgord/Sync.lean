import Disgord.Server

/-! One session over one connection. With a single Hello and no InvalidSession, in any
order of server moves and deliveries, the dispatches in flight are numbered on from the
client's counter, so the client accepts every dispatch the server sends. -/
namespace Disgord

variable (setup : Setup) (sessionName : Nat → String) (encode : String → List UInt8)

/-- The numbers `s + 1, s + 2, ...`, the last one just before `next`. -/
def Consecutive (s next : UInt64) : List UInt64 → Prop
  | [] => next = s + 1
  | x :: xs => x = s + 1 ∧ Consecutive x next xs

theorem Consecutive.concat {s next : UInt64} {l : List UInt64} (h : Consecutive s next l) :
    Consecutive s (next + 1) (l ++ [next]) := by
  induction l generalizing s with
  | nil => exact ⟨h, rfl⟩
  | cons x xs ih => exact ⟨h.1, ih h.2⟩

/-- The handshakes under way: the Hello in flight to the client, the Identify in flight to
the server, or the session it opened. -/
def Wire.handshakes (w : Wire) : Nat :=
  match w.server.session with
  | none => w.toClient.length + w.toServer.length
  | some _ => 1

/-- Before the Identify is served: the client at 0 with no session id, and at most the
Hello in flight to it or the Identify in flight to the server. -/
def Wire.Opening (w : Wire) : Prop :=
  w.client.sequenceNumber = 0 ∧ w.client.sessionID = "" ∧
    (∀ p ∈ w.toClient, p.op = opcode.hello) ∧ (∀ q ∈ w.toServer, q.op = opcode.identify) ∧
    w.toClient.length + w.toServer.length ≤ 1

/-- After: nothing in flight to the server, and dispatches in flight to the client numbered
on from its counter up to the server's next number. -/
def Wire.Opened (w : Wire) (next : UInt64) : Prop :=
  w.toServer = [] ∧ (∀ p ∈ w.toClient, p.op = opcode.discordEvent) ∧
    Consecutive w.client.sequenceNumber next (w.toClient.map (·.sequenceNumber))

structure Wire.InSync (w : Wire) : Prop where
  accepted : w.rejected = 0
  quiet : w.identifyTimers = 0
  phase : match w.server.session with
    | none => w.Opening
    | some (_, next) => w.Opened next

theorem Wire.InSync.initial : Wire.initial.InSync where
  accepted := rfl
  quiet := rfl
  phase := show Wire.Opening _ from ⟨rfl, rfl, by simp [Wire.initial], by simp [Wire.initial], by decide⟩

/-- A Hello delivered to a client at 0 with no session id is answered by one Identify. -/
theorem deliver_hello {s : Session} {p : DiscordPacket} (now : Nat) (hello : p.op = opcode.hello)
    (zero : s.sequenceNumber = 0) (fresh : s.sessionID = "") :
    (step setup s (.packet p now)).1.sequenceNumber = 0 ∧
      (step setup s (.packet p now)).1.sessionID = "" ∧
      (step setup s (.packet p now)).2.flatMap Effect.frame =
        [⟨opcode.identify, .identify (identityPayload setup.conf setup.goos)⟩] ∧
      (step setup s (.packet p now)).2.filter (· = .identifyLater) = [] := by
  have control : p.op ≠ opcode.discordEvent := by rw [hello]; decide
  obtain ⟨counter, session, -⟩ := @handleOperation_control setup s now p control
  refine ⟨counter.trans zero, session.trans fresh, ?_⟩
  have identify : commandOpcode event.identify = some opcode.identify := by decide
  simp [step, handleOperation, hello, opcode.discordEvent, opcode.reconnect, opcode.invalidSession,
    opcode.heartbeat, opcode.hello, sendHelloPacket, zero, fresh, sendIdentityPacket, Effect.frame,
    identify]

/-- A dispatch numbered right after the client's counter passes, moves the counter to its
number, and puts nothing on the wire. -/
theorem deliver_dispatch {s : Session} {p : DiscordPacket} (now : Nat)
    (dispatch : p.op = opcode.discordEvent) (next : p.sequenceNumber = s.sequenceNumber + 1) :
    passes s p = true ∧ (step setup s (.packet p now)).1.sequenceNumber = p.sequenceNumber ∧
      (step setup s (.packet p now)).2.flatMap Effect.frame = [] ∧
      (step setup s (.packet p now)).2.filter (· = .identifyLater) = [] := by
  have accepted : passes s p = true := passes_iff.mpr next
  refine ⟨accepted, (@step_of_accepted setup s p now dispatch accepted).1, ?_⟩
  simp only [step, handleOperation, if_pos dispatch, eventHandler_accept setup accepted dispatch]
  split <;> simp [Effect.frame]

/-- The server answers Identify with a fresh session and its READY numbered 1. -/
theorem Server.serve_identify (s : Server) {q : ClientPacket} (identify : q.op = opcode.identify) :
    s.serve sessionName encode q = (⟨some (sessionName s.started, 2), s.started + 1⟩,
      [⟨opcode.discordEvent, 1, event.ready, encode (sessionName s.started)⟩]) := by
  simp [Server.serve, identify]

theorem Wire.InSync.opening {w : Wire} (accepted : w.rejected = 0) (quiet : w.identifyTimers = 0)
    (unopened : w.server.session = none) (opening : w.Opening) : w.InSync :=
  ⟨accepted, quiet, by rw [unopened]; exact opening⟩

theorem Wire.InSync.opened {w : Wire} {id : String} {next : UInt64} (accepted : w.rejected = 0)
    (quiet : w.identifyTimers = 0) (live : w.server.session = some (id, next)) (opened : w.Opened next) :
    w.InSync :=
  ⟨accepted, quiet, by rw [live]; exact opened⟩

theorem Wire.handshakes_none {w : Wire} (unopened : w.server.session = none) :
    w.handshakes = w.toClient.length + w.toServer.length := by
  simp [Wire.handshakes, unopened]

theorem Wire.handshakes_some {w : Wire} {id : String} {next : UInt64}
    (live : w.server.session = some (id, next)) : w.handshakes = 1 := by
  simp [Wire.handshakes, live]

/-- Before the session opens: a Hello sent into an idle connection, its delivery turning
it into an Identify, and the Identify served, opening the session with READY 1. -/
theorem Wire.InSync.step_opening {w w' : Wire} {a : WireAction} (accepted : w.rejected = 0)
    (quiet : w.identifyTimers = 0) (unopened : w.server.session = none) (opening : w.Opening)
    (h : w.step setup sessionName encode a = some w') (calm : a ≠ .invalidate)
    (room : a = .hello → w.handshakes = 0) :
    w'.InSync ∧ w'.handshakes = w.handshakes + if a = .hello then 1 else 0 := by
  obtain ⟨zero, fresh, hellos, identifies, single⟩ := opening
  rw [Wire.handshakes_none unopened] at room ⊢
  cases a with
  | hello =>
    cases h
    have idle := room rfl
    have toClient : w.toClient = [] := List.eq_nil_of_length_eq_zero (by omega)
    have toServer : w.toServer = [] := List.eq_nil_of_length_eq_zero (by omega)
    refine ⟨.opening accepted quiet unopened ⟨zero, fresh, ?_, identifies, ?_⟩, ?_⟩
    · simp [toClient]
    · simp [toClient, toServer]
    · simp [Wire.handshakes, unopened, toClient, toServer]
  | dispatch name data => simp [Wire.step, unopened] at h
  | invalidate => exact absurd rfl calm
  | serve =>
    simp only [Wire.step] at h
    split at h
    · rename_i q rest queued
      have identify := identifies q (by simp [queued])
      rw [Server.serve_identify sessionName encode _ identify] at h
      cases h
      have lengths := single
      rw [queued, List.length_cons] at lengths
      have toClient : w.toClient = [] := List.eq_nil_of_length_eq_zero (by omega)
      have drained : rest = [] := List.eq_nil_of_length_eq_zero (by omega)
      refine ⟨.opened accepted quiet rfl ⟨drained, by simp [toClient], ?_⟩, ?_⟩
      · simp [toClient, Consecutive, zero]
      · simp [Wire.handshakes, queued, toClient, drained]
    · cases h
  | deliver now =>
    simp only [Wire.step] at h
    split at h
    · rename_i p rest incoming
      have hello := hellos p (by simp [incoming])
      obtain ⟨zero', fresh', frames, timers⟩ := deliver_hello setup now hello zero fresh
      have lengths := single
      rw [incoming, List.length_cons] at lengths
      have toServer : w.toServer = [] := List.eq_nil_of_length_eq_zero (by omega)
      have drained : rest = [] := List.eq_nil_of_length_eq_zero (by omega)
      cases h
      refine ⟨.opening ?_ ?_ unopened ⟨zero', fresh', by simp [drained], ?_, ?_⟩, ?_⟩
      · simp [accepted, hello, opcode.hello, opcode.discordEvent]
      · simp [quiet, timers]
      · simp [toServer, frames, opcode.identify]
      · simp [drained, toServer, frames]
      · simp [Wire.handshakes, unopened, incoming, drained, toServer, frames]
    · cases h
  | wake => simp [Wire.step, quiet] at h

/-- Once the session is open: dispatches sent on, numbered by the server, and delivered
in order, each right after the client's counter. -/
theorem Wire.InSync.step_opened {w w' : Wire} {a : WireAction} {id : String} {next : UInt64}
    (accepted : w.rejected = 0) (quiet : w.identifyTimers = 0)
    (live : w.server.session = some (id, next)) (opened : w.Opened next)
    (h : w.step setup sessionName encode a = some w') (calm : a ≠ .invalidate)
    (room : a = .hello → w.handshakes = 0) :
    w'.InSync ∧ w'.handshakes = w.handshakes + if a = .hello then 1 else 0 := by
  obtain ⟨drained, dispatches, numbered⟩ := opened
  rw [Wire.handshakes_some live] at room ⊢
  cases a with
  | hello => exact absurd (room rfl) one_ne_zero
  | dispatch name data =>
    simp only [Wire.step, live] at h
    cases h
    refine ⟨.opened accepted quiet rfl ⟨drained, ?_, ?_⟩, by simp [Wire.handshakes]⟩
    · simpa [or_imp, forall_and] using dispatches
    · simpa using numbered.concat
  | invalidate => exact absurd rfl calm
  | serve => simp [Wire.step, drained] at h
  | deliver now =>
    simp only [Wire.step] at h
    split at h
    · rename_i p rest incoming
      rw [incoming] at dispatches numbered
      obtain ⟨first, numbered⟩ := numbered
      have dispatch := dispatches p (List.mem_cons_self p rest)
      obtain ⟨passed, counter, frames, timers⟩ := deliver_dispatch setup now dispatch first
      cases h
      refine ⟨.opened ?_ ?_ live ⟨?_, fun q mem => dispatches q (List.mem_cons_of_mem p mem), ?_⟩, ?_⟩
      · simp [accepted, passed]
      · simp [quiet, timers]
      · simp [drained, frames]
      · rw [counter]; exact numbered
      · simp [Wire.handshakes, live]
    · cases h
  | wake => simp [Wire.step, quiet] at h

/-- One move keeps a single session in sync; only a Hello adds a handshake. -/
theorem Wire.InSync.step {w w' : Wire} {a : WireAction} (sync : w.InSync)
    (h : w.step setup sessionName encode a = some w') (calm : a ≠ .invalidate)
    (room : a = .hello → w.handshakes = 0) :
    w'.InSync ∧ w'.handshakes = w.handshakes + if a = .hello then 1 else 0 := by
  obtain ⟨accepted, quiet, phase⟩ := sync
  rcases session : w.server.session with _ | ⟨id, next⟩
  · exact Wire.InSync.step_opening setup sessionName encode accepted quiet session
      (by simpa [session] using phase) h calm room
  · exact Wire.InSync.step_opened setup sessionName encode accepted quiet session
      (by simpa [session] using phase) h calm room

theorem Wire.InSync.run {w w' : Wire} {as : List WireAction} (sync : w.InSync)
    (ran : w.run setup sessionName encode as = some w') (calm : WireAction.invalidate ∉ as)
    (hellos : as.count .hello + w.handshakes ≤ 1) : w'.InSync := by
  induction as generalizing w with
  | nil => cases ran; exact sync
  | cons a as ih =>
    obtain ⟨w₁, stepped, rest⟩ := Option.bind_eq_some.mp ran
    by_cases hello : a = .hello
    · subst hello
      simp only [List.count_cons_self] at hellos
      obtain ⟨sync₁, count⟩ := sync.step setup sessionName encode stepped (by simp)
        (fun _ => by omega)
      exact ih sync₁ rest (fun mem => calm (List.mem_cons_of_mem _ mem)) (by simp at count; omega)
    · rw [List.count_cons_of_ne (Ne.symm hello)] at hellos
      obtain ⟨sync₁, count⟩ := sync.step setup sessionName encode stepped
        (fun e => calm (e ▸ List.mem_cons_self _ _)) (fun e => absurd e hello)
      exact ih sync₁ rest (fun mem => calm (List.mem_cons_of_mem _ mem)) (by simp [hello] at count; omega)

/-- With a single Hello and no InvalidSession, the client rejects no dispatch, and those in
flight are numbered on from its counter to the server's next number. -/
theorem single_session_no_rejection {as : List WireAction} {w : Wire}
    (ran : Wire.initial.run setup sessionName encode as = some w)
    (calm : WireAction.invalidate ∉ as) (single : as.count .hello ≤ 1) :
    w.rejected = 0 ∧ ∀ id next, w.server.session = some (id, next) →
      Consecutive w.client.sequenceNumber next (w.toClient.map (·.sequenceNumber)) := by
  have sync := Wire.InSync.initial.run setup sessionName encode ran calm (by simpa using single)
  refine ⟨sync.accepted, fun id next live => ?_⟩
  have opened : w.Opened next := by simpa [live] using sync.phase
  exact opened.2.2

/-- READY 1 delivered, two dispatches numbered 2 and 3 still in flight. -/
theorem single_session_no_rejection_in_flight :
    let sample : Setup := ⟨⟨"T", "", "", "", 0, 0, 0⟩, "linux",
      ⟨fun d => ⟨String.mk (d.map fun b => Char.ofNat b.toNat), []⟩, fun _ => ⟨45000⟩⟩⟩
    let sessionName : Nat → String := fun n => String.mk [Char.ofNat (97 + n)]
    let encode : String → List UInt8 := fun id => id.toList.map fun c => c.toNat.toUInt8
    let as : List WireAction :=
      [.hello, .deliver 0, .serve, .dispatch "GUILD_CREATE" [], .deliver 1, .dispatch "MESSAGE_CREATE" []]
    let w : Wire := ⟨⟨some ("a", 4), 1⟩,
      { Session.initial with sequenceNumber := 1, sessionID := "a", heartbeatInterval := 45000 },
      [⟨opcode.discordEvent, 2, "GUILD_CREATE", []⟩, ⟨opcode.discordEvent, 3, "MESSAGE_CREATE", []⟩],
      [], 0, 0⟩
    Wire.initial.run sample sessionName encode as = some w ∧ WireAction.invalidate ∉ as ∧
      as.count .hello ≤ 1 ∧ w.rejected = 0 ∧ ∀ id next, w.server.session = some (id, next) →
        Consecutive w.client.sequenceNumber next (w.toClient.map (·.sequenceNumber)) := by
  intro sample sessionName encode as w
  have ran : Wire.initial.run sample sessionName encode as = some w := by decide
  exact ⟨ran, by decide, by decide, single_session_no_rejection sample sessionName encode ran (by decide) (by decide)⟩

end Disgord
