import Disgord.Projection

/-! The events the application takes from `eventChan`. `operationHandlers` performs the
effects of one packet in order and takes the next packet only once they are done, so over
any run the client refines the sequential demultiplexer run over that run's own registry
calls and handled packets: same session, same events, none lost, repeated or made up. -/
namespace Disgord

variable (setup : Setup)

/-- The effects of a run of the demultiplexer, in the order `operationHandlers` performs
them. -/
def effects (s : Session) : List Input → List Effect
  | [] => []
  | x :: xs => (step setup s x).2 ++ effects (step setup s x).1 xs

def Effect.dispatched? : Effect → Option Event
  | .dispatch e => some e
  | _ => none

/-- The effects `operationHandlers` has still to perform for the packet it handled last. -/
def HandlerPc.pending : HandlerPc → List Effect
  | .running effects => effects
  | .emitting _ rest => rest
  | .dispatching e rest => .dispatch e :: rest
  | .handling _ _ | .exited => []

theorem effects_append (s : Session) (xs ys : List Input) :
    effects setup s (xs ++ ys) = effects setup s xs ++ effects setup (run setup s xs) ys := by
  induction xs generalizing s with
  | nil => rfl
  | cons x xs ih => simp [effects, run, ih]

/-- What `operationHandlers` and the application's event loop see of the client. -/
def Client.handlerView (c : Client) : Session × List (Nat × DiscordPacket) × HandlerPc × List Event :=
  (c.session, c.handled, c.handler, c.delivered)

theorem Client.takePacket_handlerView (c : Client) (i : Nat) (q : ClientPacket) :
    (c.takePacket i q).handlerView = c.handlerView := by
  unfold Client.takePacket; split_ifs <;> rfl

theorem Client.connect_handlerView (c : Client) (discovery : Option String) (opened : Bool) :
    (c.connect discovery opened).1.handlerView = c.handlerView := by
  unfold Client.connect; split <;> (try split) <;> (try split) <;> rfl

theorem Client.returnFrom_handlerView (c : Client) (i : Nat) (f : Fiber) :
    (c.returnFrom i f).handlerView = c.handlerView := by
  unfold Client.returnFrom; split <;> rfl

theorem Client.closeStep_handlerView {c c' : Client} {i : Nat} {f : Fiber}
    {reportsDisconnected admitted : Bool} {handing : ClientPacket → Fiber} {grace : Fiber}
    (h : c.closeStep i f reportsDisconnected admitted handing grace = some c') :
    c'.handlerView = c.handlerView := by
  unfold Client.closeStep at h
  split_ifs at h
  · cases h; exact Client.returnFrom_handlerView _ i f
  · dsimp only at h
    split at h <;> cases h <;> rfl

/-- Performing one effect moves it off the pending list; a dispatch waits on `eventChan`. -/
theorem Client.perform_pending (c : Client) (admitted : Bool) (e : Effect) (rest : List Effect) :
    (c.perform admitted e rest).session = c.session ∧
      (c.perform admitted e rest).handled = c.handled ∧
      (c.perform admitted e rest).delivered = c.delivered ∧
      (c.perform admitted e rest).handler.taken = [] ∧
      (c.perform admitted e rest).handler.pending.filterMap Effect.dispatched? =
        (e :: rest).filterMap Effect.dispatched? := by
  cases e with
  | emit command data => simp only [Client.perform]; split <;> exact ⟨rfl, rfl, rfl, rfl, rfl⟩
  | _ => exact ⟨rfl, rfl, rfl, rfl, rfl⟩

/-- The session is the demultiplexer's run over `xs`, and the events sent on `eventChan`
followed by those still to be sent are the run's dispatches. -/
def Client.RefinesWith (c : Client) (xs : List Input) : Prop :=
  c.ProjectsWith setup xs ∧
    c.delivered ++ c.handler.pending.filterMap Effect.dispatched? =
      (effects setup Session.initial xs).filterMap Effect.dispatched?

/-- The registry call an action makes, if it is one. -/
def Action.registration? : Action → Option Registration
  | .registration call => some call
  | _ => none

theorem registrations_append (xs ys : List Input) :
    registrations (xs ++ ys) = registrations xs ++ registrations ys := by
  induction xs with
  | nil => rfl
  | cons x xs ih => cases x <;> simp [registrations, ih]

/-- The input an action feeds the demultiplexer: a registry call, or the packet that
`operationHandlers` handles. -/
def Client.input? (c : Client) : Action → Option Input
  | .registration call => some (.registration call)
  | .handle now => match c.handler with
    | .handling _ p => some (.packet p now)
    | _ => none
  | _ => none

/-- The inputs of a run, in the order its actions fed them. -/
def Client.inputs (c : Client) : List Action → List Input
  | [] => []
  | a :: as => match c.step setup a with
    | some c' => (c.input? a).toList ++ c'.inputs as
    | none => []

theorem Client.registrations_input? (c : Client) (a : Action) :
    registrations (c.input? a).toList = a.registration?.toList := by
  cases a <;> try rfl
  simp only [Client.input?]
  split <;> rfl

/-- Registry calls and handled packets extend the run by their input, and `consume` moves
a dispatch from pending to sent; every other action leaves the events alone. -/
theorem Client.RefinesWith.act {c c' : Client} {xs : List Input} {a : Action}
    (refines : c.RefinesWith setup xs) (h : c.act setup a = some c') :
    c'.RefinesWith setup (xs ++ (c.input? a).toList) := by
  obtain ⟨⟨ran, packets⟩, events⟩ := refines
  have keep (session : c'.session = c.session) (handled : c'.handled = c.handled)
      (taken : c'.handler.taken = c.handler.taken)
      (sent : c'.delivered ++ c'.handler.pending.filterMap Effect.dispatched? =
        c.delivered ++ c.handler.pending.filterMap Effect.dispatched?) :
      c'.RefinesWith setup (xs ++ []) := by
    rw [List.append_nil]
    exact ⟨Client.ProjectsWith.of_frame setup ⟨ran, packets⟩ session handled taken, sent.trans events⟩
  have frame (view : c'.handlerView = c.handlerView) : c'.RefinesWith setup (xs ++ []) := by
    simp only [Client.handlerView, Prod.mk.injEq] at view
    obtain ⟨session, handled, handler, delivered⟩ := view
    exact keep session handled (by rw [handler]) (by rw [handler, delivered])
  cases a with
  | connect discovery opened =>
    obtain ⟨-, rfl⟩ := Client.act_connect_cases setup h
    exact frame (c.connect_handlerView discovery opened)
  | disconnect shut => cases h; exact frame rfl
  | send command data admitted =>
    rcases Client.act_send_cases setup h with ⟨_, -, rfl⟩ | ⟨-, rfl⟩ <;> exact frame rfl
  | registration call =>
    cases h
    refine ⟨⟨?_, by simpa using packets⟩, ?_⟩
    · simp [run_append, ← ran, Disgord.run]
    · simpa [effects_append, effects, Disgord.step] using events
  | consume =>
    obtain ⟨e, rest, handler, rfl⟩ := Client.act_consume_cases setup h
    exact keep rfl rfl (by rw [handler]; rfl)
      (by rw [handler]; simp [HandlerPc.pending, Effect.dispatched?])
  | read i frame =>
    obtain ⟨-, ⟨-, rfl⟩ | ⟨-, -, rfl⟩ | ⟨_, -, -, rfl⟩⟩ := Client.act_read_cases setup h <;>
      exact frame rfl
  | poll i =>
    obtain ⟨-, rfl⟩ := Client.act_poll_cases setup h
    exact frame rfl
  | receive i =>
    obtain ⟨_, _, handler, -, rfl⟩ := Client.act_receive_cases setup h
    have before : xs.filterMap Input.packet? = c.handled.map Prod.snd := by
      simpa [handler, HandlerPc.taken] using packets
    rw [handler] at events
    exact (List.append_nil xs).symm ▸ ⟨⟨ran, by simp [HandlerPc.taken, before]⟩, events⟩
  | handle now =>
    obtain ⟨_, p, handler, -, rfl⟩ := Client.act_handle_cases setup h
    rw [handler] at packets events
    rw [show c.input? (.handle now) = some (.packet p now) by simp [Client.input?, handler]]
    refine ⟨⟨?_, by simpa [HandlerPc.taken, Input.packet?] using packets⟩, ?_⟩
    · simp [run_append, ← ran, Disgord.run]
    · rw [effects_append, ← ran, List.filterMap_append, ← events]
      simp [effects, HandlerPc.pending]
  | perform admitted =>
    obtain ⟨effect, rest, handler, rfl⟩ := Client.act_perform_cases setup h
    obtain ⟨session, handled, delivered, taken, pending⟩ := c.perform_pending admitted effect rest
    exact keep session handled (by rw [taken, handler]; rfl) (by rw [delivered, pending, handler]; rfl)
  | takeFromHandler i =>
    obtain ⟨q, rest, -, handler, rfl⟩ := Client.act_takeFromHandler_cases setup h
    have view := c.takePacket_handlerView i q
    simp only [Client.handlerView, Prod.mk.injEq] at view
    obtain ⟨session, handled, -, delivered⟩ := view
    exact keep session handled (by rw [handler]; rfl) (by rw [delivered, handler]; rfl)
  | take i j =>
    obtain ⟨_, q, -, -, -, -, rfl⟩ := Client.act_take_cases setup h
    exact frame (c.takePacket_handlerView i q)
  | write i ok =>
    obtain ⟨_, -, rfl⟩ := Client.act_write_cases setup h
    exact frame rfl
  | quit i =>
    obtain ⟨-, ⟨-, rfl⟩ | ⟨_, -, rfl⟩ | ⟨_, -, rfl⟩⟩ := Client.act_quit_cases setup h <;>
      exact frame rfl
  | handlerQuit =>
    obtain ⟨handler, -, rfl⟩ := Client.act_handlerQuit_cases setup h
    exact keep rfl rfl (by rw [handler]; rfl) (by rw [handler]; rfl)
  | draw i ident =>
    obtain ⟨-, -, -, rfl⟩ := Client.act_draw_cases setup h
    exact frame rfl
  | pulse i admitted now =>
    obtain ⟨_, -, -, ⟨-, rfl⟩ | ⟨-, rfl⟩⟩ | ⟨_, -, -, ⟨_, -, rfl⟩ | ⟨-, rfl⟩⟩ |
        ⟨_, _, -, rfl⟩ | ⟨_, -, rfl⟩ := Client.act_pulse_cases setup h <;>
      exact frame rfl
  | restart i j =>
    obtain ⟨_, -, -, -, rfl⟩ := Client.act_restart_cases setup h
    exact frame rfl
  | expire i cancelled =>
    obtain ⟨_, _, -, ⟨-, rfl⟩ | ⟨-, -, -, rfl⟩ | ⟨-, -, -, rfl⟩⟩ := Client.act_expire_cases setup h <;>
      exact frame rfl
  | measure i =>
    obtain ⟨_, -, rfl⟩ := Client.act_measure_cases setup h
    exact frame rfl
  | wake i admitted =>
    obtain ⟨-, ⟨_, -, rfl⟩ | ⟨-, rfl⟩⟩ := Client.act_wake_cases setup h <;> exact frame rfl
  | lock i now =>
    obtain ⟨-, rfl⟩ := Client.act_lock_cases setup h
    exact frame rfl
  | close i reportsDisconnected admitted =>
    rcases Client.act_close_cases setup h with ⟨-, step⟩ | ⟨_, -, step⟩ <;>
      exact frame (Client.closeStep_handlerView step)
  | release i =>
    obtain ⟨f, -, -, rfl⟩ := Client.act_release_cases setup h
    exact frame (Client.returnFrom_handlerView _ i f)
  | attempt i discovery opened =>
    obtain ⟨_, -, -, rfl⟩ := Client.act_attempt_cases setup h
    exact frame (c.connect_handlerView discovery opened)
  | backoff i =>
    obtain ⟨_, -, rfl⟩ := Client.act_backoff_cases setup h
    exact frame rfl

theorem Client.Reachable.refinesWith {c : Client} (reachable : Client.Reachable setup c) :
    ∃ xs, c.RefinesWith setup xs := by
  induction reachable with
  | initial => exact ⟨[], ⟨rfl, rfl⟩, rfl⟩
  | step _ _ stepped refines =>
    obtain ⟨xs, refines⟩ := refines
    exact ⟨_, refines.act setup (Client.act_of_step setup stepped)⟩

/-- A run extends the inputs by its own, which hold its registry calls in order. -/
theorem Client.RefinesWith.run {c c' : Client} {xs : List Input} {as : List Action}
    (refines : c.RefinesWith setup xs) (ran : c.run setup as = some c') :
    c'.RefinesWith setup (xs ++ c.inputs setup as) ∧
      registrations (c.inputs setup as) = as.filterMap Action.registration? := by
  induction as generalizing c xs with
  | nil => cases ran; exact ⟨by rwa [Client.inputs, List.append_nil], rfl⟩
  | cons a as ih =>
    obtain ⟨c₁, stepped, rest⟩ := Option.bind_eq_some.mp ran
    obtain ⟨refines', calls⟩ := ih (refines.act setup (Client.act_of_step setup stepped)) rest
    rw [Client.inputs, stepped]
    refine ⟨by rwa [← List.append_assoc], ?_⟩
    rw [registrations_append, calls, Client.registrations_input?, List.filterMap_cons]
    cases a.registration? <;> rfl

/-- Over any run the client refines the demultiplexer run over its own registry calls and
handled packets: the same session, and the events sent and pending are its dispatches. -/
theorem client_refines_demux {endpoint : String} {as : List Action} {c : Client}
    (ran : (Client.initial endpoint).run setup as = some c) :
    let xs := (Client.initial endpoint).inputs setup as
    registrations xs = as.filterMap Action.registration? ∧
      c.session = run setup Session.initial xs ∧
      xs.filterMap Input.packet? ++ c.handler.taken = c.handled.map Prod.snd ∧
      c.delivered ++ c.handler.pending.filterMap Effect.dispatched? =
        (effects setup Session.initial xs).filterMap Effect.dispatched? :=
  let ⟨⟨⟨session, packets⟩, events⟩, calls⟩ :=
    (show (Client.initial endpoint).RefinesWith setup [] from ⟨⟨rfl, rfl⟩, rfl⟩).run setup ran
  ⟨calls, session, packets, events⟩

/-- A registry call, then READY read, handled and its event taken by the application. -/
theorem client_refines_demux_after_ready :
    let sample : Setup := ⟨⟨"T", "", "", "", 0, 0, 0⟩, "linux", ⟨fun _ => ⟨"s", []⟩, fun _ => ⟨45000⟩⟩⟩
    let ready : DiscordPacket := ⟨opcode.discordEvent, 1, event.ready, []⟩
    let as : List Action := [.registration (.register "GUILD_CREATE"), .connect none true,
      .read 0 (some (some ready)), .receive 0, .handle 1, .poll 0, .perform true, .consume]
    let xs := (Client.initial "gw").inputs sample as
    ∃ c, (Client.initial "gw").run sample as = some c ∧
      xs = [.registration (.register "GUILD_CREATE"), .packet ready 1] ∧
      c.delivered = [⟨event.ready, []⟩] ∧
      registrations xs = as.filterMap Action.registration? ∧
      c.session = run sample Session.initial xs ∧
      xs.filterMap Input.packet? ++ c.handler.taken = c.handled.map Prod.snd ∧
      c.delivered ++ c.handler.pending.filterMap Effect.dispatched? =
        (effects sample Session.initial xs).filterMap Effect.dispatched? := by
  intro sample ready as xs
  obtain ⟨c, ran, delivered⟩ := Option.map_eq_some'.mp
    (show ((Client.initial "gw").run sample as).map (·.delivered) = some [⟨event.ready, []⟩] by decide)
  exact ⟨c, ran, by decide, delivered, client_refines_demux sample ran⟩

/-- The registry is the fold of the application's `RegisterEvent` and `RemoveEvent` calls:
free of duplicates, holding a name iff its latest call registered it. -/
theorem registry_follows_calls {endpoint : String} {as : List Action} {c : Client}
    (ran : (Client.initial endpoint).run setup as = some c) :
    c.session.trackedEvents = (as.filterMap Action.registration?).foldl Registration.apply [] ∧
      c.session.trackedEvents.Nodup ∧
      ∀ name, name ∈ c.session.trackedEvents ↔
        latest (as.filterMap Action.registration?) name = some true := by
  have start : (Client.initial endpoint).RefinesWith setup [] := ⟨⟨rfl, rfl⟩, rfl⟩
  obtain ⟨⟨⟨session, -⟩, -⟩, calls⟩ := start.run setup ran
  have tracked : c.session.trackedEvents = (as.filterMap Action.registration?).foldl Registration.apply [] := by
    rw [session, List.nil_append, run_trackedEvents, calls]; rfl
  rw [tracked]
  exact ⟨rfl, registrations_tracked _⟩

/-- A name registered twice, removed, and another registered, with a HeartbeatAck handled
in between. -/
theorem registry_follows_calls_reregistered :
    let sample : Setup := ⟨⟨"T", "", "", "", 0, 0, 0⟩, "linux", ⟨fun _ => ⟨"s", []⟩, fun _ => ⟨45000⟩⟩⟩
    let ack : DiscordPacket := ⟨opcode.heartbeatAck, 0, "", []⟩
    let as : List Action :=
      [.registration (.register "A"), .connect none true, .read 0 (some (some ack)),
       .registration (.register "A"), .receive 0, .handle 3, .registration (.remove "A"),
       .registration (.register "B")]
    let c : Client := { Client.initial "gw" with
      session := { Session.initial with lastHeartbeatAck := 3, trackedEvents := ["B"] }
      fibers := [.receiver .polling, .emitter .waiting]
      disconnected := false, haveConnectedOnce := true, connOpen := true, epoch := 1
      reads := [(1, ack)], handled := [(1, ack)] }
    (Client.initial "gw").run sample as = some c ∧
      c.session.trackedEvents = (as.filterMap Action.registration?).foldl Registration.apply [] ∧
      c.session.trackedEvents.Nodup ∧
      ∀ name, name ∈ c.session.trackedEvents ↔
        latest (as.filterMap Action.registration?) name = some true := by
  intro sample ack as c
  have ran : (Client.initial "gw").run sample as = some c := by decide
  exact ⟨ran, registry_follows_calls sample ran⟩

end Disgord
