import Disgord.Client

/-! The demultiplexer as a projection of the whole client. Only `operationHandlers` and
the registry calls write the session, and `operationHandlers` handles the packets it takes
one at a time and in order, so every fact proved of `run` holds of the client under any
schedule. -/
namespace Disgord

variable (setup : Setup)

def Input.packet? : Input → Option DiscordPacket
  | .packet p _ => some p
  | .registration _ => none

/-- The packet `operationHandlers` has taken and not yet handled. -/
def HandlerPc.taken : HandlerPc → List DiscordPacket
  | .handling _ p => [p]
  | _ => []

/-- The session is a run of the demultiplexer over inputs whose packets are, in order,
those `operationHandlers` took, but for the one it still holds. -/
def Client.Projects (c : Client) : Prop :=
  ∃ xs, c.session = Disgord.run setup Session.initial xs ∧
    xs.filterMap Input.packet? ++ c.handler.taken = c.handled.map Prod.snd

/-- `Projects` with its inputs named. -/
def Client.ProjectsWith (c : Client) (xs : List Input) : Prop :=
  c.session = Disgord.run setup Session.initial xs ∧
    xs.filterMap Input.packet? ++ c.handler.taken = c.handled.map Prod.snd

theorem Client.ProjectsWith.of_frame {c c' : Client} {xs : List Input}
    (projects : c.ProjectsWith setup xs) (session : c'.session = c.session)
    (handled : c'.handled = c.handled) (taken : c'.handler.taken = c.handler.taken) :
    c'.ProjectsWith setup xs :=
  ⟨session ▸ projects.1, by rw [taken, handled]; exact projects.2⟩

theorem Client.Projects.of_frame {c c' : Client} (projects : c.Projects setup)
    (session : c'.session = c.session) (handled : c'.handled = c.handled)
    (taken : c'.handler.taken = c.handler.taken) : c'.Projects setup :=
  let ⟨xs, ran⟩ := projects
  ⟨xs, Client.ProjectsWith.of_frame setup ran session handled taken⟩

theorem Client.takePacket_frame (c : Client) (i : Nat) (q : ClientPacket) :
    (c.takePacket i q).session = c.session ∧ (c.takePacket i q).handled = c.handled ∧
      (c.takePacket i q).handler = c.handler := by
  unfold Client.takePacket
  split_ifs <;> exact ⟨rfl, rfl, rfl⟩

theorem Client.connect_frame (c : Client) (discovery : Option String) (opened : Bool) :
    (c.connect discovery opened).1.session = c.session ∧
      (c.connect discovery opened).1.handled = c.handled ∧
      (c.connect discovery opened).1.handler = c.handler := by
  unfold Client.connect
  split
  · exact ⟨rfl, rfl, rfl⟩
  · split
    · exact ⟨rfl, rfl, rfl⟩
    · split <;> exact ⟨rfl, rfl, rfl⟩

theorem Client.returnFrom_frame (c : Client) (i : Nat) (f : Fiber) :
    (c.returnFrom i f).session = c.session ∧ (c.returnFrom i f).handled = c.handled ∧
      (c.returnFrom i f).handler = c.handler := by
  unfold Client.returnFrom
  split <;> exact ⟨rfl, rfl, rfl⟩

theorem Client.closeStep_frame {c c' : Client} {i : Nat} {f : Fiber}
    {reportsDisconnected admitted : Bool} {handing : ClientPacket → Fiber} {grace : Fiber}
    (h : c.closeStep i f reportsDisconnected admitted handing grace = some c') :
    c'.session = c.session ∧ c'.handled = c.handled ∧ c'.handler = c.handler := by
  unfold Client.closeStep at h
  split_ifs at h
  · cases h; exact Client.returnFrom_frame _ i f
  · dsimp only at h
    split at h <;> cases h <;> exact ⟨rfl, rfl, rfl⟩

theorem Client.perform_frame (c : Client) (admitted : Bool) (e : Effect) (rest : List Effect) :
    (c.perform admitted e rest).session = c.session ∧ (c.perform admitted e rest).handled = c.handled ∧
      (c.perform admitted e rest).handler.taken = [] := by
  cases e with
  | emit command data => simp only [Client.perform]; split <;> exact ⟨rfl, rfl, rfl⟩
  | _ => exact ⟨rfl, rfl, rfl⟩

/-- Registry calls and handled packets extend the run by one input; taking a packet moves
it into the handler; every other action leaves session, log and handler's packet alone. -/
theorem Client.ProjectsWith.act {c c' : Client} {xs : List Input} {a : Action}
    (projects : c.ProjectsWith setup xs) (h : c.act setup a = some c') :
    ∃ ys, c'.ProjectsWith setup (xs ++ ys) := by
  obtain ⟨ran, packets⟩ := projects
  have frame (session : c'.session = c.session) (handled : c'.handled = c.handled)
      (taken : c'.handler.taken = c.handler.taken) : ∃ ys, c'.ProjectsWith setup (xs ++ ys) :=
    ⟨[], by simpa using Client.ProjectsWith.of_frame setup ⟨ran, packets⟩ session handled taken⟩
  cases a with
  | connect discovery opened =>
    obtain ⟨-, rfl⟩ := Client.act_connect_cases setup h
    obtain ⟨session, handled, handler⟩ := c.connect_frame discovery opened
    exact frame session handled (by rw [handler])
  | registration call =>
    cases h
    refine ⟨[.registration call], ?_, ?_⟩
    · simp [run_append, ← ran, Disgord.run]
    · simpa using packets
  | receive i =>
    obtain ⟨_, _, handler, -, rfl⟩ := Client.act_receive_cases setup h
    have before : xs.filterMap Input.packet? = c.handled.map Prod.snd := by
      simpa [handler, HandlerPc.taken] using packets
    exact ⟨[], by simpa using ran, by simp [HandlerPc.taken, before]⟩
  | handle now =>
    obtain ⟨_, p, handler, -, rfl⟩ := Client.act_handle_cases setup h
    refine ⟨[.packet p now], ?_, ?_⟩
    · simp [run_append, ← ran, Disgord.run]
    · rw [handler, HandlerPc.taken] at packets
      simpa [HandlerPc.taken, Input.packet?] using packets
  | consume =>
    obtain ⟨_, _, handler, rfl⟩ := Client.act_consume_cases setup h
    exact frame rfl rfl (by rw [handler]; rfl)
  | perform admitted =>
    obtain ⟨effect, rest, handler, rfl⟩ := Client.act_perform_cases setup h
    obtain ⟨session, handled, taken⟩ := c.perform_frame admitted effect rest
    exact frame session handled (by rw [taken, handler]; rfl)
  | takeFromHandler i =>
    obtain ⟨q, _, -, handler, rfl⟩ := Client.act_takeFromHandler_cases setup h
    obtain ⟨session, handled, -⟩ := c.takePacket_frame i q
    exact frame session handled (by rw [handler]; rfl)
  | take i j =>
    obtain ⟨_, q, -, -, -, -, rfl⟩ := Client.act_take_cases setup h
    obtain ⟨session, handled, handler⟩ := c.takePacket_frame i q
    exact frame session handled (by rw [← handler]; rfl)
  | handlerQuit =>
    obtain ⟨handler, -, rfl⟩ := Client.act_handlerQuit_cases setup h
    exact frame rfl rfl (by rw [handler]; rfl)
  | close i reportsDisconnected admitted =>
    rcases Client.act_close_cases setup h with ⟨-, step⟩ | ⟨_, -, step⟩
    all_goals
      obtain ⟨session, handled, handler⟩ := Client.closeStep_frame step
      exact frame session handled (by rw [handler])
  | release i =>
    obtain ⟨f, -, -, rfl⟩ := Client.act_release_cases setup h
    obtain ⟨session, handled, handler⟩ := Client.returnFrom_frame
      { c with disconnected := true, locked := false } i f
    exact frame session handled (by rw [handler])
  | attempt i discovery opened =>
    obtain ⟨_, -, -, rfl⟩ := Client.act_attempt_cases setup h
    obtain ⟨session, handled, handler⟩ := c.connect_frame discovery opened
    exact frame session handled (by rw [← handler]; rfl)
  | _ =>
    dsimp only [Client.act] at h
    repeat' (first | (split at h) | (split_ifs at h))
    all_goals first | (cases h; exact frame rfl rfl rfl) | cases h

theorem Client.Projects.act {c c' : Client} {a : Action} (projects : c.Projects setup)
    (h : c.act setup a = some c') : c'.Projects setup :=
  let ⟨xs, ran⟩ := projects
  let ⟨ys, ran'⟩ := Client.ProjectsWith.act setup (ran : c.ProjectsWith setup xs) h
  ⟨xs ++ ys, ran'⟩

/-- In every reachable state the session is the demultiplexer's run over the packets
`operationHandlers` took, in the order it took them, with registry calls in between. -/
theorem Client.Reachable.projects {c : Client} (reachable : Client.Reachable setup c) :
    c.Projects setup := by
  induction reachable with
  | initial => exact ⟨[], rfl, rfl⟩
  | step _ _ stepped projects => exact projects.act setup (Client.act_of_step setup stepped)

/-- Under any schedule the counter counts, modulo 2^64, the dispatches among the handled
packets that passed the check, and those carried 1, 2, ... in the order they were taken. -/
theorem Client.Reachable.sequenceNumber_counts {c : Client} (reachable : Client.Reachable setup c) :
    ∃ xs, xs.filterMap Input.packet? ++ c.handler.taken = c.handled.map Prod.snd ∧
      c.session.sequenceNumber.toNat = (accepted setup .initial xs).length % 2 ^ 64 ∧
      (accepted setup .initial xs).map (·.sequenceNumber.toNat) =
        (List.range (accepted setup .initial xs).length).map fun j => (j + 1) % 2 ^ 64 := by
  obtain ⟨xs, ran, packets⟩ := reachable.projects
  refine ⟨xs, packets, ?_, ?_⟩
  · simpa [ran] using run_sequenceNumber setup .initial xs
  · simpa using accepted_sequenceNumbers setup .initial xs

/-- The state after READY was read and handled: one dispatch accepted, numbered 1. -/
theorem Client.Reachable.sequenceNumber_counts_ready :
    let sample : Setup := ⟨⟨"T", "", "", "", 0, 0, 0⟩, "linux", ⟨fun _ => ⟨"s", []⟩, fun _ => ⟨45000⟩⟩⟩
    let ready : DiscordPacket := ⟨opcode.discordEvent, 1, event.ready, []⟩
    let c : Client := { Client.initial "gw" with
      session := { Session.initial with sequenceNumber := 1, sessionID := "s" }
      handler := .running [.dispatch ⟨event.ready, []⟩]
      fibers := [.receiver .polling, .emitter .waiting]
      disconnected := false, haveConnectedOnce := true, connOpen := true, epoch := 1
      reads := [(1, ready)], handled := [(1, ready)] }
    Client.Reachable sample c ∧
      ∃ xs, xs.filterMap Input.packet? ++ c.handler.taken = c.handled.map Prod.snd ∧
        c.session.sequenceNumber.toNat = (accepted sample .initial xs).length % 2 ^ 64 ∧
        (accepted sample .initial xs).map (·.sequenceNumber.toNat) =
          (List.range (accepted sample .initial xs).length).map fun j => (j + 1) % 2 ^ 64 := by
  intro sample ready c
  have reachable : Client.Reachable sample c := Client.Reachable.run sample (.initial "gw")
    (show (Client.initial "gw").run sample
      [.connect none true, .read 0 (some (some ready)), .receive 0, .handle 1] = some c by decide)
  exact ⟨reachable, Client.Reachable.sequenceNumber_counts sample reachable⟩

theorem Client.emit_heartbeat {c : Client} {v : UInt64} {admitted : Bool} {q : ClientPacket}
    (h : c.emit event.heartbeat (.heartbeat v) admitted = some q) :
    q = ⟨opcode.heartbeat, .heartbeat v⟩ := by
  rw [Client.emit, show commandOpcode event.heartbeat = some opcode.heartbeat from rfl] at h
  split_ifs at h
  exact (Option.some.inj h).symm

/-- A dispatch passes iff it carries one more than those passed before it, and a failed one
only spawns a reconnect; the handler and a pulsator's heartbeat send the count of a
prefix of the packets taken. -/
theorem accepted_sequence_consecutive :
    (∀ xs : List Input,
      let s := run setup .initial xs
      let k := (accepted setup .initial xs).length
      (accepted setup .initial xs).map (·.sequenceNumber.toNat) =
          (List.range k).map (fun j => (j + 1) % 2 ^ 64) ∧
        s.sequenceNumber.toNat = k % 2 ^ 64 ∧
        (∀ p now, p.op = opcode.discordEvent →
          (passes s p = true ↔ p.sequenceNumber.toNat = (k + 1) % 2 ^ 64) ∧
          (passes s p = false → step setup s (.packet p now) = (s, [.reconnect]))) ∧
        ∀ x, ∀ e ∈ (step setup s x).2, ∀ v, e.sequence = some v → v.toNat = k % 2 ^ 64) ∧
    ∀ (c c' : Client) (i : Nat) (admitted : Bool) (now : Nat) (id : UInt8), Client.Reachable setup c →
      c.fibers[i]? = some (.pulsator (.beating id)) → c.act setup (.pulse i admitted now) = some c' →
      ∃ ys, ys.filterMap Input.packet? ++ c.handler.taken = c.handled.map Prod.snd ∧
        (c'.fibers[i]? = some (.pulsator (.arming id c.session.lastHeartbeatAck)) ∨
          ∃ v : UInt64, v.toNat = (accepted setup .initial ys).length % 2 ^ 64 ∧
            c'.fibers[i]? = some (.pulsator (.emitting id c.session.lastHeartbeatAck
              ⟨opcode.heartbeat, .heartbeat v⟩))) := by
  refine ⟨run_accepted_consecutive setup, fun c c' i admitted now id reachable beating beat => ?_⟩
  obtain ⟨ys, ran, packets⟩ := reachable.projects
  have counter : c.session.sequenceNumber.toNat = (accepted setup .initial ys).length % 2 ^ 64 := by
    simpa [ran] using run_sequenceNumber setup .initial ys
  have bound : i < c.fibers.length := (List.getElem?_eq_some_iff.mp beating).1
  refine ⟨ys, packets, ?_⟩
  obtain ⟨_, other, -⟩ | ⟨_, beating', -, ⟨q, emitted, rfl⟩ | ⟨-, rfl⟩⟩ | ⟨_, _, other, -⟩ |
      ⟨_, other, -⟩ := Client.act_pulse_cases setup beat
  all_goals first | cases beating.symm.trans other | cases beating.symm.trans beating'
  · exact .inr ⟨_, counter, by rw [Client.emit_heartbeat emitted]; exact List.getElem?_set_self bound⟩
  · exact .inl (List.getElem?_set_self bound)

/-- A pulsator beating after READY was handled sends a heartbeat carrying 1. -/
theorem accepted_sequence_consecutive_after_ready :
    let sample : Setup := ⟨⟨"T", "", "", "", 0, 0, 0⟩, "linux", ⟨fun _ => ⟨"s", []⟩, fun _ => ⟨45000⟩⟩⟩
    ∃ c c', Client.Reachable sample c ∧ c.fibers[2]? = some (.pulsator (.beating 5)) ∧
      c.act sample (.pulse 2 true 0) = some c' ∧
      c'.fibers[2]? = some (.pulsator (.emitting 5 0 ⟨opcode.heartbeat, .heartbeat 1⟩)) ∧
      ∃ ys, ys.filterMap Input.packet? ++ c.handler.taken = c.handled.map Prod.snd ∧
        (c'.fibers[2]? = some (.pulsator (.arming 5 c.session.lastHeartbeatAck)) ∨
          ∃ v : UInt64, v.toNat = (accepted sample .initial ys).length % 2 ^ 64 ∧
            c'.fibers[2]? = some (.pulsator (.emitting 5 c.session.lastHeartbeatAck
              ⟨opcode.heartbeat, .heartbeat v⟩))) := by
  intro sample
  let as : List Action := [.connect none true, .read 0 (some (some ⟨opcode.hello, 0, "", []⟩)),
    .receive 0, .poll 0, .handle 0, .perform true, .perform true, .takeFromHandler 1, .write 1 true,
    .draw 2 5, .pulse 2 true 0, .read 0 (some (some ⟨opcode.discordEvent, 1, event.ready, []⟩)),
    .receive 0, .poll 0, .handle 0]
  obtain ⟨c, ran, beating⟩ := Option.map_eq_some'.mp (show ((Client.initial "gw").run sample as).map
    (·.fibers[2]?) = some (some (.pulsator (.beating 5))) by decide)
  obtain ⟨c', beat, emitting⟩ := Option.map_eq_some'.mp (show (((Client.initial "gw").run sample as).bind
    (·.act sample (.pulse 2 true 0))).map (·.fibers[2]?) =
      some (some (.pulsator (.emitting 5 0 ⟨opcode.heartbeat, .heartbeat 1⟩))) by decide)
  rw [ran, Option.some_bind] at beat
  have reachable := Client.Reachable.run sample (.initial "gw") ran
  exact ⟨c, c', reachable, beating, beat, emitting,
    (accepted_sequence_consecutive sample).2 c c' 2 true 0 5 reachable beating beat⟩

end Disgord
