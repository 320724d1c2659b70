import Disgord.Client

/-! Where the client's Identify and Resume frames come from. Each Hello and each
InvalidSession that `operationHandlers` takes sets one handshake in motion, owned by one
fiber until an emitter writes it, so the frames written never exceed their causes. -/
namespace Disgord

/-- The packets that make `operationHandlers` send a handshake. -/
def DiscordPacket.causesHandshake (p : DiscordPacket) : Bool :=
  p.op = opcode.hello || p.op = opcode.invalidSession

def ClientPacket.handshakes (q : ClientPacket) : Nat := if q.isHandshake then 1 else 0

/-- An effect that will emit a handshake when performed. -/
def Effect.handshake : Effect → Bool
  | .emit command _ => commandOpcode command = some opcode.identify ||
      commandOpcode command = some opcode.resume
  | .identifyLater => true
  | _ => false

def handshakeCount (effects : List Effect) : Nat := (effects.filter Effect.handshake).length

/-- The handshakes `operationHandlers` holds: of the packet it took, of its pending
effects, of the packet it is sending. -/
def HandlerPc.handshakes : HandlerPc → Nat
  | .running effects => handshakeCount effects
  | .handling _ p => if p.causesHandshake then 1 else 0
  | .emitting q rest => q.handshakes + handshakeCount rest
  | .dispatching _ rest => handshakeCount rest
  | .exited => 0

/-- The handshake a fiber holds: a sleeping InvalidSession goroutine, a packet waiting on
`emitChan`, or one an emitter is writing. -/
def Fiber.handshakes : Fiber → Nat
  | .identifier none => 1
  | .emitter (.writing q) | .pulsator (.emitting _ _ q) | .identifier (some q)
  | .reconnector (.disconnecting (.handing q)) | .closer (.handing q) _ | .caller q => q.handshakes
  | _ => 0

/-- Handshake frames passed to `WriteJSON`. -/
def Client.handshakesWritten (c : Client) : Nat := (c.writes.filter fun w => w.2.1.isHandshake).length

def Client.handshakesPending (c : Client) : Nat := c.handler.handshakes + fiberSum Fiber.handshakes c.fibers

/-- Hello and InvalidSession packets taken, and handshakes the application queued itself. -/
def Client.handshakeCauses (c : Client) : Nat :=
  (c.handled.filter fun h => h.2.causesHandshake).length +
    (c.requested.filter ClientPacket.isHandshake).length

def Client.handshakeSlack (c : Client) : Int :=
  (c.handshakeCauses : Int) - c.handshakesWritten - c.handshakesPending

variable (setup : Setup)

theorem eventHandler_handshakes (s : Session) (p : DiscordPacket) :
    handshakeCount (eventHandler setup s p).2 = 0 := by
  unfold eventHandler
  split <;> (try split_ifs) <;> rfl

theorem sendHelloPacket_handshakes (s : Session) : handshakeCount (sendHelloPacket setup s) = 1 := by
  unfold sendHelloPacket
  split_ifs <;> rfl

/-- Each Hello and each InvalidSession sets exactly one handshake in motion; no other
packet sets any. -/
theorem handleOperation_handshakes (s : Session) (now : Nat) (p : DiscordPacket) :
    handshakeCount (handleOperation setup s now p).2 = if p.causesHandshake then 1 else 0 := by
  unfold handleOperation DiscordPacket.causesHandshake
  by_cases dispatch : p.op = opcode.discordEvent
  · rw [if_pos dispatch, eventHandler_handshakes, dispatch]; rfl
  rw [if_neg dispatch]
  by_cases reconnect : p.op = opcode.reconnect
  · rw [if_pos reconnect, reconnect]; rfl
  rw [if_neg reconnect]
  by_cases invalid : p.op = opcode.invalidSession
  · rw [if_pos invalid, invalid]; rfl
  rw [if_neg invalid]
  by_cases heartbeat : p.op = opcode.heartbeat
  · rw [if_pos heartbeat, heartbeat]; rfl
  rw [if_neg heartbeat]
  by_cases hello : p.op = opcode.hello
  · rw [if_pos hello, sendHelloPacket_handshakes, hello]; rfl
  rw [if_neg hello]
  split <;> simp [hello, invalid, handshakeCount]

theorem Client.handshakeSlack_eq (c : Client) : c.handshakeSlack =
    ((c.handled.filter fun h => h.2.causesHandshake).length +
      (c.requested.filter ClientPacket.isHandshake).length : Int) -
      (c.writes.filter fun w => w.2.1.isHandshake).length -
      (c.handler.handshakes + fiberSum Fiber.handshakes c.fibers) := by
  simp [Client.handshakeSlack, Client.handshakeCauses, Client.handshakesWritten,
    Client.handshakesPending]

@[simp] theorem Client.handshakeSlack_setFiber (c : Client) (i : Nat) (g : Fiber) :
    (c.setFiber i g).handshakeSlack =
      c.handshakeSlack - (c.fibers[i]?.map fun f => (g.handshakes : Int) - f.handshakes).getD 0 := by
  simp [Client.setFiber, Client.handshakeSlack_eq]; omega

@[simp] theorem Client.handshakeSlack_spawn (c : Client) (f : Fiber) :
    (c.spawn f).handshakeSlack = c.handshakeSlack - f.handshakes := by
  simp [Client.spawn, Client.handshakeSlack_eq]; omega

theorem Fiber.handshakes_of_outgoing {f : Fiber} {q : ClientPacket} (h : f.outgoing = some q) :
    f.handshakes = q.handshakes ∧ f.sent.handshakes = 0 := by
  unfold Fiber.outgoing at h
  split at h <;> cases h <;> exact ⟨rfl, rfl⟩

/-- `Connect` only starts a receiver and an emitter, which hold no handshake. -/
theorem Client.connect_spec (c : Client) (discovery : Option String) (opened : Bool) :
    ∃ started, fiberSum Fiber.handshakes started = 0 ∧
      (c.connect discovery opened).1.fibers = c.fibers ++ started ∧
      (c.connect discovery opened).1.handler = c.handler ∧
      (c.connect discovery opened).1.writes = c.writes ∧
      (c.connect discovery opened).1.handled = c.handled ∧
      (c.connect discovery opened).1.requested = c.requested := by
  unfold Client.connect
  split
  · exact ⟨[], by simp⟩
  · split
    · exact ⟨[], by simp⟩
    · split
      · exact ⟨[], by simp⟩
      · exact ⟨[.receiver .reading, .emitter .waiting], by simp [Fiber.handshakes]⟩

@[simp] theorem Client.handshakeSlack_connect (c : Client) (discovery : Option String) (opened : Bool) :
    (c.connect discovery opened).1.handshakeSlack = c.handshakeSlack := by
  obtain ⟨started, none, fibers, handler, writes, handled, requested⟩ := c.connect_spec discovery opened
  simp [Client.handshakeSlack_eq, fibers, handler, writes, handled, requested, none]

@[simp] theorem handshakeCount_cons (e : Effect) (rest : List Effect) :
    handshakeCount (e :: rest) = (if e.handshake then 1 else 0) + handshakeCount rest := by
  cases h : e.handshake <;> simp [handshakeCount, List.filter_cons, h]
  omega

theorem Client.emit_handshakes {c : Client} {command : String} {data : Payload} {admitted : Bool}
    {q : ClientPacket} (h : c.emit command data admitted = some q) :
    q.handshakes = if (Effect.emit command data).handshake then 1 else 0 := by
  simp [ClientPacket.handshakes, ClientPacket.isHandshake, Effect.handshake, Client.emit_op h]

theorem Client.handshakeSlack_perform {c : Client} {e : Effect} {rest : List Effect}
    (running : c.handler = .running (e :: rest)) (admitted : Bool) :
    c.handshakeSlack ≤ (c.perform admitted e rest).handshakeSlack := by
  cases e with
  | emit command data =>
    simp only [Client.perform]
    split
    · next q emitted =>
      simp [Client.handshakeSlack_eq, running, HandlerPc.handshakes, Client.emit_handshakes emitted]
    · simp [Client.handshakeSlack_eq, running, HandlerPc.handshakes]; omega
  | _ =>
    simp [Client.perform, Client.spawn, Client.handshakeSlack_eq, running, HandlerPc.handshakes,
      Effect.handshake, Fiber.handshakes] <;> omega

/-- An emitter taking `q` moves its handshake, if any, from the sender to itself. -/
theorem Client.takePacket_measures {c : Client} {i : Nat}
    (waiting : c.fibers[i]? = some (.emitter .waiting)) (q : ClientPacket) :
    (c.takePacket i q).handler = c.handler ∧ (c.takePacket i q).writes = c.writes ∧
      (c.takePacket i q).handled = c.handled ∧ (c.takePacket i q).requested = c.requested ∧
      (fiberSum Fiber.handshakes (c.takePacket i q).fibers : Int) = fiberSum Fiber.handshakes c.fibers + q.handshakes := by
  unfold Client.takePacket
  split_ifs with close
  · have : q.handshakes = 0 := by
      rcases close.2 with op | op <;>
        simp [ClientPacket.handshakes, ClientPacket.isHandshake, op, opcode.identify, opcode.resume,
          opcode.shutdown, opcode.close]
    simp [Client.setFiber, waiting, this, Fiber.handshakes]
  · simp [Client.setFiber, waiting, Fiber.handshakes]

theorem Client.handshakeSlack_takePacket {c : Client} {i : Nat}
    (waiting : c.fibers[i]? = some (.emitter .waiting)) (q : ClientPacket) :
    (c.takePacket i q).handshakeSlack = c.handshakeSlack - q.handshakes := by
  obtain ⟨handler, writes, handled, requested, fibers⟩ := Client.takePacket_measures waiting q
  simp only [Client.handshakeSlack_eq, handler, writes, handled, requested, fibers]; omega

theorem Client.handshakeSlack_le_setFiber (c : Client) (i : Nat) {g : Fiber} (zero : g.handshakes = 0) :
    c.handshakeSlack ≤ (c.setFiber i g).handshakeSlack := by
  rw [Client.handshakeSlack_setFiber]
  cases c.fibers[i]? with
  | none => simp
  | some f => simp only [Option.map_some', Option.getD_some, zero]; omega

/-- The callers of `Disconnect` hold no handshake once it returns. -/
theorem Client.handshakeSlack_returnFrom (c : Client) (i : Nat) (f : Fiber) :
    c.handshakeSlack ≤ (c.returnFrom i f).handshakeSlack := by
  unfold Client.returnFrom
  split <;> exact Client.handshakeSlack_le_setFiber c i rfl

theorem Client.handshakeSlack_closeStep {c c' : Client} {i : Nat} {f : Fiber}
    {reportsDisconnected admitted : Bool} {handing : ClientPacket → Fiber} {grace : Fiber}
    (h : c.closeStep i f reportsDisconnected admitted handing grace = some c')
    (handing_close : ∀ q : ClientPacket, q.op = opcode.close → (handing q).handshakes = 0)
    (grace_zero : grace.handshakes = 0) : c.handshakeSlack ≤ c'.handshakeSlack := by
  unfold Client.closeStep at h
  split_ifs at h
  · cases h
    exact Client.handshakeSlack_returnFrom { c with disconnected := true } i f
  · dsimp only at h
    split at h <;> cases h
    · next q emitted =>
      have : commandOpcode event.close = some q.op := Client.emit_op emitted
      exact Client.handshakeSlack_le_setFiber { c with locked := true } i
        (handing_close q (Option.some.inj this).symm)
    · exact Client.handshakeSlack_le_setFiber { c with locked := true } i grace_zero

/-- No action lowers the slack: each one moves a handshake between owners, writes one,
or adds a cause with the handshake it sets in motion. -/
theorem Client.step_handshakeSlack {c c' : Client} {a : Action} (h : c.step setup a = some c') :
    c.handshakeSlack ≤ c'.handshakeSlack := by
  replace h := Client.act_of_step setup h
  cases a with
  | connect discovery opened =>
    obtain ⟨-, rfl⟩ := Client.act_connect_cases setup h
    simp
  | disconnect shut => cases h; simp [Fiber.handshakes]
  | send command data admitted =>
    rcases Client.act_send_cases setup h with ⟨q, -, rfl⟩ | ⟨-, rfl⟩
    · cases hq : q.isHandshake <;>
        simp [Client.handshakeSlack_eq, Client.spawn, Fiber.handshakes, ClientPacket.handshakes, hq]
      omega
    · exact le_rfl
  | registration call => cases h; exact le_rfl
  | consume =>
    obtain ⟨_, _, handler, rfl⟩ := Client.act_consume_cases setup h
    simp [Client.handshakeSlack_eq, handler, HandlerPc.handshakes]
  | read i frame =>
    obtain ⟨-, ⟨-, rfl⟩ | ⟨-, -, rfl⟩ | ⟨p, -, -, rfl⟩⟩ := Client.act_read_cases setup h
    · exact Client.handshakeSlack_le_setFiber c i (g := .done) rfl
    · exact le_rfl
    · exact Client.handshakeSlack_le_setFiber c i (g := .receiver (.pushing c.epoch p)) rfl
  | poll i =>
    obtain ⟨-, rfl⟩ := Client.act_poll_cases setup h
    exact Client.handshakeSlack_le_setFiber c i (by split <;> rfl)
  | receive i =>
    obtain ⟨_, p, handler, fiber, rfl⟩ := Client.act_receive_cases setup h
    cases hp : p.causesHandshake <;>
      simp [Client.handshakeSlack_eq, Client.setFiber, handler, fiber, hp, HandlerPc.handshakes,
        Fiber.handshakes, handshakeCount]
    omega
  | handle now =>
    obtain ⟨_, _, handler, -, rfl⟩ := Client.act_handle_cases setup h
    simp [Client.handshakeSlack_eq, handler, HandlerPc.handshakes, Disgord.step,
      handleOperation_handshakes]
  | perform admitted =>
    obtain ⟨_, _, handler, rfl⟩ := Client.act_perform_cases setup h
    exact Client.handshakeSlack_perform handler admitted
  | takeFromHandler i =>
    obtain ⟨q, _, waiting, handler, rfl⟩ := Client.act_takeFromHandler_cases setup h
    obtain ⟨handler', writes, handled, requested, fibers⟩ := Client.takePacket_measures waiting q
    simp [Client.handshakeSlack_eq, handler', writes, handled, requested, fibers, handler,
      HandlerPc.handshakes]
    omega
  | take i j =>
    obtain ⟨f, q, waiting, sender, outgoing, ne, rfl⟩ := Client.act_take_cases setup h
    obtain ⟨carried, sent⟩ := Fiber.handshakes_of_outgoing outgoing
    simp [Client.takePacket_getElem? c ne, sender, Client.handshakeSlack_takePacket waiting, carried, sent]
  | write i ok =>
    obtain ⟨q, writing, rfl⟩ := Client.act_write_cases setup h
    cases hq : q.isHandshake <;>
      simp [Client.handshakeSlack_eq, Client.setFiber, writing, Fiber.handshakes, ClientPacket.handshakes, hq]
    omega
  | quit i =>
    obtain ⟨-, ⟨-, rfl⟩ | ⟨_, -, rfl⟩ | ⟨_, -, rfl⟩⟩ := Client.act_quit_cases setup h
    all_goals exact Client.handshakeSlack_le_setFiber c i (g := .done) rfl
  | handlerQuit =>
    obtain ⟨handler, -, rfl⟩ := Client.act_handlerQuit_cases setup h
    simp [Client.handshakeSlack_eq, handler, HandlerPc.handshakes, handshakeCount]
  | draw i ident =>
    obtain ⟨-, -, -, rfl⟩ := Client.act_draw_cases setup h
    exact Client.handshakeSlack_le_setFiber c i (by split <;> rfl)
  | pulse i admitted now =>
    obtain ⟨_, -, -, ⟨-, rfl⟩ | ⟨-, rfl⟩⟩ | ⟨_, -, -, ⟨q, emitted, rfl⟩ | ⟨-, rfl⟩⟩ |
        ⟨ident, _, -, rfl⟩ | ⟨_, -, rfl⟩ := Client.act_pulse_cases setup h
    · exact le_rfl
    · exact Client.handshakeSlack_le_setFiber c i rfl
    · have : q.handshakes = 0 := by rw [Client.emit_handshakes emitted]; rfl
      exact Client.handshakeSlack_le_setFiber c i this
    · exact Client.handshakeSlack_le_setFiber c i rfl
    · exact le_trans (Client.handshakeSlack_le_setFiber c i (g := .pulsator (.sleeping ident)) rfl)
        (by simp [Fiber.handshakes])
    · exact Client.handshakeSlack_le_setFiber c i rfl
  | restart i j =>
    obtain ⟨_, -, -, -, rfl⟩ := Client.act_restart_cases setup h
    exact le_trans (Client.handshakeSlack_le_setFiber c i (g := .done) rfl)
      (Client.handshakeSlack_le_setFiber _ j (g := .reconnector (.disconnecting .start)) rfl)
  | expire i cancelled =>
    obtain ⟨_, _, -, ⟨-, rfl⟩ | ⟨-, -, -, rfl⟩ | ⟨-, -, -, rfl⟩⟩ := Client.act_expire_cases setup h
    all_goals exact Client.handshakeSlack_le_setFiber c i rfl
  | measure i =>
    obtain ⟨_, -, rfl⟩ := Client.act_measure_cases setup h
    exact Client.handshakeSlack_le_setFiber c i rfl
  | wake i admitted =>
    obtain ⟨sleeping, ⟨q, -, rfl⟩ | ⟨-, rfl⟩⟩ := Client.act_wake_cases setup h
    · have : q.handshakes ≤ 1 := by unfold ClientPacket.handshakes; split <;> omega
      simp [sleeping, Fiber.handshakes]; omega
    · exact Client.handshakeSlack_le_setFiber c i rfl
  | lock i now =>
    obtain ⟨-, rfl⟩ := Client.act_lock_cases setup h
    exact Client.handshakeSlack_le_setFiber c i (by split <;> rfl)
  | close i reportsDisconnected admitted =>
    have handing_close (wrap : ClientPacket → Fiber) (carries : ∀ q, (wrap q).handshakes = q.handshakes)
        (q : ClientPacket) (close : q.op = opcode.close) : (wrap q).handshakes = 0 := by
      simp [carries, ClientPacket.handshakes, ClientPacket.isHandshake, close, opcode.close,
        opcode.identify, opcode.resume]
    rcases Client.act_close_cases setup h with ⟨-, step⟩ | ⟨_, -, step⟩
    · exact Client.handshakeSlack_closeStep step (handing_close _ fun _ => rfl) rfl
    · exact Client.handshakeSlack_closeStep step (handing_close _ fun _ => rfl) rfl
  | release i =>
    obtain ⟨f, -, -, rfl⟩ := Client.act_release_cases setup h
    exact Client.handshakeSlack_returnFrom { c with disconnected := true, locked := false } i f
  | attempt i discovery opened =>
    obtain ⟨_, -, -, rfl⟩ := Client.act_attempt_cases setup h
    exact (c.handshakeSlack_connect discovery opened).symm.le.trans
      (Client.handshakeSlack_le_setFiber _ i (by split <;> rfl))
  | backoff i =>
    obtain ⟨_, -, rfl⟩ := Client.act_backoff_cases setup h
    exact Client.handshakeSlack_le_setFiber c i rfl

/-- In every reachable state the handshakes written or under way are covered by their causes. -/
theorem Client.Reachable.handshakeSlack_nonneg {c : Client} (reachable : Client.Reachable setup c) :
    0 ≤ c.handshakeSlack := by
  induction reachable with
  | initial => simp [Client.handshakeSlack_eq, Client.initial, HandlerPc.handshakes, handshakeCount]
  | step _ _ stepped slack => exact slack.trans (Client.step_handshakeSlack setup stepped)

/-- Over any run, the Identify and Resume frames written are at most the Hello and
InvalidSession packets taken plus the handshakes the application emitted itself. -/
theorem handshakes_bounded_by_causes {c : Client} (reachable : Client.Reachable setup c) :
    (c.writes.filter fun w => w.2.1.isHandshake).length ≤
      (c.handled.filter fun h => h.2.causesHandshake).length +
        (c.requested.filter ClientPacket.isHandshake).length := by
  have slack := reachable.handshakeSlack_nonneg
  rw [Client.handshakeSlack_eq] at slack
  omega

/-- An InvalidSession read on the first connection, then a Reconnect read before the
delayed Identify wakes. -/
def identifyAcrossReconnect : List Action :=
  [.connect none true, .read 0 (some (some ⟨opcode.hello, 0, "", []⟩)), .receive 0, .poll 0,
   .handle 0, .perform true, .perform true, .takeFromHandler 1, .write 1 true,
   .draw 2 5, .pulse 2 true 0, .pulse 2 true 0, .take 1 2, .write 1 true, .pulse 2 true 0,
   .read 0 (some (some ⟨opcode.invalidSession, 0, "", []⟩)), .receive 0, .poll 0, .handle 0,
   .perform true,
   .read 0 (some (some ⟨opcode.reconnect, 0, "", []⟩)), .receive 0, .poll 0, .handle 0,
   .perform true,
   .lock 5 1000000000, .restart 2 5, .close 5 false true, .take 1 5, .release 5,
   .attempt 5 none true, .wake 4 true, .take 7 4, .write 7 true]

/-- The delayed Identify is written on the second connection, from which nothing has been
read. -/
theorem identify_lands_on_next_connection :
    ((Client.initial "gw").run ⟨⟨"T", "", "", "", 0, 0, 0⟩, "linux", ⟨fun _ => ⟨"s", []⟩, fun _ => ⟨45000⟩⟩⟩
      identifyAcrossReconnect).map
      (fun c => ((c.writes.filter (·.1 = 1)).map (·.2.1.op), (c.writes.filter (·.1 = 2)).map (·.2.1.op),
        c.reads.map fun r => (r.1, r.2.op))) =
      some ([opcode.identify, opcode.heartbeat], [opcode.identify],
        [(1, opcode.hello), (1, opcode.invalidSession), (1, opcode.reconnect)]) := by
  decide

/-- At the end of that run the bound is tight: two handshakes written, for the Hello and
the InvalidSession taken. -/
theorem handshakes_bounded_by_causes_across_reconnect :
    let sample : Setup := ⟨⟨"T", "", "", "", 0, 0, 0⟩, "linux", ⟨fun _ => ⟨"s", []⟩, fun _ => ⟨45000⟩⟩⟩
    ∃ c, (Client.initial "gw").run sample identifyAcrossReconnect = some c ∧
      (c.writes.filter fun w => w.2.1.isHandshake).length = 2 ∧
      (c.handled.filter fun h => h.2.causesHandshake).length = 2 ∧
      (c.requested.filter ClientPacket.isHandshake).length = 0 ∧
      (c.writes.filter fun w => w.2.1.isHandshake).length ≤
        (c.handled.filter fun h => h.2.causesHandshake).length +
          (c.requested.filter ClientPacket.isHandshake).length := by
  intro sample
  obtain ⟨c, ran, counts⟩ := Option.map_eq_some'.mp
    (show ((Client.initial "gw").run sample identifyAcrossReconnect).map (fun c =>
      ((c.writes.filter fun w => w.2.1.isHandshake).length,
        (c.handled.filter fun h => h.2.causesHandshake).length,
        (c.requested.filter ClientPacket.isHandshake).length)) = some (2, 2, 0) by decide)
  simp only [Prod.mk.injEq] at counts
  exact ⟨c, ran, counts.1, counts.2.1, counts.2.2,
    handshakes_bounded_by_causes sample (Client.Reachable.run sample (.initial "gw") ran)⟩

end Disgord
