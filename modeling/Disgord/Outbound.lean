import Disgord.Emitter

/-! What reaches `WriteJSON`. `Emit` queues the opcode of its table with any data, the
internal Shutdown and Close included, and the emitter stops on an internal opcode only
when the data is nil. So a packet written carries a wire command, or an internal opcode
with data. -/
namespace Disgord

variable (setup : Setup)

/-- The opcodes of the wire commands in `Emit`'s table. -/
def opcode.isWireCommand (op : Nat) : Bool :=
  op = opcode.heartbeat ∨ op = opcode.identify ∨ op = opcode.resume ∨
    op = opcode.requestGuildMembers ∨ op = opcode.voiceStateUpdate ∨ op = opcode.statusUpdate

/-- The two pseudo-opcodes that signal `Shutdown` and `Close` to the emitter. -/
def opcode.isInternal (op : Nat) : Bool := op = opcode.shutdown ∨ op = opcode.close

/-- A packet whose opcode is in `Emit`'s table. -/
def ClientPacket.tabled (q : ClientPacket) : Bool :=
  opcode.isWireCommand q.op || opcode.isInternal q.op

/-- Each entry of the table gives a wire command's opcode or an internal one. -/
theorem commandOpcode_tabled {command : String} {op : Nat} (h : commandOpcode command = some op) :
    (opcode.isWireCommand op || opcode.isInternal op) = true := by
  simp only [commandOpcode, ite_eq_iff, Option.some.injEq, reduceCtorEq, and_false, or_false] at h
  repeat' obtain ⟨-, rfl⟩ | ⟨-, h⟩ := h
  all_goals subst_vars; rfl

theorem Client.emit_tabled {c : Client} {command : String} {data : Payload} {admitted : Bool}
    {q : ClientPacket} (h : c.emit command data admitted = some q) : q.tabled = true :=
  commandOpcode_tabled (Client.emit_op h)

/-- A packet written to the wire: from the table, and not one the emitter stops on. -/
def ClientPacket.writable (q : ClientPacket) : Bool := q.tabled && !q.stopsEmitter

/-- The packet a fiber holds for `WriteJSON`: the one it waits to hand to an emitter comes
from the table, and the one an emitter writes is writable. -/
def Fiber.outboundOk : Fiber → Bool
  | .emitter (.writing q) => q.writable
  | f => (f.outgoing.map ClientPacket.tabled).getD true

/-- The packet `operationHandlers` is blocked sending on `emitChan`. -/
def HandlerPc.outgoing : HandlerPc → Option ClientPacket
  | .emitting q _ => some q
  | _ => none

/-- Every packet on its way to `WriteJSON` came out of `Emit`'s table, and every packet an
emitter writes or wrote is writable. -/
structure Client.Outbound (c : Client) : Prop where
  handler : ∀ q, c.handler.outgoing = some q → q.tabled = true
  fibers : ∀ f ∈ c.fibers, f.outboundOk = true
  writes : ∀ w ∈ c.writes, w.2.1.writable = true

theorem Client.Outbound.frame {c c' : Client} (inv : c.Outbound)
    (handler : c'.handler.outgoing = c.handler.outgoing ∨ c'.handler.outgoing = none)
    (fibers : c'.fibers = c.fibers) (writes : c'.writes = c.writes) : c'.Outbound := by
  refine ⟨fun q out => ?_, fibers ▸ inv.fibers, writes ▸ inv.writes⟩
  rcases handler with same | none
  · exact inv.handler q (same ▸ out)
  · rw [none] at out; cases out

theorem Client.Outbound.setFiber {c : Client} (inv : c.Outbound) (i : Nat) (g : Fiber)
    (ok : g.outboundOk = true) : (c.setFiber i g).Outbound := by
  refine ⟨inv.handler, fun f mem => ?_, inv.writes⟩
  rcases List.mem_or_eq_of_mem_set mem with old | rfl
  · exact inv.fibers f old
  · exact ok

theorem Client.Outbound.spawn {c : Client} (inv : c.Outbound) (g : Fiber)
    (ok : g.outboundOk = true) : (c.spawn g).Outbound := by
  refine ⟨inv.handler, fun f mem => ?_, inv.writes⟩
  rcases List.mem_append.mp mem with old | new
  · exact inv.fibers f old
  · rw [List.mem_singleton.mp new]; exact ok

theorem Client.Outbound.initial (endpoint : String) : (Client.initial endpoint).Outbound :=
  ⟨fun _ out => (by cases out), fun _ mem => (by cases mem), fun _ mem => (by cases mem)⟩

theorem Fiber.tabled_of_outgoing {f : Fiber} {q : ClientPacket} (ok : f.outboundOk = true)
    (out : f.outgoing = some q) : q.tabled = true := by
  unfold Fiber.outboundOk at ok
  split at ok
  · cases out
  · rwa [out] at ok

theorem Fiber.sent_outboundOk (f : Fiber) : f.sent.outboundOk = true := by
  unfold Fiber.sent; split <;> rfl

theorem Client.Outbound.connect {c : Client} (inv : c.Outbound) (discovery : Option String)
    (opened : Bool) : (c.connect discovery opened).1.Outbound := by
  unfold Client.connect
  split
  · exact inv
  split
  · exact inv
  split
  · exact inv.frame (.inl rfl) rfl rfl
  · refine ⟨inv.handler, fun f mem => ?_, inv.writes⟩
    rcases List.mem_append.mp mem with old | new
    · exact inv.fibers f old
    · rcases List.mem_pair.mp new with rfl | rfl <;> rfl

theorem Client.Outbound.returnFrom {c : Client} (inv : c.Outbound) (i : Nat) (f : Fiber) :
    (c.returnFrom i f).Outbound := by
  unfold Client.returnFrom
  split
  · exact inv.setFiber i (.reconnector (.connecting 0)) rfl
  · exact (inv.setFiber i .done rfl).frame (.inl rfl) rfl rfl
  · exact inv.setFiber i .done rfl

/-- An emitter that takes a packet of the table either stops or is left writing a writable
packet. -/
theorem Client.Outbound.takePacket {c : Client} (inv : c.Outbound) (i : Nat) {q : ClientPacket}
    (tabled : q.tabled = true) : (c.takePacket i q).Outbound := by
  have queued : ({ c with enqueued := c.enqueued ++ [q] } : Client).Outbound :=
    inv.frame (.inl rfl) rfl rfl
  unfold Client.takePacket
  split_ifs with stop
  · exact (queued.setFiber i .done rfl).frame (.inl rfl) rfl rfl
  · refine queued.setFiber i (.emitter (.writing q)) ?_
    simp [Fiber.outboundOk, ClientPacket.writable, ClientPacket.stopsEmitter, tabled, stop]

theorem Client.Outbound.perform {c : Client} (inv : c.Outbound) (admitted : Bool) (e : Effect)
    (rest : List Effect) : (c.perform admitted e rest).Outbound := by
  cases e with
  | emit command data =>
    dsimp only [Client.perform]
    split
    next q emitted =>
      exact ⟨fun _ out => Option.some.inj out ▸ Client.emit_tabled emitted, inv.fibers, inv.writes⟩
    · exact inv.frame (.inr rfl) rfl rfl
  | dispatch e => exact inv.frame (.inr rfl) rfl rfl
  | reconnect => exact (inv.spawn (.reconnector .locking) rfl).frame (.inr rfl) rfl rfl
  | identifyLater => exact (inv.spawn (.identifier none) rfl).frame (.inr rfl) rfl rfl
  | pulsate => exact (inv.spawn (.pulsator .starting) rfl).frame (.inr rfl) rfl rfl

theorem Client.Outbound.closeStep {c c' : Client} (inv : c.Outbound) {i : Nat} {f : Fiber}
    {reportsDisconnected admitted : Bool} {handing : ClientPacket → Fiber} {grace : Fiber}
    (h : c.closeStep i f reportsDisconnected admitted handing grace = some c')
    (hands : ∀ q, (handing q).outboundOk = q.tabled) (graceOk : grace.outboundOk = true) :
    c'.Outbound := by
  unfold Client.closeStep at h
  split_ifs at h
  · have marked : ({ c with disconnected := true } : Client).Outbound := inv.frame (.inl rfl) rfl rfl
    cases h; exact marked.returnFrom i f
  · have locked : ({ c with locked := true } : Client).Outbound := inv.frame (.inl rfl) rfl rfl
    dsimp only at h
    split at h <;> cases h
    next q emitted => exact locked.setFiber i (handing q) ((hands q).trans (Client.emit_tabled emitted))
    · exact locked.setFiber i grace graceOk

/-- One action keeps every packet on its way to `WriteJSON` in the table: whatever
`Emit` queues comes from its table, and an emitter writes only what it did not stop on. -/
theorem Client.Outbound.act {c c' : Client} {a : Action} (inv : c.Outbound)
    (h : c.act setup a = some c') : c'.Outbound := by
  cases a with
  | connect discovery opened =>
    obtain ⟨-, rfl⟩ := Client.act_connect_cases setup h
    exact inv.connect discovery opened
  | disconnect shut => cases h; exact inv.spawn (.closer .start shut) rfl
  | send command data admitted =>
    rcases Client.act_send_cases setup h with ⟨q, emitted, rfl⟩ | ⟨-, rfl⟩
    · exact (inv.spawn (.caller q) (Client.emit_tabled emitted)).frame (.inl rfl) rfl rfl
    · exact inv
  | registration call => cases h; exact inv.frame (.inl rfl) rfl rfl
  | consume =>
    obtain ⟨_, _, -, rfl⟩ := Client.act_consume_cases setup h
    exact inv.frame (.inr rfl) rfl rfl
  | read i frame =>
    obtain ⟨-, ⟨-, rfl⟩ | ⟨-, -, rfl⟩ | ⟨p, -, -, rfl⟩⟩ := Client.act_read_cases setup h
    · exact inv.setFiber i .done rfl
    · exact inv
    · exact (inv.setFiber i (.receiver (.pushing _ p)) rfl).frame (.inl rfl) rfl rfl
  | poll i =>
    obtain ⟨-, rfl⟩ := Client.act_poll_cases setup h
    exact inv.setFiber i _ (by split <;> rfl)
  | receive i =>
    obtain ⟨_, _, -, -, rfl⟩ := Client.act_receive_cases setup h
    exact (inv.setFiber i (.receiver .polling) rfl).frame (.inr rfl) rfl rfl
  | handle now =>
    obtain ⟨_, _, -, -, rfl⟩ := Client.act_handle_cases setup h
    exact inv.frame (.inr rfl) rfl rfl
  | perform admitted =>
    obtain ⟨effect, rest, -, rfl⟩ := Client.act_perform_cases setup h
    exact inv.perform admitted effect rest
  | takeFromHandler i =>
    obtain ⟨q, rest, -, emitting, rfl⟩ := Client.act_takeFromHandler_cases setup h
    exact (inv.takePacket i (inv.handler q (by rw [emitting]; rfl))).frame (.inr rfl) rfl rfl
  | take i j =>
    obtain ⟨f, q, -, sender, outgoing, -, rfl⟩ := Client.act_take_cases setup h
    exact (inv.takePacket i (Fiber.tabled_of_outgoing (inv.fibers f (List.getElem?_mem sender))
      outgoing)).setFiber j f.sent f.sent_outboundOk
  | write i ok =>
    obtain ⟨q, writing, rfl⟩ := Client.act_write_cases setup h
    refine ⟨inv.handler, (inv.setFiber i (.emitter .waiting) rfl).fibers, fun w mem => ?_⟩
    rcases List.mem_append.mp mem with old | new
    · exact inv.writes w old
    · rw [List.mem_singleton.mp new]; exact inv.fibers _ (List.getElem?_mem writing)
  | quit i =>
    obtain ⟨-, ⟨-, rfl⟩ | ⟨_, -, rfl⟩ | ⟨_, -, rfl⟩⟩ := Client.act_quit_cases setup h
    · exact (inv.setFiber i .done rfl).frame (.inl rfl) rfl rfl
    · exact (inv.setFiber i .done rfl).frame (.inl rfl) rfl rfl
    · exact inv.setFiber i .done rfl
  | handlerQuit =>
    obtain ⟨-, -, rfl⟩ := Client.act_handlerQuit_cases setup h
    exact inv.frame (.inr rfl) rfl rfl
  | draw i ident =>
    obtain ⟨-, -, -, rfl⟩ := Client.act_draw_cases setup h
    exact (inv.setFiber i _ (by split <;> rfl)).frame (.inl rfl) rfl rfl
  | pulse i admitted now =>
    obtain ⟨_, -, -, ⟨-, rfl⟩ | ⟨-, rfl⟩⟩ | ⟨_, -, -, ⟨q, emitted, rfl⟩ | ⟨-, rfl⟩⟩ |
        ⟨_, _, -, rfl⟩ | ⟨_, -, rfl⟩ := Client.act_pulse_cases setup h
    · exact inv.frame (.inl rfl) rfl rfl
    · exact inv.setFiber i (.pulsator (.beating _)) rfl
    · exact inv.setFiber i (.pulsator (.emitting _ _ q)) (Client.emit_tabled emitted)
    · exact inv.setFiber i (.pulsator (.arming _ _)) rfl
    · exact (inv.setFiber i (.pulsator (.sleeping _)) rfl).spawn (.watchdog _ now) rfl
    · exact inv.setFiber i (.pulsator (.beating _)) rfl
  | restart i j =>
    obtain ⟨_, -, -, -, rfl⟩ := Client.act_restart_cases setup h
    exact ((inv.setFiber i .done rfl).setFiber j (.reconnector (.disconnecting .start)) rfl).frame
      (.inl rfl) rfl rfl
  | expire i cancelled =>
    obtain ⟨_, _, -, ⟨-, rfl⟩ | ⟨-, -, -, rfl⟩ | ⟨-, -, -, rfl⟩⟩ := Client.act_expire_cases setup h
    · exact inv.setFiber i .done rfl
    · exact inv.setFiber i (.measuring _) rfl
    · exact inv.setFiber i (.reconnector .locking) rfl
  | measure i =>
    obtain ⟨_, -, rfl⟩ := Client.act_measure_cases setup h
    exact (inv.setFiber i .done rfl).frame (.inl rfl) rfl rfl
  | wake i admitted =>
    obtain ⟨-, ⟨q, emitted, rfl⟩ | ⟨-, rfl⟩⟩ := Client.act_wake_cases setup h
    · exact inv.setFiber i (.identifier (some q)) (Client.emit_tabled emitted)
    · exact inv.setFiber i .done rfl
  | lock i now =>
    obtain ⟨-, rfl⟩ := Client.act_lock_cases setup h
    exact (inv.setFiber i _ (by split <;> rfl)).frame (.inl rfl) rfl rfl
  | close i reportsDisconnected admitted =>
    rcases Client.act_close_cases setup h with ⟨-, step⟩ | ⟨_, -, step⟩
    · exact inv.closeStep step (fun _ => rfl) rfl
    · exact inv.closeStep step (fun _ => rfl) rfl
  | release i =>
    obtain ⟨f, -, -, rfl⟩ := Client.act_release_cases setup h
    have released : ({ c with disconnected := true, locked := false } : Client).Outbound :=
      inv.frame (.inl rfl) rfl rfl
    exact released.returnFrom i f
  | attempt i discovery opened =>
    obtain ⟨_, -, -, rfl⟩ := Client.act_attempt_cases setup h
    exact (inv.connect discovery opened).setFiber i _ (by split <;> rfl)
  | backoff i =>
    obtain ⟨_, -, rfl⟩ := Client.act_backoff_cases setup h
    exact inv.setFiber i (.reconnector (.connecting _)) rfl

end Disgord
