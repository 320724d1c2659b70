import Disgord.Restart

/-! The whole client as a state machine over its fibers. One step is one atomic action of
one fiber: a critical section, a channel rendezvous or a transport call. The transport,
the clock, the random ids, the rate limiter and the scheduler choose the arguments. -/
namespace Disgord

/-- `Disconnect`: take the lock, hand `Close` to an emitter, sleep out the grace period
still holding the lock. -/
inductive Closing where
  | start
  | handing (q : ClientPacket)
  | grace
  deriving DecidableEq, Repr

inductive ReceiverPc where
  | reading
  | pushing (epoch : Nat) (p : DiscordPacket)
  | polling
  deriving DecidableEq, Repr

inductive EmitterPc where
  | waiting
  | writing (q : ClientPacket)
  deriving DecidableEq, Repr

/-- `pulsate`: draw an id, create the ticker, then beat: snapshot, `Emit`, arm a watchdog,
sleep until the ticker, shutdown or restart. -/
inductive PulsatorPc where
  | starting
  | ticking (serviceID : UInt8)
  | beating (serviceID : UInt8)
  | emitting (serviceID : UInt8) (last : Nat) (q : ClientPacket)
  | arming (serviceID : UInt8) (last : Nat)
  | sleeping (serviceID : UInt8)
  deriving DecidableEq, Repr

inductive ReconnectPc where
  | locking
  | restarting
  | disconnecting (c : Closing)
  | connecting (tryIndex : Nat)
  | backingOff (tryIndex : Nat)
  deriving DecidableEq, Repr

/-- Every fiber but `operationHandlers`. A `measuring` watchdog has still to read
`lastHeartbeatAck` again; a `closer` or `caller` is an application call. -/
inductive Fiber where
  | receiver (pc : ReceiverPc)
  | emitter (pc : EmitterPc)
  | pulsator (pc : PulsatorPc)
  | watchdog (last sent : Nat)
  | measuring (sent : Nat)
  | identifier (pending : Option ClientPacket)
  | reconnector (pc : ReconnectPc)
  | closer (c : Closing) (shut : Bool)
  | caller (q : ClientPacket)
  | done
  deriving DecidableEq, Repr

def Fiber.isReceiver : Fiber → Bool
  | .receiver _ => true
  | _ => false

def Fiber.isEmitter : Fiber → Bool
  | .emitter _ => true
  | _ => false

/-- `operationHandlers`: waiting on `receiveChan` is `running []`; a taken packet waits
for the lock, then its effects run in order, blocking on `emitChan` or `eventChan`. -/
inductive HandlerPc where
  | running (effects : List Effect)
  | handling (epoch : Nat) (p : DiscordPacket)
  | emitting (q : ClientPacket) (rest : List Effect)
  | dispatching (e : Event) (rest : List Effect)
  | exited
  deriving DecidableEq, Repr

/-- The client's fields and fibers, logs of frames read and taken, packets taken and
written, events taken and `Emit`s queued; `epoch` counts successful `Open`s. -/
structure Client where
  session : Session
  handler : HandlerPc
  fibers : List Fiber
  locked : Bool
  disconnected : Bool
  haveConnectedOnce : Bool
  shutdown : Bool
  endpoint : String
  connOpen : Bool
  epoch : Nat
  pulsating : UInt8
  lastRestart : Int
  heartbeatLatency : Int
  panicked : Bool
  reads : List (Nat × DiscordPacket)
  handled : List (Nat × DiscordPacket)
  enqueued : List ClientPacket
  writes : List (Nat × ClientPacket × Bool)
  delivered : List Event
  requested : List ClientPacket
  deriving DecidableEq, Repr

/-- `NewClient`: disconnected, with `operationHandlers` started. -/
def Client.initial (endpoint : String) : Client :=
  ⟨.initial, .running [], [], false, true, false, false, endpoint, false, 0, 0, 0, 0, false,
    [], [], [], [], [], []⟩

inductive Action where
  | connect (discovery : Option String) (opened : Bool)
  | disconnect (shut : Bool)
  | send (command : String) (data : Payload) (admitted : Bool)
  | registration (call : Registration)
  | consume
  | read (fiber : Nat) (frame : Option (Option DiscordPacket))
  | poll (fiber : Nat)
  | receive (fiber : Nat)
  | handle (now : Nat)
  | perform (admitted : Bool)
  | takeFromHandler (emitter : Nat)
  | take (emitter sender : Nat)
  | write (emitter : Nat) (ok : Bool)
  | quit (fiber : Nat)
  | handlerQuit
  | draw (fiber : Nat) (serviceID : UInt8)
  | pulse (fiber : Nat) (admitted : Bool) (now : Nat)
  | restart (pulsator reconnector : Nat)
  | expire (fiber : Nat) (cancelled : Bool)
  | measure (fiber : Nat)
  | wake (fiber : Nat) (admitted : Bool)
  | lock (fiber : Nat) (now : Int)
  | close (fiber : Nat) (reportsDisconnected admitted : Bool)
  | release (fiber : Nat)
  | attempt (fiber : Nat) (discovery : Option String) (opened : Bool)
  | backoff (fiber : Nat)
  deriving DecidableEq, Repr

/-- A weight summed over the fibers. -/
def fiberSum (w : Fiber → Nat) : List Fiber → Nat
  | [] => 0
  | f :: fibers => w f + fiberSum w fibers

@[simp] theorem fiberSum_nil (w : Fiber → Nat) : fiberSum w [] = 0 := rfl

@[simp] theorem fiberSum_cons (w : Fiber → Nat) (f : Fiber) (l : List Fiber) :
    fiberSum w (f :: l) = w f + fiberSum w l := rfl

@[simp] theorem fiberSum_append (w : Fiber → Nat) (l l' : List Fiber) :
    fiberSum w (l ++ l') = fiberSum w l + fiberSum w l' := by
  induction l <;> simp [*, Nat.add_assoc]

/-- Replacing fiber `i` trades its weight for the new fiber's. -/
@[simp] theorem fiberSum_set (w : Fiber → Nat) (l : List Fiber) (i : Nat) (g : Fiber) :
    (fiberSum w (l.set i g) : Int) = fiberSum w l + (l[i]?.map fun f => (w g : Int) - w f).getD 0 := by
  induction l generalizing i with
  | nil => simp
  | cons x l ih =>
    cases i with
    | zero => simp; omega
    | succ i => simp [ih]; omega

variable (setup : Setup)

def Client.setFiber (c : Client) (i : Nat) (f : Fiber) : Client :=
  { c with fibers := c.fibers.set i f }

def Client.spawn (c : Client) (f : Fiber) : Client :=
  { c with fibers := c.fibers ++ [f] }

/-- `Emit`'s checks: before any connection, for an unsupported command, or when the rate
limiter refuses (`admitted = false`) it returns an error; otherwise it sends on `emitChan`. -/
def Client.emit (c : Client) (command : String) (data : Payload) (admitted : Bool) :
    Option ClientPacket :=
  if !c.haveConnectedOnce then none
  else match commandOpcode command with
    | some op => if admitted then some ⟨op, data⟩ else none
    | none => none

theorem Client.emit_op {c : Client} {command : String} {data : Payload} {admitted : Bool}
    {q : ClientPacket} (h : c.emit command data admitted = some q) :
    commandOpcode command = some q.op := by
  unfold Client.emit at h
  split at h
  · cases h
  · split at h
    · split at h
      · cases h; assumption
      · cases h
    · cases h

/-- `Connect`, one step since it holds the lock throughout. `discovery` is the result of
`getGatewayRoute`, `opened` that of `conn.Open`; the result says whether it succeeded. -/
def Client.connect (c : Client) (discovery : Option String) (opened : Bool) : Client × Bool :=
  if !c.disconnected then (c, false)
  else
    match (if c.endpoint = "" then discovery else some c.endpoint) with
    | none => (c, false)
    | some endpoint =>
      if !opened then ({ c with endpoint := endpoint }, false)
      else ({ c with endpoint := endpoint, haveConnectedOnce := true, disconnected := false,
                     connOpen := true, epoch := c.epoch + 1,
                     fibers := c.fibers ++ [.receiver .reading, .emitter .waiting] }, true)

/-- The packet a fiber is blocked sending on `emitChan`. -/
def Fiber.outgoing : Fiber → Option ClientPacket
  | .pulsator (.emitting _ _ q) | .identifier (some q) | .reconnector (.disconnecting (.handing q))
  | .closer (.handing q) _ | .caller q => some q
  | _ => none

/-- Where a fiber goes once an emitter has taken its packet. -/
def Fiber.sent : Fiber → Fiber
  | .pulsator (.emitting id last _) => .pulsator (.arming id last)
  | .reconnector (.disconnecting (.handing _)) => .reconnector (.disconnecting .grace)
  | .closer (.handing _) shut => .closer .grace shut
  | _ => .done

/-- The caller of `Disconnect` once it returns: `reconnect` goes on to its retry loop,
`Shutdown` closes the shutdown channel, which panics if it is closed already. -/
def Client.returnFrom (c : Client) (i : Nat) : Fiber → Client
  | .reconnector _ => c.setFiber i (.reconnector (.connecting 0))
  | .closer _ true => { c.setFiber i .done with shutdown := true, panicked := c.shutdown }
  | _ => c.setFiber i .done

/-- An emitter takes `q`: the internal Shutdown or Close with nil data closes the
transport and ends the emitter; anything else is to be written. -/
def Client.takePacket (c : Client) (i : Nat) (q : ClientPacket) : Client :=
  let c := { c with enqueued := c.enqueued ++ [q] }
  if q.data = .nil ∧ (q.op = opcode.shutdown ∨ q.op = opcode.close) then
    { c.setFiber i .done with connOpen := false }
  else c.setFiber i (.emitter (.writing q))

theorem Client.takePacket_getElem? (c : Client) {i j : Nat} (ne : i ≠ j) (q : ClientPacket) :
    (c.takePacket i q).fibers[j]? = c.fibers[j]? := by
  unfold Client.takePacket
  split_ifs <;> simp [Client.setFiber, List.getElem?_set_ne ne]

/-- One step of the handler's effect list. -/
def Client.perform (c : Client) (admitted : Bool) : Effect → List Effect → Client
  | .emit command data, rest => match c.emit command data admitted with
    | some q => { c with handler := .emitting q rest }
    | none => { c with handler := .running rest }
  | .dispatch e, rest => { c with handler := .dispatching e rest }
  | .reconnect, rest => { c.spawn (.reconnector .locking) with handler := .running rest }
  | .identifyLater, rest => { c.spawn (.identifier none) with handler := .running rest }
  | .pulsate, rest => { c.spawn (.pulsator .starting) with handler := .running rest }

/-- `Disconnect`'s first step: return early if the transport reports itself disconnected
or never connected, else take the lock and emit `Close`. -/
def Client.closeStep (c : Client) (i : Nat) (f : Fiber) (reportsDisconnected admitted : Bool)
    (handing : ClientPacket → Fiber) (grace : Fiber) : Option Client :=
  if c.locked then none
  else if reportsDisconnected ∨ !c.haveConnectedOnce then
    some ({ c with disconnected := true }.returnFrom i f)
  else
    let c := { c with locked := true }
    match c.emit event.close .nil admitted with
    | some q => some (c.setFiber i (handing q))
    | none => some (c.setFiber i grace)

/-- Only the operations that take the client lock wait for it. -/
def locking (p : DiscordPacket) : Bool :=
  p.op = opcode.discordEvent ∨ p.op = opcode.hello ∨ p.op = opcode.heartbeatAck

/-- One atomic action of a live client. `none` when the action is not enabled. -/
def Client.act (c : Client) : Action → Option Client
  | .connect discovery opened => if c.locked then none else some (c.connect discovery opened).1
  | .disconnect shut => some (c.spawn (.closer .start shut))
  | .send command data admitted => match c.emit command data admitted with
    | some q => some { c.spawn (.caller q) with requested := c.requested ++ [q] }
    | none => some c
  | .registration call => some { c with session := (Disgord.step setup c.session (.registration call)).1 }
  | .consume => match c.handler with
    | .dispatching e rest => some { c with handler := .running rest, delivered := c.delivered ++ [e] }
    | _ => none
  | .read i frame => match c.fibers[i]? with
    | some (.receiver .reading) =>
      if !c.connOpen then some (c.setFiber i .done)
      else match frame with
        | none => some (c.setFiber i .done)
        | some none => some c
        | some (some p) => some { c.setFiber i (.receiver (.pushing c.epoch p)) with
            reads := c.reads ++ [(c.epoch, p)] }
    | _ => none
  | .poll i => match c.fibers[i]? with
    | some (.receiver .polling) => some (c.setFiber i (if c.shutdown then .done else .receiver .reading))
    | _ => none
  | .receive i => match c.handler, c.fibers[i]? with
    | .running [], some (.receiver (.pushing e p)) =>
      some { c.setFiber i (.receiver .polling) with
        handler := .handling e p, handled := c.handled ++ [(e, p)] }
    | _, _ => none
  | .handle now => match c.handler with
    | .handling _ p =>
      if locking p ∧ c.locked then none
      else
        let (session, effects) := Disgord.step setup c.session (.packet p now)
        some { c with session := session, handler := .running effects }
    | _ => none
  | .perform admitted => match c.handler with
    | .running (effect :: rest) => some (c.perform admitted effect rest)
    | _ => none
  | .takeFromHandler i => match c.fibers[i]?, c.handler with
    | some (.emitter .waiting), .emitting q rest => some { c.takePacket i q with handler := .running rest }
    | _, _ => none
  | .take i j => match c.fibers[i]?, c.fibers[j]? with
    | some (.emitter .waiting), some f => match f.outgoing with
      | some q => some ((c.takePacket i q).setFiber j f.sent)
      | none => none
    | _, _ => none
  | .write i ok => match c.fibers[i]? with
    | some (.emitter (.writing q)) => some { c.setFiber i (.emitter .waiting) with
        writes := c.writes ++ [(c.epoch, q, ok && c.connOpen)] }
    | _ => none
  | .quit i => if !c.shutdown then none else match c.fibers[i]? with
    | some (.emitter .waiting) => some { c.setFiber i .done with connOpen := false }
    | some (.pulsator (.sleeping id)) => some { c.setFiber i .done with
        pulsating := stopPulsating c.pulsating id }
    | some (.reconnector (.backingOff _)) => some (c.setFiber i .done)
    | _ => none
  | .handlerQuit => match c.handler with
    | .running [] => if c.shutdown then some { c with handler := .exited } else none
    | _ => none
  | .draw i id => match c.fibers[i]? with
    | some (.pulsator .starting) =>
      if 1 ≤ id.toNat ∧ id.toNat ≤ 254 then
        let (pulsating, admitted) := allowedToStartPulsating c.pulsating id
        some { c.setFiber i (if admitted then .pulsator (.ticking id) else .done) with
          pulsating := pulsating }
      else none
    | _ => none
  | .pulse i admitted now => match c.fibers[i]? with
    | some (.pulsator (.ticking id)) =>
      if c.locked then none
      else if tickerInterval c.session.heartbeatInterval ≤ 0 then some { c with panicked := true }
      else some (c.setFiber i (.pulsator (.beating id)))
    | some (.pulsator (.beating id)) =>
      if c.locked then none
      else
        let last := c.session.lastHeartbeatAck
        match c.emit event.heartbeat (.heartbeat c.session.sequenceNumber) admitted with
        | some q => some (c.setFiber i (.pulsator (.emitting id last q)))
        | none => some (c.setFiber i (.pulsator (.arming id last)))
    | some (.pulsator (.arming id last)) =>
      some ((c.setFiber i (.pulsator (.sleeping id))).spawn (.watchdog last now))
    | some (.pulsator (.sleeping id)) => some (c.setFiber i (.pulsator (.beating id)))
    | _ => none
  | .restart i j => match c.fibers[i]?, c.fibers[j]? with
    | some (.pulsator (.sleeping id)), some (.reconnector .restarting) =>
      some { (c.setFiber i .done).setFiber j (.reconnector (.disconnecting .start)) with
        pulsating := stopPulsating c.pulsating id }
    | _, _ => none
  | .expire i cancelled => match c.fibers[i]? with
    | some (.watchdog last sent) =>
      if cancelled then some (c.setFiber i .done)
      else if c.locked then none
      else if last < c.session.lastHeartbeatAck then some (c.setFiber i (.measuring sent))
      else some (c.setFiber i (.reconnector .locking))
    | _ => none
  | .measure i => match c.fibers[i]? with
    | some (.measuring sent) =>
      some { c.setFiber i .done with heartbeatLatency := (c.session.lastHeartbeatAck : Int) - sent }
    | _ => none
  | .wake i admitted => match c.fibers[i]? with
    | some (.identifier none) =>
      match c.emit event.identify (.identify (identityPayload setup.conf setup.goos)) admitted with
      | some q => some (c.setFiber i (.identifier (some q)))
      | none => some (c.setFiber i .done)
    | _ => none
  | .lock i now => match c.fibers[i]? with
    | some (.reconnector .locking) =>
      let (proceed, lastRestart) := lockRestart c.lastRestart now
      some { c.setFiber i (if proceed then .reconnector .restarting else .done) with
        lastRestart := lastRestart }
    | _ => none
  | .close i reportsDisconnected admitted => match c.fibers[i]? with
    | some (.reconnector (.disconnecting .start)) =>
      c.closeStep i (.reconnector .locking) reportsDisconnected admitted
        (fun q => .reconnector (.disconnecting (.handing q))) (.reconnector (.disconnecting .grace))
    | some (.closer .start shut) =>
      c.closeStep i (.closer .start shut) reportsDisconnected admitted
        (fun q => .closer (.handing q) shut) (.closer .grace shut)
    | _ => none
  | .release i => match c.fibers[i]? with
    | some (.reconnector (.disconnecting .grace)) =>
      some ({ c with disconnected := true, locked := false }.returnFrom i
        (.reconnector (.disconnecting .grace)))
    | some (.closer .grace shut) =>
      some ({ c with disconnected := true, locked := false }.returnFrom i (.closer .grace shut))
    | _ => none
  | .attempt i discovery opened => match c.fibers[i]? with
    | some (.reconnector (.connecting t)) =>
      if c.locked then none
      else
        let (c, ok) := c.connect discovery opened
        some (c.setFiber i
          (if ok ∨ t = maxReconnectTries then .done else .reconnector (.backingOff t)))
    | _ => none
  | .backoff i => match c.fibers[i]? with
    | some (.reconnector (.backingOff t)) => some (c.setFiber i (.reconnector (.connecting (t + 1))))
    | _ => none

/-! What each action does, its guards included. The step lemmas of the invariants take an
action apart with these rather than unfold `Client.act` each time. -/
section Inversion

variable {c c' : Client}

theorem Client.act_connect_cases {discovery : Option String} {opened : Bool}
    (h : c.act setup (.connect discovery opened) = some c') :
    c.locked = false ∧ c' = (c.connect discovery opened).1 := by
  dsimp only [Client.act] at h
  split at h <;> cases h
  next unlocked => exact ⟨by simpa using unlocked, rfl⟩

theorem Client.act_send_cases {command : String} {data : Payload} {admitted : Bool}
    (h : c.act setup (.send command data admitted) = some c') :
    (∃ q, c.emit command data admitted = some q ∧
      c' = { c.spawn (.caller q) with requested := c.requested ++ [q] }) ∨
    (c.emit command data admitted = none ∧ c' = c) := by
  dsimp only [Client.act] at h
  split at h <;> cases h
  next q emitted => exact .inl ⟨q, emitted, rfl⟩
  next refused => exact .inr ⟨refused, rfl⟩

theorem Client.act_consume_cases (h : c.act setup .consume = some c') :
    ∃ e rest, c.handler = .dispatching e rest ∧
      c' = { c with handler := .running rest, delivered := c.delivered ++ [e] } := by
  dsimp only [Client.act] at h
  split at h <;> cases h
  next e rest dispatching => exact ⟨e, rest, dispatching, rfl⟩

theorem Client.act_read_cases {i : Nat} {frame : Option (Option DiscordPacket)}
    (h : c.act setup (.read i frame) = some c') :
    c.fibers[i]? = some (.receiver .reading) ∧
      ((c.connOpen = false ∨ frame = none) ∧ c' = c.setFiber i .done ∨
        c.connOpen = true ∧ frame = some none ∧ c' = c ∨
        ∃ p, c.connOpen = true ∧ frame = some (some p) ∧
          c' = { c.setFiber i (.receiver (.pushing c.epoch p)) with reads := c.reads ++ [(c.epoch, p)] }) := by
  dsimp only [Client.act] at h
  split at h <;> try cases h
  next reading =>
  refine ⟨reading, ?_⟩
  split at h
  next closed => cases h; exact .inl ⟨.inl (by simpa using closed), rfl⟩
  next opened =>
  have opened : c.connOpen = true := by simpa using opened
  split at h <;> cases h
  · exact .inl ⟨.inr rfl, rfl⟩
  · exact .inr (.inl ⟨opened, rfl, rfl⟩)
  · exact .inr (.inr ⟨_, opened, rfl, rfl⟩)

theorem Client.act_poll_cases {i : Nat} (h : c.act setup (.poll i) = some c') :
    c.fibers[i]? = some (.receiver .polling) ∧
      c' = c.setFiber i (if c.shutdown then .done else .receiver .reading) := by
  dsimp only [Client.act] at h
  split at h <;> cases h
  next polling => exact ⟨polling, rfl⟩

theorem Client.act_receive_cases {i : Nat} (h : c.act setup (.receive i) = some c') :
    ∃ e p, c.handler = .running [] ∧ c.fibers[i]? = some (.receiver (.pushing e p)) ∧
      c' = { c.setFiber i (.receiver .polling) with
        handler := .handling e p, handled := c.handled ++ [(e, p)] } := by
  dsimp only [Client.act] at h
  split at h <;> cases h
  next e p waiting pushing => exact ⟨e, p, waiting, pushing, rfl⟩

theorem Client.act_handle_cases {now : Nat} (h : c.act setup (.handle now) = some c') :
    ∃ e p, c.handler = .handling e p ∧ ¬(locking p = true ∧ c.locked = true) ∧
      c' = { c with
        session := (Disgord.step setup c.session (.packet p now)).1
        handler := .running (Disgord.step setup c.session (.packet p now)).2 } := by
  dsimp only [Client.act] at h
  split at h <;> try cases h
  next e p handling =>
  split_ifs at h with free
  cases h
  exact ⟨e, p, handling, free, rfl⟩

theorem Client.act_perform_cases {admitted : Bool} (h : c.act setup (.perform admitted) = some c') :
    ∃ effect rest, c.handler = .running (effect :: rest) ∧ c' = c.perform admitted effect rest := by
  dsimp only [Client.act] at h
  split at h <;> cases h
  next effect rest running => exact ⟨effect, rest, running, rfl⟩

theorem Client.act_takeFromHandler_cases {i : Nat} (h : c.act setup (.takeFromHandler i) = some c') :
    ∃ q rest, c.fibers[i]? = some (.emitter .waiting) ∧ c.handler = .emitting q rest ∧
      c' = { c.takePacket i q with handler := .running rest } := by
  dsimp only [Client.act] at h
  split at h <;> cases h
  next q rest waiting emitting => exact ⟨q, rest, waiting, emitting, rfl⟩

/-- An emitter takes the packet another fiber is sending; the two are different fibers,
since an emitter sends nothing. -/
theorem Client.act_take_cases {i j : Nat} (h : c.act setup (.take i j) = some c') :
    ∃ f q, c.fibers[i]? = some (.emitter .waiting) ∧ c.fibers[j]? = some f ∧
      f.outgoing = some q ∧ i ≠ j ∧ c' = (c.takePacket i q).setFiber j f.sent := by
  dsimp only [Client.act] at h
  split at h <;> try cases h
  next f waiting sender =>
  split at h <;> cases h
  next q outgoing =>
  refine ⟨f, q, waiting, sender, outgoing, ?_, rfl⟩
  rintro rfl
  rw [waiting, Option.some.injEq] at sender
  subst sender; cases outgoing

theorem Client.act_write_cases {i : Nat} {ok : Bool} (h : c.act setup (.write i ok) = some c') :
    ∃ q, c.fibers[i]? = some (.emitter (.writing q)) ∧
      c' = { c.setFiber i (.emitter .waiting) with
        writes := c.writes ++ [(c.epoch, q, ok && c.connOpen)] } := by
  dsimp only [Client.act] at h
  split at h <;> cases h
  next q writing => exact ⟨q, writing, rfl⟩

theorem Client.act_quit_cases {i : Nat} (h : c.act setup (.quit i) = some c') :
    c.shutdown = true ∧
      (c.fibers[i]? = some (.emitter .waiting) ∧ c' = { c.setFiber i .done with connOpen := false } ∨
        (∃ id, c.fibers[i]? = some (.pulsator (.sleeping id)) ∧
          c' = { c.setFiber i .done with pulsating := stopPulsating c.pulsating id }) ∨
        ∃ t, c.fibers[i]? = some (.reconnector (.backingOff t)) ∧ c' = c.setFiber i .done) := by
  dsimp only [Client.act] at h
  split at h
  · cases h
  next shutdown =>
  refine ⟨by simpa using shutdown, ?_⟩
  split at h <;> cases h
  next waiting => exact .inl ⟨waiting, rfl⟩
  next id sleeping => exact .inr (.inl ⟨id, sleeping, rfl⟩)
  next t backingOff => exact .inr (.inr ⟨t, backingOff, rfl⟩)

theorem Client.act_handlerQuit_cases (h : c.act setup .handlerQuit = some c') :
    c.handler = .running [] ∧ c.shutdown = true ∧ c' = { c with handler := .exited } := by
  dsimp only [Client.act] at h
  split at h <;> try cases h
  next waiting =>
  split_ifs at h with shutdown
  cases h
  exact ⟨waiting, shutdown, rfl⟩

theorem Client.act_draw_cases {i : Nat} {id : UInt8} (h : c.act setup (.draw i id) = some c') :
    c.fibers[i]? = some (.pulsator .starting) ∧ 1 ≤ id.toNat ∧ id.toNat ≤ 254 ∧
      c' = { c.setFiber i (if (allowedToStartPulsating c.pulsating id).2 then .pulsator (.ticking id)
          else .done) with pulsating := (allowedToStartPulsating c.pulsating id).1 } := by
  dsimp only [Client.act] at h
  split at h <;> try cases h
  next starting =>
  by_cases range : 1 ≤ id.toNat ∧ id.toNat ≤ 254
  · rw [if_pos range] at h
    cases h
    exact ⟨starting, range.1, range.2, rfl⟩
  · rw [if_neg range] at h; cases h

/-- The four steps of a pulsator's beat: create the ticker, snapshot and `Emit`, arm the
watchdog, sleep until the next tick. -/
theorem Client.act_pulse_cases {i : Nat} {admitted : Bool} {now : Nat}
    (h : c.act setup (.pulse i admitted now) = some c') :
    (∃ id, c.fibers[i]? = some (.pulsator (.ticking id)) ∧ c.locked = false ∧
      (tickerInterval c.session.heartbeatInterval ≤ 0 ∧ c' = { c with panicked := true } ∨
        0 < tickerInterval c.session.heartbeatInterval ∧ c' = c.setFiber i (.pulsator (.beating id)))) ∨
    (∃ id, c.fibers[i]? = some (.pulsator (.beating id)) ∧ c.locked = false ∧
      ((∃ q, c.emit event.heartbeat (.heartbeat c.session.sequenceNumber) admitted = some q ∧
          c' = c.setFiber i (.pulsator (.emitting id c.session.lastHeartbeatAck q))) ∨
        c.emit event.heartbeat (.heartbeat c.session.sequenceNumber) admitted = none ∧
          c' = c.setFiber i (.pulsator (.arming id c.session.lastHeartbeatAck)))) ∨
    (∃ id last, c.fibers[i]? = some (.pulsator (.arming id last)) ∧
      c' = (c.setFiber i (.pulsator (.sleeping id))).spawn (.watchdog last now)) ∨
    ∃ id, c.fibers[i]? = some (.pulsator (.sleeping id)) ∧
      c' = c.setFiber i (.pulsator (.beating id)) := by
  dsimp only [Client.act] at h
  split at h
  next id ticking =>
    split_ifs at h with locked panics <;> cases h
    · exact .inl ⟨id, ticking, by simpa using locked, .inl ⟨panics, rfl⟩⟩
    · exact .inl ⟨id, ticking, by simpa using locked, .inr ⟨not_le.mp panics, rfl⟩⟩
  next id beating =>
    split_ifs at h with locked
    split at h <;> cases h
    next q emitted => exact .inr (.inl ⟨id, beating, by simpa using locked, .inl ⟨q, emitted, rfl⟩⟩)
    next refused => exact .inr (.inl ⟨id, beating, by simpa using locked, .inr ⟨refused, rfl⟩⟩)
  next id last arming => cases h; exact .inr (.inr (.inl ⟨id, last, arming, rfl⟩))
  next id sleeping => cases h; exact .inr (.inr (.inr ⟨id, sleeping, rfl⟩))
  next => cases h

theorem Client.act_restart_cases {i j : Nat} (h : c.act setup (.restart i j) = some c') :
    ∃ id, c.fibers[i]? = some (.pulsator (.sleeping id)) ∧
      c.fibers[j]? = some (.reconnector .restarting) ∧ i ≠ j ∧
      c' = { (c.setFiber i .done).setFiber j (.reconnector (.disconnecting .start)) with
        pulsating := stopPulsating c.pulsating id } := by
  dsimp only [Client.act] at h
  split at h <;> cases h
  next id sleeping restarting =>
  refine ⟨id, sleeping, restarting, ?_, rfl⟩
  rintro rfl
  rw [sleeping] at restarting; cases restarting

/-- A cancelled watchdog ends; otherwise, under the read lock, it finds an ack after `last`
or calls `reconnect`. -/
theorem Client.act_expire_cases {i : Nat} {cancelled : Bool} (h : c.act setup (.expire i cancelled) = some c') :
    ∃ last sent, c.fibers[i]? = some (.watchdog last sent) ∧
      (cancelled = true ∧ c' = c.setFiber i .done ∨
        cancelled = false ∧ c.locked = false ∧ last < c.session.lastHeartbeatAck ∧
          c' = c.setFiber i (.measuring sent) ∨
        cancelled = false ∧ c.locked = false ∧ c.session.lastHeartbeatAck ≤ last ∧
          c' = c.setFiber i (.reconnector .locking)) := by
  dsimp only [Client.act] at h
  split at h <;> try cases h
  next last sent watching =>
  refine ⟨last, sent, watching, ?_⟩
  split_ifs at h with stopped locked confirmed <;> cases h
  · exact .inl ⟨stopped, rfl⟩
  · exact .inr (.inl ⟨by simpa using stopped, by simpa using locked, confirmed, rfl⟩)
  · exact .inr (.inr ⟨by simpa using stopped, by simpa using locked, not_lt.mp confirmed, rfl⟩)

/-- The watchdog reads `lastHeartbeatAck` again, unlocked, and stores the latency. -/
theorem Client.act_measure_cases {i : Nat} (h : c.act setup (.measure i) = some c') :
    ∃ sent, c.fibers[i]? = some (.measuring sent) ∧
      c' = { c.setFiber i .done with heartbeatLatency := (c.session.lastHeartbeatAck : Int) - sent } := by
  dsimp only [Client.act] at h
  split at h <;> cases h
  next sent measuring => exact ⟨sent, measuring, rfl⟩

theorem Client.act_wake_cases {i : Nat} {admitted : Bool} (h : c.act setup (.wake i admitted) = some c') :
    c.fibers[i]? = some (.identifier none) ∧
      ((∃ q, c.emit event.identify (.identify (identityPayload setup.conf setup.goos)) admitted = some q ∧
          c' = c.setFiber i (.identifier (some q))) ∨
        c.emit event.identify (.identify (identityPayload setup.conf setup.goos)) admitted = none ∧
          c' = c.setFiber i .done) := by
  dsimp only [Client.act] at h
  split at h <;> try cases h
  next sleeping =>
  split at h <;> cases h
  next q emitted => exact ⟨sleeping, .inl ⟨q, emitted, rfl⟩⟩
  next refused => exact ⟨sleeping, .inr ⟨refused, rfl⟩⟩

theorem Client.act_lock_cases {i : Nat} {now : Int} (h : c.act setup (.lock i now) = some c') :
    c.fibers[i]? = some (.reconnector .locking) ∧
      c' = { c.setFiber i (if (lockRestart c.lastRestart now).1 then .reconnector .restarting else .done) with
        lastRestart := (lockRestart c.lastRestart now).2 } := by
  dsimp only [Client.act] at h
  split at h <;> cases h
  next locking => exact ⟨locking, rfl⟩

/-- `Disconnect`'s first step, by `reconnect` or by an application call. -/
theorem Client.act_close_cases {i : Nat} {reportsDisconnected admitted : Bool}
    (h : c.act setup (.close i reportsDisconnected admitted) = some c') :
    (c.fibers[i]? = some (.reconnector (.disconnecting .start)) ∧
      c.closeStep i (.reconnector .locking) reportsDisconnected admitted
        (fun q => .reconnector (.disconnecting (.handing q))) (.reconnector (.disconnecting .grace)) =
        some c') ∨
    ∃ shut, c.fibers[i]? = some (.closer .start shut) ∧
      c.closeStep i (.closer .start shut) reportsDisconnected admitted
        (fun q => .closer (.handing q) shut) (.closer .grace shut) = some c' := by
  dsimp only [Client.act] at h
  split at h
  next start => exact .inl ⟨start, h⟩
  next shut start => exact .inr ⟨shut, start, h⟩
  next => cases h

/-- The end of `Disconnect`'s grace period: the lock is released and the caller returns. -/
theorem Client.act_release_cases {i : Nat} (h : c.act setup (.release i) = some c') :
    ∃ f, c.fibers[i]? = some f ∧
      (f = .reconnector (.disconnecting .grace) ∨ ∃ shut, f = .closer .grace shut) ∧
      c' = { c with disconnected := true, locked := false }.returnFrom i f := by
  dsimp only [Client.act] at h
  split at h <;> cases h
  next grace => exact ⟨_, grace, .inl rfl, rfl⟩
  next shut grace => exact ⟨_, grace, .inr ⟨shut, rfl⟩, rfl⟩

theorem Client.act_attempt_cases {i : Nat} {discovery : Option String} {opened : Bool}
    (h : c.act setup (.attempt i discovery opened) = some c') :
    ∃ t, c.fibers[i]? = some (.reconnector (.connecting t)) ∧ c.locked = false ∧
      c' = (c.connect discovery opened).1.setFiber i
        (if (c.connect discovery opened).2 ∨ t = maxReconnectTries then .done
          else .reconnector (.backingOff t)) := by
  dsimp only [Client.act] at h
  split at h <;> try cases h
  next t connecting =>
  cases locked : c.locked
  · rw [locked, if_neg Bool.false_ne_true] at h
    cases h
    exact ⟨t, connecting, rfl, rfl⟩
  · rw [locked, if_pos rfl] at h; cases h

theorem Client.act_backoff_cases {i : Nat} (h : c.act setup (.backoff i) = some c') :
    ∃ t, c.fibers[i]? = some (.reconnector (.backingOff t)) ∧
      c' = c.setFiber i (.reconnector (.connecting (t + 1))) := by
  dsimp only [Client.act] at h
  split at h <;> cases h
  next t backingOff => exact ⟨t, backingOff, rfl⟩

end Inversion

/-- A panic, of `NewTicker` or of closing the shutdown channel twice, ends the process. -/
def Client.step (c : Client) (a : Action) : Option Client :=
  if c.panicked then none else c.act setup a

theorem Client.act_of_step {c c' : Client} {a : Action} (h : c.step setup a = some c') :
    c.act setup a = some c' := by
  unfold Client.step at h
  split at h
  · cases h
  · exact h

def Client.run (c : Client) : List Action → Option Client
  | [] => some c
  | a :: as => (c.step setup a).bind (·.run as)

/-- The states a `NewClient` client reaches under any schedule and environment. -/
inductive Client.Reachable : Client → Prop
  | initial (endpoint : String) : Client.Reachable (Client.initial endpoint)
  | step {c c' : Client} (a : Action) : Client.Reachable c → c.step setup a = some c' →
      Client.Reachable c'

/-- A schedule run from a reachable state ends in a reachable state. -/
theorem Client.Reachable.run {c c' : Client} {as : List Action} (reachable : Client.Reachable setup c)
    (ran : c.run setup as = some c') : Client.Reachable setup c' := by
  induction as generalizing c with
  | nil => cases ran; exact reachable
  | cons a as ih =>
    obtain ⟨c₁, stepped, rest⟩ := Option.bind_eq_some.mp ran
    exact ih (.step a reachable stepped) rest

/-- A `Disconnect` returning early leaves the emitter running beside the next `Connect`'s:
the second writes the later Identify before the first writes the Heartbeat reply. -/
theorem second_emitter_reorders_writes :
    ((Client.initial "gw").run ⟨⟨"T", "", "", "", 0, 0, 0⟩, "linux", ⟨fun _ => ⟨"s", []⟩, fun _ => ⟨45000⟩⟩⟩
      [.connect none true, .disconnect false, .close 2 true true, .connect none true,
       .read 0 (some (some ⟨opcode.heartbeat, 0, "", []⟩)), .receive 0, .handle 0, .perform true,
       .takeFromHandler 1, .poll 0,
       .read 0 (some (some ⟨opcode.hello, 0, "", []⟩)), .receive 0, .handle 0, .perform true,
       .perform true, .takeFromHandler 4, .write 4 true, .write 1 true]).map
      (fun c => ((c.fibers.filter Fiber.isEmitter).length, c.enqueued.map (·.op),
        c.writes.map (·.2.1.op))) =
      some (2, [opcode.heartbeat, opcode.identify], [opcode.identify, opcode.heartbeat]) := by
  decide

/-- A receiver blocked on `receiveChan` outlives `Disconnect` and `Connect` and reads the
new connection beside the new receiver: two frames are consumed out of `Read` order. -/
theorem stale_receiver_reorders_frames :
    ((Client.initial "gw").run ⟨⟨"T", "", "", "", 0, 0, 0⟩, "linux", ⟨fun _ => ⟨"s", []⟩, fun _ => ⟨45000⟩⟩⟩
      [.connect none true, .read 0 (some (some ⟨opcode.discordEvent, 1, event.ready, []⟩)),
       .receive 0, .poll 0, .handle 0, .perform true,
       .read 0 (some (some ⟨opcode.heartbeatAck, 0, "", [0]⟩)),
       .disconnect false, .close 2 false true, .take 1 2, .release 2, .connect none true,
       .consume, .receive 0, .poll 0,
       .read 0 (some (some ⟨opcode.heartbeatAck, 0, "", [1]⟩)),
       .read 3 (some (some ⟨opcode.heartbeatAck, 0, "", [2]⟩)),
       .handle 0, .receive 3, .handle 0, .receive 0]).map
      (fun c => ((c.fibers.filter Fiber.isReceiver).length,
        (c.reads.filter (·.1 = 2)).map (·.2.data), (c.handled.filter (·.1 = 2)).map (·.2.data))) =
      some (2, [[1], [2]], [[2], [1]]) := by
  decide

end Disgord
