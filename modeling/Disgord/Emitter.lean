import Disgord.Client

/-! The emitter pipeline. Each `Connect` starts an emitter, which stops only on a nil
Shutdown or Close or a closed shutdown channel. In the runs where every `Disconnect` hands
its Close to an emitter, at most one emitter runs and writes keep the order taken. -/
namespace Disgord

variable (setup : Setup)

/-- The packets an emitter closes the transport on instead of writing them. -/
def ClientPacket.stopsEmitter (q : ClientPacket) : Bool :=
  q.data = .nil ∧ (q.op = opcode.shutdown ∨ q.op = opcode.close)

/-- The part a fiber plays for the emitters: an emitter and its packet, or a `Disconnect`
holding the lock, handing over its Close or in its grace period. -/
inductive Role where
  | emitter (writing : Option ClientPacket)
  | closing (q : ClientPacket)
  | grace
  | other
  deriving DecidableEq, Repr

def Fiber.role : Fiber → Role
  | .emitter .waiting => .emitter none
  | .emitter (.writing q) => .emitter (some q)
  | .closer (.handing q) _ | .reconnector (.disconnecting (.handing q)) => .closing q
  | .closer .grace _ | .reconnector (.disconnecting .grace) => .grace
  | _ => .other

def Role.isEmitter : Role → Bool
  | .emitter _ => true
  | _ => false

def Role.holdsLock : Role → Bool
  | .closing _ | .grace => true
  | _ => false

def Role.isGrace : Role → Bool
  | .grace => true
  | _ => false

/-- A `Disconnect` handing over a packet that would not stop an emitter. -/
def Role.stray : Role → Bool
  | .closing q => !q.stopsEmitter
  | _ => false

def Role.inFlight : Role → Option ClientPacket
  | .emitter writing => writing
  | _ => none

def Client.roles (c : Client) : List Role := c.fibers.map Fiber.role

/-- The roles that matter to the emitters, in fiber order. -/
def Client.activeRoles (c : Client) : List Role := c.roles.filter (· != .other)

/-- No `Disconnect` returns early on a transport reporting itself disconnected
(`conn.Disconnected()`), and the rate limiter admits every Close. -/
def Action.HandsOverClose : Action → Prop
  | .close _ reportsDisconnected admitted => reportsDisconnected = false ∧ admitted = true
  | _ => True

/-- At most one emitter, none while disconnected or during a grace period, one lock
holder while locked, and the writes in the order the packets were taken. -/
structure Client.EmitterInvariant (c : Client) : Prop where
  single : (c.activeRoles.filter Role.isEmitter).length ≤ 1
  idle : c.disconnected = true ∨ c.haveConnectedOnce = false →
    c.activeRoles.filter Role.isEmitter = []
  lock : (c.activeRoles.filter Role.holdsLock).length = if c.locked then 1 else 0
  grace : c.activeRoles.filter Role.isGrace ≠ [] → c.activeRoles.filter Role.isEmitter = []
  closes : c.activeRoles.filter Role.stray = []
  order : c.enqueued.filter (fun q => !q.stopsEmitter) =
    c.writes.map (·.2.1) ++ c.activeRoles.filterMap Role.inFlight

theorem set_split {α : Type} {l : List α} {i : Nat} {a : α} (h : l[i]? = some a) (b : α) :
    l = l.take i ++ a :: l.drop (i + 1) ∧ l.set i b = l.take i ++ b :: l.drop (i + 1) := by
  obtain ⟨bound, rfl⟩ := List.getElem?_eq_some_iff.mp h
  exact ⟨by rw [← List.drop_eq_getElem_cons bound, List.take_append_drop],
    List.set_eq_take_cons_drop b bound⟩

theorem Client.roles_getElem? {c : Client} {i : Nat} {f : Fiber} (h : c.fibers[i]? = some f) :
    c.roles[i]? = some f.role := by
  simp [Client.roles, h]

@[simp] theorem Client.roles_setFiber (c : Client) (i : Nat) (g : Fiber) :
    (c.setFiber i g).roles = c.roles.set i g.role := by
  simp [Client.roles, Client.setFiber]

@[simp] theorem Client.roles_spawn (c : Client) (g : Fiber) :
    (c.spawn g).roles = c.roles ++ [g.role] := by
  simp [Client.roles, Client.spawn]

/-- Replacing a fiber by one of the same role keeps the roles. -/
theorem Client.activeRoles_setFiber_same {c : Client} {i : Nat} {f g : Fiber}
    (h : c.fibers[i]? = some f) (same : g.role = f.role) :
    (c.setFiber i g).activeRoles = c.activeRoles := by
  obtain ⟨before, after⟩ := set_split (Client.roles_getElem? h) g.role
  rw [Client.activeRoles, Client.roles_setFiber, after, same, ← before, Client.activeRoles]

/-- Starting a fiber that plays no part keeps the roles. -/
theorem Client.activeRoles_spawn_other (c : Client) {g : Fiber} (other : g.role = .other) :
    (c.spawn g).activeRoles = c.activeRoles := by
  simp [Client.activeRoles, other]

theorem filter_set_split {α : Type} {l : List α} {i : Nat} {a : α} (h : l[i]? = some a)
    (b : α) (p : α → Bool) : ∃ pre suf,
      l.filter p = pre ++ [a].filter p ++ suf ∧ (l.set i b).filter p = pre ++ [b].filter p ++ suf := by
  obtain ⟨before, after⟩ := set_split h b
  refine ⟨(l.take i).filter p, (l.drop (i + 1)).filter p, ?_, ?_⟩
  · nth_rewrite 1 [before]
    rw [← List.singleton_append, List.filter_append, List.filter_append, List.append_assoc]
  · rw [after, ← List.singleton_append, List.filter_append, List.filter_append, List.append_assoc]

/-- Replacing fiber `i` splits the active roles around it. -/
theorem Client.activeRoles_setFiber {c : Client} {i : Nat} {f : Fiber}
    (h : c.fibers[i]? = some f) (g : Fiber) : ∃ pre suf,
      c.activeRoles = pre ++ [f.role].filter (· != .other) ++ suf ∧
      (c.setFiber i g).activeRoles = pre ++ [g.role].filter (· != .other) ++ suf := by
  simpa only [Client.activeRoles, Client.roles_setFiber] using
    filter_set_split (Client.roles_getElem? h) g.role (· != .other)

theorem Client.role_mem_activeRoles {c : Client} {i : Nat} {f : Fiber} (h : c.fibers[i]? = some f)
    (active : f.role ≠ .other) : f.role ∈ c.activeRoles := by
  simp only [Client.activeRoles, Client.roles, List.mem_filter, List.mem_map, bne_iff_ne, ne_eq]
  exact ⟨⟨f, List.getElem?_mem h, rfl⟩, active⟩

theorem Client.activeRoles_filter_ne_nil {c : Client} {i : Nat} {f : Fiber}
    (h : c.fibers[i]? = some f) (active : f.role ≠ .other) {p : Role → Bool}
    (holds : p f.role = true) : c.activeRoles.filter p ≠ [] :=
  List.ne_nil_of_mem (List.mem_filter.mpr ⟨Client.role_mem_activeRoles h active, holds⟩)

theorem Client.activeRoles_setFiber_filter {c : Client} {i : Nat} {f : Fiber}
    (h : c.fibers[i]? = some f) (g : Fiber) {p : Role → Bool} (pf : p f.role = false)
    (pg : p g.role = false) : (c.setFiber i g).activeRoles.filter p = c.activeRoles.filter p := by
  obtain ⟨pre, suf, before, after⟩ := Client.activeRoles_setFiber h g
  simp only [before, after, List.filter_append, List.filter_cons, List.filter_nil]
  split <;> split <;> simp [pf, pg]

theorem Client.activeRoles_setFiber_filterMap {α : Type} {c : Client} {i : Nat} {f : Fiber}
    (h : c.fibers[i]? = some f) (g : Fiber) {p : Role → Option α} (pf : p f.role = none)
    (pg : p g.role = none) :
    (c.setFiber i g).activeRoles.filterMap p = c.activeRoles.filterMap p := by
  obtain ⟨pre, suf, before, after⟩ := Client.activeRoles_setFiber h g
  simp only [before, after, List.filterMap_append, List.filter_cons, List.filter_nil]
  split <;> split <;> simp [pf, pg]

/-- Replacing fiber `i` changes the count of any kind of role by the difference between
the old role and the new. -/
theorem Client.activeRoles_setFiber_length {c : Client} {i : Nat} {f : Fiber}
    (h : c.fibers[i]? = some f) (g : Fiber) (p : Role → Bool) :
    ((c.setFiber i g).activeRoles.filter p).length + (([f.role].filter (· != .other)).filter p).length =
      (c.activeRoles.filter p).length + (([g.role].filter (· != .other)).filter p).length := by
  obtain ⟨pre, suf, before, after⟩ := Client.activeRoles_setFiber h g
  simp only [before, after, List.filter_append, List.length_append]; omega

/-- The invariant reads only the active roles, the connection flags, the lock and the two
logs. -/
theorem Client.EmitterInvariant.frame {c c' : Client} (inv : c.EmitterInvariant)
    (roles : c'.activeRoles = c.activeRoles)
    (idle : c'.disconnected = true ∨ c'.haveConnectedOnce = false →
      c.disconnected = true ∨ c.haveConnectedOnce = false)
    (locked : c'.locked = c.locked) (enqueued : c'.enqueued = c.enqueued)
    (writes : c'.writes = c.writes) : c'.EmitterInvariant := by
  obtain ⟨single, idle', lock, grace, closes, order⟩ := inv
  rw [← roles] at single idle' grace closes
  rw [← roles, ← locked] at lock
  rw [← roles, ← enqueued, ← writes] at order
  exact ⟨single, idle' ∘ idle, lock, grace, closes, order⟩

/-- Replacing a fiber by one of the same role. -/
theorem Client.EmitterInvariant.setFiber {c : Client} {i : Nat} {f : Fiber} (g : Fiber)
    (inv : c.EmitterInvariant) (h : c.fibers[i]? = some f) (same : g.role = f.role) :
    (c.setFiber i g).EmitterInvariant :=
  inv.frame (Client.activeRoles_setFiber_same h same) id rfl rfl rfl

theorem Client.EmitterInvariant.initial (endpoint : String) :
    (Client.initial endpoint).EmitterInvariant := by
  constructor <;> simp [Client.activeRoles, Client.roles, Client.initial]

theorem length_filterMap_inFlight_le (l : List Role) :
    (l.filterMap Role.inFlight).length ≤ (l.filter Role.isEmitter).length := by
  induction l with
  | nil => rfl
  | cons r l ih =>
    rcases r with (_ | _) | _ | _ | _ <;>
      simp [List.filterMap_cons, List.filter_cons, Role.inFlight, Role.isEmitter] <;> omega

theorem filterMap_inFlight_eq_nil {l : List Role} (h : l.filter Role.isEmitter = []) :
    l.filterMap Role.inFlight = [] := by
  simpa [h] using length_filterMap_inFlight_le l

/-- With at most one emitter, the fiber of an emitter is the only one: replacing it by
`g` leaves `g`'s role the only emitter role and `g`'s packet the only one in flight. -/
theorem Client.EmitterInvariant.sole {c : Client} {i : Nat} {f : Fiber} {w : Option ClientPacket}
    (inv : c.EmitterInvariant) (h : c.fibers[i]? = some f) (emitter : f.role = .emitter w)
    (g : Fiber) :
    (c.setFiber i g).activeRoles.filter Role.isEmitter = [g.role].filter Role.isEmitter ∧
      (c.setFiber i g).activeRoles.filterMap Role.inFlight = g.role.inFlight.toList := by
  obtain ⟨pre, suf, before, after⟩ := Client.activeRoles_setFiber h g
  have single := inv.single
  simp only [before, emitter, List.filter_append, List.length_append] at single
  have around : pre.filter Role.isEmitter = [] ∧ suf.filter Role.isEmitter = [] := by
    simp only [← List.length_eq_zero]; simp [Role.isEmitter] at single; omega
  have quiet := And.intro (filterMap_inFlight_eq_nil around.1) (filterMap_inFlight_eq_nil around.2)
  rw [after]
  rcases r : g.role with (_ | _) | _ | _ | _ <;>
    simp [List.filter_append, List.filterMap_append, List.filterMap_cons, r, around, quiet,
      Role.isEmitter, Role.inFlight]

/-- An emitter in the fiber list means a live connection and no grace period. -/
theorem Client.EmitterInvariant.connected {c : Client} {i : Nat} {f : Fiber} {w : Option ClientPacket}
    (inv : c.EmitterInvariant) (h : c.fibers[i]? = some f) (emitter : f.role = .emitter w) :
    c.disconnected = false ∧ c.haveConnectedOnce = true ∧ c.activeRoles.filter Role.isGrace = [] := by
  have present := Client.activeRoles_filter_ne_nil h (by simp [emitter]) (p := Role.isEmitter)
    (by rw [emitter]; rfl)
  obtain ⟨live, once⟩ : c.disconnected = false ∧ c.haveConnectedOnce = true := by
    simpa using mt inv.idle present
  exact ⟨live, once, not_not.mp (mt inv.grace present)⟩

theorem Fiber.sent_role {f : Fiber} {q : ClientPacket} (out : f.outgoing = some q) :
    f.role = .closing q ∧ f.sent.role = .grace ∨ f.role = .other ∧ f.sent.role = .other := by
  unfold Fiber.outgoing at out
  split at out <;> cases out <;> simp [Fiber.role, Fiber.sent]

/-- A packet taken from a fiber blocked on `emitChan`: a `Disconnect` goes on to its grace
period, any other sender plays no further part. -/
theorem Client.EmitterInvariant.sent {c : Client} {j : Nat} {f : Fiber} {q : ClientPacket}
    (inv : c.EmitterInvariant) (h : c.fibers[j]? = some f) (out : f.outgoing = some q)
    (stopped : q.stopsEmitter → c.activeRoles.filter Role.isEmitter = []) :
    (c.setFiber j f.sent).EmitterInvariant := by
  rcases Fiber.sent_role out with ⟨closing, grace⟩ | ⟨other, other'⟩
  case inr =>
    exact inv.setFiber f.sent h (other'.trans other.symm)
  have stops : q.stopsEmitter = true := by
    by_contra stray
    exact Client.activeRoles_filter_ne_nil h (by simp [closing]) (p := Role.stray)
      (by simpa [closing, Role.stray] using stray) inv.closes
  have emitters := Client.activeRoles_setFiber_filter h f.sent (p := Role.isEmitter)
    (by rw [closing]; rfl) (by rw [grace]; rfl)
  have strays := Client.activeRoles_setFiber_filter h f.sent (p := Role.stray)
    (by simp [closing, Role.stray, stops]) (by rw [grace]; rfl)
  have inFlight := Client.activeRoles_setFiber_filterMap h f.sent (p := Role.inFlight)
    (by rw [closing]; rfl) (by rw [grace]; rfl)
  have locks := Client.activeRoles_setFiber_length h f.sent Role.holdsLock
  simp only [closing, grace] at locks
  have none := stopped stops
  constructor
  · simp [emitters, none]
  · intro _; rw [emitters, none]
  · refine (?_ : _ = (c.activeRoles.filter Role.holdsLock).length).trans inv.lock
    simpa [Role.holdsLock] using locks
  · intro _; rw [emitters, none]
  · rw [strays]; exact inv.closes
  · rw [inFlight]; exact inv.order

/-- An emitter's own step to `g`, an emitter again or a fiber with no part, the flags and
the lock unchanged and the logs advanced as `g`'s packet in flight says. -/
theorem Client.EmitterInvariant.emitterStep {c c' : Client} {i : Nat} {f g : Fiber}
    {w : Option ClientPacket} (inv : c.EmitterInvariant) (h : c.fibers[i]? = some f)
    (emitter : f.role = .emitter w)
    (plain : g.role.holdsLock = false ∧ g.role.isGrace = false ∧ g.role.stray = false)
    (roles : c'.activeRoles = (c.setFiber i g).activeRoles)
    (disconnected : c'.disconnected = c.disconnected)
    (connected : c'.haveConnectedOnce = c.haveConnectedOnce) (locked : c'.locked = c.locked)
    (logs : c.enqueued.filter (fun q => !q.stopsEmitter) = c.writes.map (·.2.1) ++ w.toList →
      c'.enqueued.filter (fun q => !q.stopsEmitter) =
        c'.writes.map (·.2.1) ++ g.role.inFlight.toList) :
    c'.EmitterInvariant := by
  obtain ⟨live, once, noGrace⟩ := inv.connected h emitter
  obtain ⟨emitters, inFlight⟩ := inv.sole h emitter g
  have before := (inv.sole h emitter f).2
  rw [Client.activeRoles_setFiber_same h rfl, emitter] at before
  have keeps {p : Role → Bool} (pw : p (.emitter w) = false) (pg : p g.role = false) :
      c'.activeRoles.filter p = c.activeRoles.filter p := by
    rw [roles]; exact Client.activeRoles_setFiber_filter h g (by rw [emitter]; exact pw) pg
  constructor
  · rw [roles, emitters]; exact (List.length_filter_le _ _).trans (by simp)
  · rw [disconnected, connected, live, once]; simp
  · rw [keeps rfl plain.1, locked]; exact inv.lock
  · rw [keeps rfl plain.2.1, noGrace]; simp
  · rw [keeps rfl plain.2.2]; exact inv.closes
  · rw [roles, inFlight]; exact logs (by rw [inv.order, before]; rfl)

/-- An emitter takes a packet from `emitChan`: a stopping packet ends it, any other is in
flight until written. -/
theorem Client.EmitterInvariant.takePacket {c : Client} {i : Nat} (inv : c.EmitterInvariant)
    (waiting : c.fibers[i]? = some (.emitter .waiting)) (q : ClientPacket) :
    (c.takePacket i q).EmitterInvariant ∧
      (q.stopsEmitter → (c.takePacket i q).activeRoles.filter Role.isEmitter = []) := by
  unfold Client.takePacket
  by_cases stop : q.stopsEmitter
  · have stop' : q.data = .nil ∧ (q.op = opcode.shutdown ∨ q.op = opcode.close) := by
      simpa [ClientPacket.stopsEmitter] using stop
    simp only [if_pos stop']
    refine ⟨inv.emitterStep (g := .done) waiting rfl ⟨rfl, rfl, rfl⟩ rfl rfl rfl rfl ?_,
      fun _ => (inv.sole waiting rfl .done).1⟩
    intro old
    simpa [Client.setFiber, List.filter_append, stop, Fiber.role, Role.inFlight] using old
  · have stop' : ¬(q.data = .nil ∧ (q.op = opcode.shutdown ∨ q.op = opcode.close)) := by
      simpa [ClientPacket.stopsEmitter] using stop
    simp only [if_neg stop']
    refine ⟨inv.emitterStep (g := .emitter (.writing q)) waiting rfl ⟨rfl, rfl, rfl⟩ rfl rfl rfl
      rfl ?_, fun stopping => absurd stopping stop⟩
    intro old
    simp [Client.setFiber, List.filter_append, stop, Fiber.role, Role.inFlight, old]

theorem Client.returnFrom_view (c : Client) (i : Nat) (f : Fiber) :
    (c.returnFrom i f).activeRoles = (c.setFiber i .done).activeRoles ∧
      (c.returnFrom i f).disconnected = c.disconnected ∧
      (c.returnFrom i f).haveConnectedOnce = c.haveConnectedOnce ∧
      (c.returnFrom i f).locked = c.locked ∧ (c.returnFrom i f).enqueued = c.enqueued ∧
      (c.returnFrom i f).writes = c.writes := by
  unfold Client.returnFrom
  split
  · exact ⟨by simp [Client.activeRoles, Fiber.role], rfl, rfl, rfl, rfl, rfl⟩
  all_goals exact ⟨rfl, rfl, rfl, rfl, rfl, rfl⟩

/-- A `Disconnect` past its early return takes the free lock and hands over a Close that
stops the emitter. -/
theorem Client.EmitterInvariant.handOver {c c' : Client} {i : Nat} {f g : Fiber} {q : ClientPacket}
    (inv : c.EmitterInvariant) (h : c.fibers[i]? = some f) (other : f.role = .other)
    (closing : g.role = .closing q) (stops : q.stopsEmitter = true) (unlocked : c.locked = false)
    (roles : c'.activeRoles = (c.setFiber i g).activeRoles)
    (disconnected : c'.disconnected = c.disconnected)
    (connected : c'.haveConnectedOnce = c.haveConnectedOnce) (locked : c'.locked = true)
    (enqueued : c'.enqueued = c.enqueued) (writes : c'.writes = c.writes) : c'.EmitterInvariant := by
  have keeps {p : Role → Bool} (po : p .other = false) (pc : p (.closing q) = false) :
      c'.activeRoles.filter p = c.activeRoles.filter p := by
    rw [roles]
    exact Client.activeRoles_setFiber_filter h g (by rw [other]; exact po) (by rw [closing]; exact pc)
  constructor
  · rw [keeps rfl rfl]; exact inv.single
  · rw [disconnected, connected, keeps rfl rfl]; exact inv.idle
  · have locks := Client.activeRoles_setFiber_length h g Role.holdsLock
    have held : (c.activeRoles.filter Role.holdsLock).length = 0 := by rw [inv.lock, unlocked]; rfl
    simp [other, closing, Role.holdsLock] at locks
    rw [roles, locked, if_pos rfl]; omega
  · rw [keeps rfl rfl, keeps rfl rfl]; exact inv.grace
  · rw [keeps rfl (by simp [Role.stray, stops])]; exact inv.closes
  · rw [roles, Client.activeRoles_setFiber_filterMap h g (by rw [other]; rfl) (by rw [closing]; rfl),
      enqueued, writes]
    exact inv.order

/-- A `Disconnect` ends its grace period: it gives up the lock, which it alone held, while no
emitter runs. -/
theorem Client.EmitterInvariant.release {c c' : Client} {i : Nat} {f : Fiber}
    (inv : c.EmitterInvariant) (h : c.fibers[i]? = some f) (grace : f.role = .grace)
    (roles : c'.activeRoles = (c.setFiber i .done).activeRoles) (locked : c'.locked = false)
    (enqueued : c'.enqueued = c.enqueued) (writes : c'.writes = c.writes) : c'.EmitterInvariant := by
  have none : c.activeRoles.filter Role.isEmitter = [] :=
    inv.grace (Client.activeRoles_filter_ne_nil h (by simp [grace]) (by rw [grace]; rfl))
  have keeps {p : Role → Bool} (pg : p .grace = false) (po : p .other = false) :
      c'.activeRoles.filter p = c.activeRoles.filter p := by
    rw [roles]; exact Client.activeRoles_setFiber_filter h .done (by rw [grace]; exact pg) po
  constructor
  · rw [keeps rfl rfl, none]; simp
  · intro _; rw [keeps rfl rfl, none]
  · have locks := Client.activeRoles_setFiber_length h .done Role.holdsLock
    have held : (c.activeRoles.filter Role.holdsLock).length ≤ 1 := by rw [inv.lock]; split <;> omega
    rw [grace] at locks
    simp [Fiber.role, Role.holdsLock] at locks
    rw [roles, locked, if_neg Bool.false_ne_true]; omega
  · intro _; rw [keeps rfl rfl, none]
  · rw [keeps rfl rfl]; exact inv.closes
  · rw [roles, Client.activeRoles_setFiber_filterMap h .done (by rw [grace]; rfl) rfl, enqueued,
      writes]
    exact inv.order

/-- A successful `Connect` starts the one emitter: none ran while the client was
disconnected, and with the lock free no `Disconnect` is in its grace period. -/
theorem Client.EmitterInvariant.start {c c' : Client} (inv : c.EmitterInvariant)
    (disconnected : c.disconnected = true) (unlocked : c.locked = false)
    (fibers : c'.fibers = c.fibers ++ [.receiver .reading, .emitter .waiting])
    (live : c'.disconnected = false) (once : c'.haveConnectedOnce = true)
    (locked : c'.locked = c.locked) (enqueued : c'.enqueued = c.enqueued)
    (writes : c'.writes = c.writes) : c'.EmitterInvariant := by
  have roles : c'.activeRoles = c.activeRoles ++ [.emitter none] := by
    simp [Client.activeRoles, Client.roles, fibers, Fiber.role]
  have none := inv.idle (.inl disconnected)
  have free : c.activeRoles.filter Role.holdsLock = [] := by simpa [unlocked] using inv.lock
  have noGrace : c.activeRoles.filter Role.isGrace = [] := by
    rw [List.filter_eq_nil_iff] at free ⊢
    intro r mem
    have := free r mem
    cases r <;> simp_all [Role.holdsLock, Role.isGrace]
  constructor
  · simp [roles, none, Role.isEmitter]
  · simp [live, once]
  · simp [roles, free, locked, unlocked, Role.holdsLock]
  · simp [roles, noGrace, Role.isGrace]
  · simp [roles, inv.closes, Role.stray]
  · simp [roles, enqueued, writes, inv.order, Role.inFlight]

theorem Client.EmitterInvariant.connect {c : Client} (inv : c.EmitterInvariant)
    (unlocked : c.locked = false) (discovery : Option String) (opened : Bool) :
    (c.connect discovery opened).1.EmitterInvariant := by
  unfold Client.connect
  split
  · exact inv
  next disconnected =>
  split
  · exact inv
  split
  · exact inv.frame rfl id rfl rfl rfl
  · exact inv.start (by simpa using disconnected) unlocked rfl rfl rfl rfl rfl rfl

theorem Client.connect_getElem? {c : Client} {i : Nat} {f : Fiber} (h : c.fibers[i]? = some f)
    (discovery : Option String) (opened : Bool) : (c.connect discovery opened).1.fibers[i]? = some f := by
  unfold Client.connect
  split
  · exact h
  split
  · exact h
  split
  · exact h
  · dsimp only
    rw [List.getElem?_append_left (List.getElem?_eq_some_iff.mp h).1]; exact h

theorem Client.EmitterInvariant.perform {c : Client} (inv : c.EmitterInvariant) (admitted : Bool)
    (e : Effect) (rest : List Effect) : (c.perform admitted e rest).EmitterInvariant := by
  cases e with
  | emit command data => simp only [Client.perform]; split <;> exact inv.frame rfl id rfl rfl rfl
  | dispatch e => exact inv.frame rfl id rfl rfl rfl
  | _ => exact inv.frame (c.activeRoles_spawn_other rfl) id rfl rfl rfl

theorem Client.emit_close {c : Client} (connected : c.haveConnectedOnce = true) :
    c.emit event.close .nil true = some ⟨opcode.close, .nil⟩ := by
  unfold Client.emit; rw [connected]; rfl

/-- `Disconnect` with the transport connected and the Close admitted: it returns early
before any connection, else takes the lock and hands over a Close that stops the emitter. -/
theorem Client.EmitterInvariant.closeStep {c c' : Client} {i : Nat} {f0 f : Fiber}
    {handing : ClientPacket → Fiber} {grace : Fiber} (inv : c.EmitterInvariant)
    (h : c.fibers[i]? = some f0) (start : f0.role = .other)
    (step : c.closeStep i f false true handing grace = some c')
    (hands : ∀ q, (handing q).role = .closing q) : c'.EmitterInvariant := by
  unfold Client.closeStep at step
  split_ifs at step with locked early
  · cases step
    have never : c.haveConnectedOnce = false := by simpa using early
    obtain ⟨roles, -, connected, locked', enqueued, writes⟩ :=
      Client.returnFrom_view { c with disconnected := true } i f
    exact inv.frame (roles.trans (Client.activeRoles_setFiber_same h start.symm))
      (fun _ => .inr never) locked' enqueued writes
  · have connected : c.haveConnectedOnce = true := by simpa using early
    dsimp only at step
    rw [Client.emit_close (c := { c with locked := true }) connected] at step
    cases step
    exact inv.handOver h start (hands ⟨opcode.close, .nil⟩) (by decide) (by simpa using locked)
      rfl rfl rfl rfl rfl rfl

/-- One action keeps the invariant, provided a `Disconnect` past its early return hands
over its Close. -/
theorem Client.EmitterInvariant.act {c c' : Client} {a : Action} (inv : c.EmitterInvariant)
    (hands : a.HandsOverClose) (h : c.act setup a = some c') : c'.EmitterInvariant := by
  cases a with
  | connect discovery opened =>
    obtain ⟨unlocked, rfl⟩ := Client.act_connect_cases setup h
    exact inv.connect unlocked discovery opened
  | disconnect shut =>
    cases h
    exact inv.frame (c.activeRoles_spawn_other rfl) id rfl rfl rfl
  | send command data admitted =>
    rcases Client.act_send_cases setup h with ⟨q, -, rfl⟩ | ⟨-, rfl⟩
    · exact inv.frame (c.activeRoles_spawn_other rfl) id rfl rfl rfl
    · exact inv
  | registration call => cases h; exact inv.frame rfl id rfl rfl rfl
  | consume =>
    obtain ⟨_, _, -, rfl⟩ := Client.act_consume_cases setup h
    exact inv.frame rfl id rfl rfl rfl
  | read i frame =>
    obtain ⟨reading, ⟨-, rfl⟩ | ⟨-, -, rfl⟩ | ⟨p, -, -, rfl⟩⟩ := Client.act_read_cases setup h
    · exact inv.setFiber .done reading rfl
    · exact inv
    · exact (inv.setFiber (.receiver (.pushing _ p)) reading rfl).frame rfl id rfl rfl rfl
  | poll i =>
    obtain ⟨polling, rfl⟩ := Client.act_poll_cases setup h
    exact inv.setFiber _ polling (by split <;> rfl)
  | receive i =>
    obtain ⟨_, _, -, pushing, rfl⟩ := Client.act_receive_cases setup h
    exact (inv.setFiber (.receiver .polling) pushing rfl).frame rfl id rfl rfl rfl
  | handle now =>
    obtain ⟨_, _, -, -, rfl⟩ := Client.act_handle_cases setup h
    exact inv.frame rfl id rfl rfl rfl
  | perform admitted =>
    obtain ⟨effect, rest, -, rfl⟩ := Client.act_perform_cases setup h
    exact inv.perform admitted effect rest
  | takeFromHandler i =>
    obtain ⟨q, -, waiting, -, rfl⟩ := Client.act_takeFromHandler_cases setup h
    exact (inv.takePacket waiting q).1.frame rfl id rfl rfl rfl
  | take i j =>
    obtain ⟨f, q, waiting, sender, outgoing, ne, rfl⟩ := Client.act_take_cases setup h
    obtain ⟨taken, stopped⟩ := inv.takePacket waiting q
    exact taken.sent ((c.takePacket_getElem? ne q).trans sender) outgoing stopped
  | write i ok =>
    obtain ⟨q, writing, rfl⟩ := Client.act_write_cases setup h
    exact inv.emitterStep (g := .emitter .waiting) writing rfl ⟨rfl, rfl, rfl⟩ rfl rfl rfl rfl
      fun old => by simpa [Fiber.role, Role.inFlight] using old
  | quit i =>
    obtain ⟨-, ⟨waiting, rfl⟩ | ⟨_, sleeping, rfl⟩ | ⟨_, backingOff, rfl⟩⟩ :=
      Client.act_quit_cases setup h
    · exact inv.emitterStep (g := .done) waiting rfl ⟨rfl, rfl, rfl⟩ rfl rfl rfl rfl
        fun old => by simpa [Fiber.role, Role.inFlight] using old
    · exact (inv.setFiber .done sleeping rfl).frame rfl id rfl rfl rfl
    · exact inv.setFiber .done backingOff rfl
  | handlerQuit =>
    obtain ⟨-, -, rfl⟩ := Client.act_handlerQuit_cases setup h
    exact inv.frame rfl id rfl rfl rfl
  | draw i ident =>
    obtain ⟨starting, -, -, rfl⟩ := Client.act_draw_cases setup h
    exact (inv.setFiber _ starting (by split <;> rfl)).frame rfl id rfl rfl rfl
  | pulse i admitted now =>
    obtain ⟨_, ticking, -, ⟨-, rfl⟩ | ⟨-, rfl⟩⟩ | ⟨_, beating, -, ⟨_, -, rfl⟩ | ⟨-, rfl⟩⟩ |
        ⟨_, _, arming, rfl⟩ | ⟨_, sleeping, rfl⟩ := Client.act_pulse_cases setup h
    · exact inv.frame rfl id rfl rfl rfl
    · exact inv.setFiber _ ticking rfl
    · exact inv.setFiber (.pulsator (.emitting _ _ _)) beating rfl
    · exact inv.setFiber (.pulsator (.arming _ _)) beating rfl
    · exact (inv.setFiber (.pulsator (.sleeping _)) arming rfl).frame
        (Client.activeRoles_spawn_other _ rfl) id rfl rfl rfl
    · exact inv.setFiber _ sleeping rfl
  | restart i j =>
    obtain ⟨_, sleeping, restarting, ne, rfl⟩ := Client.act_restart_cases setup h
    have done := inv.setFiber .done sleeping rfl
    exact (done.setFiber (f := .reconnector .restarting) (.reconnector (.disconnecting .start))
      (by simpa [Client.setFiber, List.getElem?_set_ne ne] using restarting) rfl).frame rfl id rfl rfl rfl
  | expire i cancelled =>
    obtain ⟨_, _, watching, ⟨-, rfl⟩ | ⟨-, -, -, rfl⟩ | ⟨-, -, -, rfl⟩⟩ :=
      Client.act_expire_cases setup h
    · exact inv.setFiber .done watching rfl
    · exact inv.setFiber (.measuring _) watching rfl
    · exact inv.setFiber (.reconnector .locking) watching rfl
  | measure i =>
    obtain ⟨_, measuring, rfl⟩ := Client.act_measure_cases setup h
    exact (inv.setFiber .done measuring rfl).frame rfl id rfl rfl rfl
  | wake i admitted =>
    obtain ⟨sleeping, ⟨_, -, rfl⟩ | ⟨-, rfl⟩⟩ := Client.act_wake_cases setup h
    · exact inv.setFiber (.identifier (some _)) sleeping rfl
    · exact inv.setFiber .done sleeping rfl
  | lock i now =>
    obtain ⟨locking, rfl⟩ := Client.act_lock_cases setup h
    exact (inv.setFiber _ locking (by split <;> rfl)).frame rfl id rfl rfl rfl
  | close i reportsDisconnected admitted =>
    obtain ⟨rfl, rfl⟩ := hands
    rcases Client.act_close_cases setup h with ⟨start, step⟩ | ⟨_, start, step⟩
    · exact inv.closeStep start rfl step fun _ => rfl
    · exact inv.closeStep start rfl step fun _ => rfl
  | release i =>
    obtain ⟨f, grace, role, rfl⟩ := Client.act_release_cases setup h
    obtain ⟨roles, -, -, locked, enqueued, writes⟩ :=
      Client.returnFrom_view { c with disconnected := true, locked := false } i f
    exact inv.release grace (by rcases role with rfl | ⟨_, rfl⟩ <;> rfl) roles locked enqueued writes
  | attempt i discovery opened =>
    obtain ⟨_, connecting, unlocked, rfl⟩ := Client.act_attempt_cases setup h
    exact (inv.connect unlocked discovery opened).setFiber _
      (Client.connect_getElem? connecting discovery opened) (by split <;> rfl)
  | backoff i =>
    obtain ⟨_, backingOff, rfl⟩ := Client.act_backoff_cases setup h
    exact inv.setFiber _ backingOff rfl

end Disgord
