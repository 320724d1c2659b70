import Disgord.Projection

/-! The heartbeat watchdog. A beat of `pulsate` snapshots `lastHeartbeatAck` as `last`,
emits a Heartbeat, reads `sent`, and leaves a watchdog that calls `reconnect` unless
`lastHeartbeatAck` is after `last`, and otherwise stores `lastHeartbeatAck − sent`. Only a
handled HeartbeatAck moves `lastHeartbeatAck`, and nothing orders it after `sent`. -/
namespace Disgord

variable (setup : Setup)

/-- The `lastHeartbeatAck` a beat read as `last`: the pulsator holds it from the snapshot
until it starts the watchdog, and the watchdog holds it afterwards. -/
def Fiber.snapshot? : Fiber → Option Nat
  | .pulsator (.emitting _ last _) | .pulsator (.arming _ last) | .watchdog last _ => some last
  | _ => none

def Client.snapshots (c : Client) : List Nat := c.fibers.filterMap Fiber.snapshot?

/-- A step keeps the snapshots it finds and adds only the current `lastHeartbeatAck`. -/
def Client.SnapshotsFrom (c c' : Client) : Prop :=
  ∀ x ∈ c'.snapshots, x ∈ c.snapshots ∨ x = c.session.lastHeartbeatAck

theorem Client.SnapshotsFrom.refl (c : Client) : c.SnapshotsFrom c := fun _ mem => .inl mem

theorem Client.SnapshotsFrom.trans {c c₁ c₂ : Client} (first : c.SnapshotsFrom c₁)
    (second : c₁.SnapshotsFrom c₂)
    (session : c₁.session.lastHeartbeatAck = c.session.lastHeartbeatAck) :
    c.SnapshotsFrom c₂ := by
  intro x mem
  rcases second x mem with old | fresh
  · exact first x old
  · exact .inr (fresh.trans session)

theorem Client.SnapshotsFrom.setFiber {c : Client} (i : Nat) {g : Fiber}
    (keeps : ∀ x, g.snapshot? = some x → x ∈ c.snapshots ∨ x = c.session.lastHeartbeatAck) :
    c.SnapshotsFrom (c.setFiber i g) := by
  intro x mem
  obtain ⟨f, member, snap⟩ := List.mem_filterMap.mp mem
  rcases List.mem_or_eq_of_mem_set member with old | rfl
  · exact .inl (List.mem_filterMap.mpr ⟨f, old, snap⟩)
  · exact keeps x snap

theorem Client.SnapshotsFrom.spawn (c : Client) {g : Fiber}
    (keeps : ∀ x, g.snapshot? = some x → x ∈ c.snapshots ∨ x = c.session.lastHeartbeatAck) :
    c.SnapshotsFrom (c.spawn g) := by
  intro x mem
  obtain ⟨f, member, snap⟩ := List.mem_filterMap.mp mem
  rcases List.mem_append.mp member with old | new
  · exact .inl (List.mem_filterMap.mpr ⟨f, old, snap⟩)
  · rw [List.mem_singleton.mp new] at snap
    exact keeps x snap

/-- A fiber that holds no snapshot. -/
theorem Client.SnapshotsFrom.quiet {c : Client} {g : Fiber} (quiet : g.snapshot? = none) :
    ∀ x, g.snapshot? = some x → x ∈ c.snapshots ∨ x = c.session.lastHeartbeatAck := by
  intro x snap
  rw [quiet] at snap
  cases snap

/-- A fiber that keeps the snapshot of fiber `i`. -/
theorem Client.SnapshotsFrom.same {c : Client} {i : Nat} {f g : Fiber} (h : c.fibers[i]? = some f)
    (same : g.snapshot? = f.snapshot?) :
    ∀ x, g.snapshot? = some x → x ∈ c.snapshots ∨ x = c.session.lastHeartbeatAck := by
  intro x snap
  rw [same] at snap
  exact .inl (List.mem_filterMap.mpr ⟨f, List.getElem?_mem h, snap⟩)

theorem Client.SnapshotsFrom.connect (c : Client) (discovery : Option String) (opened : Bool) :
    c.SnapshotsFrom (c.connect discovery opened).1 := by
  unfold Client.connect
  split
  · exact .refl c
  split
  · exact .refl c
  split
  · exact .refl c
  · intro x mem
    obtain ⟨f, member, snap⟩ := List.mem_filterMap.mp mem
    rcases List.mem_append.mp member with old | new
    · exact .inl (List.mem_filterMap.mpr ⟨f, old, snap⟩)
    · simp only [List.mem_cons, List.mem_singleton, List.not_mem_nil, or_false] at new
      rcases new with rfl | rfl <;> cases snap

theorem Client.SnapshotsFrom.returnFrom (c : Client) (i : Nat) (f : Fiber) :
    c.SnapshotsFrom (c.returnFrom i f) := by
  unfold Client.returnFrom
  split
  all_goals exact Client.SnapshotsFrom.setFiber i (Client.SnapshotsFrom.quiet rfl)

theorem Client.SnapshotsFrom.takePacket (c : Client) (i : Nat) (q : ClientPacket) :
    c.SnapshotsFrom (c.takePacket i q) := by
  unfold Client.takePacket
  split_ifs
  all_goals exact Client.SnapshotsFrom.setFiber i (Client.SnapshotsFrom.quiet rfl)

theorem Client.SnapshotsFrom.perform (c : Client) (admitted : Bool) (e : Effect) (rest : List Effect) :
    c.SnapshotsFrom (c.perform admitted e rest) := by
  cases e with
  | emit command data => simp only [Client.perform]; split <;> exact .refl c
  | dispatch e => exact .refl c
  | _ => exact Client.SnapshotsFrom.spawn c (Client.SnapshotsFrom.quiet rfl)

theorem Client.SnapshotsFrom.closeStep {c c' : Client} {i : Nat} {f : Fiber}
    {reportsDisconnected admitted : Bool} {handing : ClientPacket → Fiber} {grace : Fiber}
    (h : c.closeStep i f reportsDisconnected admitted handing grace = some c')
    (quiet : ∀ q, (handing q).snapshot? = none) (graceQuiet : grace.snapshot? = none) :
    c.SnapshotsFrom c' := by
  unfold Client.closeStep at h
  split_ifs at h
  · cases h; exact Client.SnapshotsFrom.returnFrom _ i f
  · dsimp only at h
    split at h <;> cases h
    · exact Client.SnapshotsFrom.setFiber i (Client.SnapshotsFrom.quiet (quiet _))
    · exact Client.SnapshotsFrom.setFiber i (Client.SnapshotsFrom.quiet graceQuiet)

/-- A fiber hands its snapshot to a fiber it starts, as a beat hands `last` to its
watchdog. -/
theorem Client.SnapshotsFrom.handOff {c : Client} {i : Nat} {f g w : Fiber}
    (h : c.fibers[i]? = some f) (quiet : g.snapshot? = none) (same : w.snapshot? = f.snapshot?) :
    c.SnapshotsFrom ((c.setFiber i g).spawn w) := by
  intro x mem
  obtain ⟨f', member, snap⟩ := List.mem_filterMap.mp mem
  rcases List.mem_append.mp member with old | new
  · exact Client.SnapshotsFrom.setFiber i (Client.SnapshotsFrom.quiet quiet) x
      (List.mem_filterMap.mpr ⟨f', old, snap⟩)
  · rw [List.mem_singleton.mp new] at snap
    exact Client.SnapshotsFrom.same h same x snap

theorem Fiber.sent_snapshot {f : Fiber} {q : ClientPacket} (out : f.outgoing = some q) :
    f.sent.snapshot? = f.snapshot? := by
  unfold Fiber.outgoing at out
  split at out <;> cases out <;> rfl

/-- Only a beat reads `lastHeartbeatAck` into a fiber; every other step keeps or drops the
snapshots it finds. -/
theorem Client.snapshotsFrom_act {c c' : Client} {a : Action} (h : c.act setup a = some c') :
    c.SnapshotsFrom c' := by
  have quiet {i : Nat} (g : Fiber) (none : g.snapshot? = none) : c.SnapshotsFrom (c.setFiber i g) :=
    Client.SnapshotsFrom.setFiber i (Client.SnapshotsFrom.quiet none)
  cases a with
  | connect discovery opened =>
    obtain ⟨-, rfl⟩ := Client.act_connect_cases setup h
    exact .connect c discovery opened
  | disconnect shut => cases h; exact .spawn c (Client.SnapshotsFrom.quiet rfl)
  | send command data admitted =>
    rcases Client.act_send_cases setup h with ⟨q, -, rfl⟩ | ⟨-, rfl⟩
    · exact .spawn c (Client.SnapshotsFrom.quiet rfl)
    · exact .refl _
  | registration call => cases h; exact .refl c
  | consume =>
    obtain ⟨_, _, -, rfl⟩ := Client.act_consume_cases setup h
    exact .refl c
  | read i frame =>
    obtain ⟨-, ⟨-, rfl⟩ | ⟨-, -, rfl⟩ | ⟨p, -, -, rfl⟩⟩ := Client.act_read_cases setup h
    · exact quiet .done rfl
    · exact .refl _
    · exact quiet (.receiver (.pushing _ p)) rfl
  | poll i =>
    obtain ⟨-, rfl⟩ := Client.act_poll_cases setup h
    exact quiet _ (by split <;> rfl)
  | receive i =>
    obtain ⟨_, _, -, -, rfl⟩ := Client.act_receive_cases setup h
    exact quiet (.receiver .polling) rfl
  | handle now =>
    obtain ⟨_, _, -, -, rfl⟩ := Client.act_handle_cases setup h
    exact .refl c
  | perform admitted =>
    obtain ⟨effect, rest, -, rfl⟩ := Client.act_perform_cases setup h
    exact .perform c admitted effect rest
  | takeFromHandler i =>
    obtain ⟨q, _, -, -, rfl⟩ := Client.act_takeFromHandler_cases setup h
    exact .takePacket c i q
  | take i j =>
    obtain ⟨f, q, -, sender, outgoing, ne, rfl⟩ := Client.act_take_cases setup h
    refine (Client.SnapshotsFrom.takePacket c i q).trans
      (.setFiber j (Client.SnapshotsFrom.same ((c.takePacket_getElem? ne q).trans sender)
        (Fiber.sent_snapshot outgoing))) ?_
    unfold Client.takePacket; split_ifs <;> rfl
  | write i ok =>
    obtain ⟨-, -, rfl⟩ := Client.act_write_cases setup h
    exact quiet (.emitter .waiting) rfl
  | quit i =>
    obtain ⟨-, ⟨-, rfl⟩ | ⟨_, -, rfl⟩ | ⟨_, -, rfl⟩⟩ := Client.act_quit_cases setup h
    all_goals exact quiet .done rfl
  | handlerQuit =>
    obtain ⟨-, -, rfl⟩ := Client.act_handlerQuit_cases setup h
    exact .refl c
  | draw i ident =>
    obtain ⟨-, -, -, rfl⟩ := Client.act_draw_cases setup h
    exact quiet _ (by split <;> rfl)
  | pulse i admitted now =>
    obtain ⟨_, -, -, ⟨-, rfl⟩ | ⟨-, rfl⟩⟩ | ⟨_, -, -, ⟨_, -, rfl⟩ | ⟨-, rfl⟩⟩ |
        ⟨_, _, arming, rfl⟩ | ⟨_, -, rfl⟩ := Client.act_pulse_cases setup h
    · exact .refl c
    · exact quiet (.pulsator (.beating _)) rfl
    · exact .setFiber i fun _ snap => .inr (Option.some.inj snap).symm
    · exact .setFiber i fun _ snap => .inr (Option.some.inj snap).symm
    · exact .handOff arming rfl rfl
    · exact quiet (.pulsator (.beating _)) rfl
  | restart i j =>
    obtain ⟨_, -, -, -, rfl⟩ := Client.act_restart_cases setup h
    exact (quiet .done rfl).trans (.setFiber j (Client.SnapshotsFrom.quiet rfl)) rfl
  | expire i cancelled =>
    obtain ⟨_, _, -, ⟨-, rfl⟩ | ⟨-, -, -, rfl⟩ | ⟨-, -, -, rfl⟩⟩ := Client.act_expire_cases setup h
    · exact quiet .done rfl
    · exact quiet (.measuring _) rfl
    · exact quiet (.reconnector .locking) rfl
  | measure i =>
    obtain ⟨_, -, rfl⟩ := Client.act_measure_cases setup h
    exact quiet .done rfl
  | wake i admitted =>
    obtain ⟨-, ⟨q, -, rfl⟩ | ⟨-, rfl⟩⟩ := Client.act_wake_cases setup h
    · exact quiet (.identifier (some q)) rfl
    · exact quiet .done rfl
  | lock i now =>
    obtain ⟨-, rfl⟩ := Client.act_lock_cases setup h
    exact quiet _ (by split <;> rfl)
  | close i reportsDisconnected admitted =>
    rcases Client.act_close_cases setup h with ⟨-, step⟩ | ⟨_, -, step⟩
    · exact .closeStep step (fun _ => rfl) rfl
    · exact .closeStep step (fun _ => rfl) rfl
  | release i =>
    obtain ⟨f, -, -, rfl⟩ := Client.act_release_cases setup h
    exact .returnFrom _ i f
  | attempt i discovery opened =>
    obtain ⟨_, -, -, rfl⟩ := Client.act_attempt_cases setup h
    exact (Client.SnapshotsFrom.connect c discovery opened).trans
      (.setFiber i (Client.SnapshotsFrom.quiet (by split <;> rfl)))
      (by unfold Client.connect; split <;> (try split) <;> (try split) <;> rfl)
  | backoff i =>
    obtain ⟨_, -, rfl⟩ := Client.act_backoff_cases setup h
    exact quiet (.reconnector (.connecting _)) rfl

/-- Every snapshot is the `lastHeartbeatAck` that a prefix of the handled inputs left. -/
def Client.AckHistory (c : Client) : Prop :=
  ∃ xs, c.ProjectsWith setup xs ∧ ∀ x ∈ c.snapshots, ∃ k ≤ xs.length,
    x = (Disgord.run setup Session.initial (xs.take k)).lastHeartbeatAck

theorem Client.AckHistory.act {c c' : Client} {a : Action} (history : c.AckHistory setup)
    (h : c.act setup a = some c') : c'.AckHistory setup := by
  obtain ⟨xs, projects, taken⟩ := history
  obtain ⟨ys, projects'⟩ := Client.ProjectsWith.act setup projects h
  refine ⟨xs ++ ys, projects', fun x mem => ?_⟩
  rcases Client.snapshotsFrom_act setup h x mem with old | fresh
  · obtain ⟨k, bound, snapshot⟩ := taken x old
    refine ⟨k, by simp only [List.length_append]; omega, ?_⟩
    rw [List.take_append_of_le_length bound]; exact snapshot
  · refine ⟨xs.length, by simp, ?_⟩
    rw [List.take_append_of_le_length le_rfl, List.take_length, fresh, projects.1]

/-- `HeartbeatLatency`: the stored latency, with an error while it is 0. -/
def Client.heartbeatLatencyResult (c : Client) : Int × Option String :=
  (c.heartbeatLatency, if c.heartbeatLatency = 0 then some "latency not determined yet" else none)

/-- The clock readings `operationHandlers` and `pulsate` take. -/
def Action.now? : Action → Option Nat
  | .handle now | .pulse _ _ now => some now
  | _ => none

/-- An ack of the client's answer to a heartbeat request is handled at 5, after the beat's
snapshot 0 and before `sent` = 7: `HeartbeatLatency` returns −2 and no error. -/
theorem early_ack_stores_negative_latency :
    let sample : Setup := ⟨⟨"T", "", "", "", 0, 0, 0⟩, "linux", ⟨fun _ => ⟨"s", []⟩, fun _ => ⟨45000⟩⟩⟩
    let beat : List Action :=
      [.connect none true, .read 0 (some (some ⟨opcode.hello, 0, "", []⟩)), .receive 0, .handle 1,
       .poll 0, .perform true, .perform true, .takeFromHandler 1, .write 1 true, .draw 2 5,
       .pulse 2 true 2, .read 0 (some (some ⟨opcode.heartbeat, 0, "", []⟩)), .receive 0,
       .handle 3, .poll 0, .perform true, .takeFromHandler 1, .write 1 true, .pulse 2 true 4,
       .read 0 (some (some ⟨opcode.heartbeatAck, 0, "", []⟩)), .receive 0, .handle 5, .poll 0,
       .take 1 2, .write 1 true, .pulse 2 true 7]
    (beat.filterMap Action.now?).Pairwise (· ≤ ·) ∧
      ((Client.initial "gw").run sample beat).map
        (fun c => (c.fibers[3]?, c.session.lastHeartbeatAck, c.writes.map (·.2.1.op))) =
        some (some (.watchdog 0 7), 5, [opcode.identify, opcode.heartbeat, opcode.heartbeat]) ∧
      ((Client.initial "gw").run sample (beat ++ [.expire 3 false, .measure 3])).map
        (fun c => (c.fibers[3]?, c.heartbeatLatencyResult)) = some (some .done, -2, none) := by
  decide

end Disgord
