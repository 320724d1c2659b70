import Disgord.Emitter

/-! `reconnect` in the client. Over any run `lastRestart` is the last reading at which a
call proceeded, so a call proceeds iff more than half a second, as an int64 difference,
passed since then; and the `try` counter of each retry loop counts its `Connect` calls. -/
namespace Disgord

variable (setup : Setup)

/-- The clock reading of a `reconnect` call taking the restart lock. -/
def Action.restartReading? : Action → Option Int
  | .lock _ now => some now
  | _ => none

theorem Client.connect_lastRestart (c : Client) (discovery : Option String) (opened : Bool) :
    (c.connect discovery opened).1.lastRestart = c.lastRestart := by
  unfold Client.connect; split <;> (try split) <;> (try split) <;> rfl

theorem Client.takePacket_lastRestart (c : Client) (i : Nat) (q : ClientPacket) :
    (c.takePacket i q).lastRestart = c.lastRestart := by
  unfold Client.takePacket; split_ifs <;> rfl

theorem Client.returnFrom_lastRestart (c : Client) (i : Nat) (f : Fiber) :
    (c.returnFrom i f).lastRestart = c.lastRestart := by
  unfold Client.returnFrom; split <;> rfl

theorem Client.closeStep_lastRestart {c c' : Client} {i : Nat} {f : Fiber}
    {reportsDisconnected admitted : Bool} {handing : ClientPacket → Fiber} {grace : Fiber}
    (h : c.closeStep i f reportsDisconnected admitted handing grace = some c') :
    c'.lastRestart = c.lastRestart := by
  unfold Client.closeStep at h
  split_ifs at h
  · cases h; exact Client.returnFrom_lastRestart _ i f
  · dsimp only at h
    split at h <;> cases h <;> rfl

/-- Only a `reconnect` call taking the restart lock writes `lastRestart`, through
`lockRestart`. -/
theorem Client.act_lastRestart {c c' : Client} {a : Action} (h : c.act setup a = some c') :
    c'.lastRestart = a.restartReading?.elim c.lastRestart fun now => (lockRestart c.lastRestart now).2 := by
  cases a with
  | connect discovery opened =>
    obtain ⟨-, rfl⟩ := Client.act_connect_cases setup h
    exact c.connect_lastRestart discovery opened
  | disconnect shut => cases h; rfl
  | send command data admitted =>
    rcases Client.act_send_cases setup h with ⟨_, -, rfl⟩ | ⟨-, rfl⟩ <;> rfl
  | registration call => cases h; rfl
  | consume =>
    obtain ⟨_, _, -, rfl⟩ := Client.act_consume_cases setup h
    rfl
  | read i frame =>
    obtain ⟨-, ⟨-, rfl⟩ | ⟨-, -, rfl⟩ | ⟨_, -, -, rfl⟩⟩ := Client.act_read_cases setup h <;> rfl
  | poll i =>
    obtain ⟨-, rfl⟩ := Client.act_poll_cases setup h
    rfl
  | receive i =>
    obtain ⟨_, _, -, -, rfl⟩ := Client.act_receive_cases setup h
    rfl
  | handle now =>
    obtain ⟨_, _, -, -, rfl⟩ := Client.act_handle_cases setup h
    rfl
  | perform admitted =>
    obtain ⟨effect, rest, -, rfl⟩ := Client.act_perform_cases setup h
    cases effect with
    | emit command data => simp only [Client.perform]; split <;> rfl
    | _ => rfl
  | takeFromHandler i =>
    obtain ⟨q, _, -, -, rfl⟩ := Client.act_takeFromHandler_cases setup h
    exact c.takePacket_lastRestart i q
  | take i j =>
    obtain ⟨_, q, -, -, -, -, rfl⟩ := Client.act_take_cases setup h
    exact c.takePacket_lastRestart i q
  | write i ok =>
    obtain ⟨_, -, rfl⟩ := Client.act_write_cases setup h
    rfl
  | quit i =>
    obtain ⟨-, ⟨-, rfl⟩ | ⟨_, -, rfl⟩ | ⟨_, -, rfl⟩⟩ := Client.act_quit_cases setup h <;> rfl
  | handlerQuit =>
    obtain ⟨-, -, rfl⟩ := Client.act_handlerQuit_cases setup h
    rfl
  | draw i id =>
    obtain ⟨-, -, -, rfl⟩ := Client.act_draw_cases setup h
    rfl
  | pulse i admitted now =>
    obtain ⟨_, -, -, ⟨-, rfl⟩ | ⟨-, rfl⟩⟩ | ⟨_, -, -, ⟨_, -, rfl⟩ | ⟨-, rfl⟩⟩ |
        ⟨_, _, -, rfl⟩ | ⟨_, -, rfl⟩ := Client.act_pulse_cases setup h <;> rfl
  | restart i j =>
    obtain ⟨_, -, -, -, rfl⟩ := Client.act_restart_cases setup h
    rfl
  | expire i cancelled =>
    obtain ⟨_, _, -, ⟨-, rfl⟩ | ⟨-, -, -, rfl⟩ | ⟨-, -, -, rfl⟩⟩ := Client.act_expire_cases setup h <;> rfl
  | measure i =>
    obtain ⟨_, -, rfl⟩ := Client.act_measure_cases setup h
    rfl
  | wake i admitted =>
    obtain ⟨-, ⟨_, -, rfl⟩ | ⟨-, rfl⟩⟩ := Client.act_wake_cases setup h <;> rfl
  | lock i now =>
    obtain ⟨-, rfl⟩ := Client.act_lock_cases setup h
    rfl
  | close i reportsDisconnected admitted =>
    rcases Client.act_close_cases setup h with ⟨-, step⟩ | ⟨_, -, step⟩ <;>
      exact Client.closeStep_lastRestart step
  | release i =>
    obtain ⟨f, -, -, rfl⟩ := Client.act_release_cases setup h
    exact Client.returnFrom_lastRestart _ i f
  | attempt i discovery opened =>
    obtain ⟨_, -, -, rfl⟩ := Client.act_attempt_cases setup h
    exact c.connect_lastRestart discovery opened
  | backoff i =>
    obtain ⟨_, -, rfl⟩ := Client.act_backoff_cases setup h
    rfl

/-- Over a run, `lastRestart` is the last reading at which a call proceeded, or what it
was before the run if none did. -/
theorem Client.run_lastRestart {c c' : Client} {as : List Action} (ran : c.run setup as = some c') :
    c'.lastRestart =
      (proceeding c.lastRestart (as.filterMap Action.restartReading?)).getLast?.getD c.lastRestart := by
  induction as generalizing c with
  | nil => cases ran; rfl
  | cons a as ih =>
    obtain ⟨c₁, stepped, rest⟩ := Option.bind_eq_some.mp ran
    have written := Client.act_lastRestart setup (Client.act_of_step setup stepped)
    rw [ih rest, written, List.filterMap_cons]
    cases a.restartReading? with
    | none => rfl
    | some now => exact (lockRestart_last c.lastRestart now _).symm

/-- Over any run, a `reconnect` call proceeds iff more than half a second, as an int64
difference, passed since the last call of the run that proceeded, or since 0. -/
theorem reconnect_proceeds_iff {endpoint : String} {as : List Action} {c c' : Client} {i : Nat}
    {now : Int} (ran : (Client.initial endpoint).run setup as = some c)
    (h : c.step setup (.lock i now) = some c') :
    c'.fibers[i]? = some (.reconnector .restarting) ↔
      int64 (now - (proceeding 0 (as.filterMap Action.restartReading?)).getLast?.getD 0) >
        1000000000 / 2 := by
  obtain ⟨locking, rfl⟩ := Client.act_lock_cases setup (Client.act_of_step setup h)
  have last : c.lastRestart = (proceeding 0 (as.filterMap Action.restartReading?)).getLast?.getD 0 :=
    Client.run_lastRestart setup ran
  have bound : i < c.fibers.length := (List.getElem?_eq_some_iff.mp locking).1
  simp only [Client.setFiber, List.getElem?_set_self bound, lockRestart, last, decide_eq_true_eq]
  split <;> simp only [Option.some.injEq, reduceCtorEq, eq_self_iff_true, true_iff, false_iff] <;>
    assumption

/-- The server asks for a reconnect twice. The first `reconnect` of the run takes the
restart lock 0.6 s after the epoch and proceeds; the second takes it 0.3 s later and returns. -/
theorem reconnect_proceeds_after_server_reconnect :
    let sample : Setup := ⟨⟨"T", "", "", "", 0, 0, 0⟩, "linux", ⟨fun _ => ⟨"s", []⟩, fun _ => ⟨45000⟩⟩⟩
    let serverReconnect : Action := .read 0 (some (some ⟨opcode.reconnect, 0, "", []⟩))
    let first : List Action := [.connect none true, serverReconnect, .receive 0, .handle 0, .perform true]
    let second : List Action :=
      first ++ [.lock 2 600000000, .poll 0, serverReconnect, .receive 0, .handle 0, .perform true]
    ∃ c c' d d', (Client.initial "gw").run sample first = some c ∧
      c.step sample (.lock 2 600000000) = some c' ∧ c'.fibers[2]? = some (.reconnector .restarting) ∧
      (c'.fibers[2]? = some (.reconnector .restarting) ↔
        int64 (600000000 - (proceeding 0 (first.filterMap Action.restartReading?)).getLast?.getD 0) >
          1000000000 / 2) ∧
      (Client.initial "gw").run sample second = some d ∧
      d.step sample (.lock 3 900000000) = some d' ∧ d'.fibers[3]? = some .done ∧
      (d'.fibers[3]? = some (.reconnector .restarting) ↔
        int64 (900000000 - (proceeding 0 (second.filterMap Action.restartReading?)).getLast?.getD 0) >
          1000000000 / 2) := by
  intro sample serverReconnect first second
  obtain ⟨c, ran⟩ := Option.isSome_iff_exists.mp
    (show ((Client.initial "gw").run sample first).isSome by decide)
  obtain ⟨c', locked, restarting⟩ := Option.map_eq_some'.mp
    (show (((Client.initial "gw").run sample first).bind (·.step sample (.lock 2 600000000))).map
      (·.fibers[2]?) = some (some (.reconnector .restarting)) by decide)
  obtain ⟨d, ran'⟩ := Option.isSome_iff_exists.mp
    (show ((Client.initial "gw").run sample second).isSome by decide)
  obtain ⟨d', dropped, done⟩ := Option.map_eq_some'.mp
    (show (((Client.initial "gw").run sample second).bind (·.step sample (.lock 3 900000000))).map
      (·.fibers[3]?) = some (some .done) by decide)
  rw [ran, Option.some_bind] at locked
  rw [ran', Option.some_bind] at dropped
  exact ⟨c, c', d, d', ran, locked, restarting, reconnect_proceeds_iff sample ran locked,
    ran', dropped, done, reconnect_proceeds_iff sample ran' dropped⟩

/-- The fiber whose `reconnect` loop calls `Connect` in this action. -/
def Action.attemptBy? : Action → Option Nat
  | .attempt i _ _ => some i
  | _ => none

/-- `k` `Connect` calls of a fiber's `reconnect` loop: `try` before call `try`, one more
while it backs off, at most `maxReconnectTries + 1` once ended, none by other fibers. -/
def Tries : Option Fiber → Nat → Prop
  | some (.reconnector (.connecting t)), k => k = t ∧ t ≤ maxReconnectTries
  | some (.reconnector (.backingOff t)), k => k = t + 1 ∧ t < maxReconnectTries
  | some .done, k => k ≤ maxReconnectTries + 1
  | _, k => k = 0

/-- Every fiber `i` of `fibers` made `n i` `Connect` calls in its retry loop. -/
def TriedBy (fibers : List Fiber) (n : Nat → Nat) : Prop := ∀ i, Tries fibers[i]? (n i)

theorem TriedBy.initial (endpoint : String) : TriedBy (Client.initial endpoint).fibers fun _ => 0 := by
  intro j
  rfl

theorem Tries.le_max {x : Option Fiber} {k : Nat} (h : Tries x k) : k ≤ maxReconnectTries + 1 := by
  unfold Tries at h
  split at h <;> omega

theorem Tries.done_of_zero {k : Nat} (zero : k = 0) : Tries (some .done) k :=
  zero ▸ Nat.zero_le _

theorem Tries.of_zero {x : Option Fiber} {k : Nat} (zero : k = 0) (h : Tries x 0) : Tries x k :=
  zero ▸ h

theorem TriedBy.set {fibers : List Fiber} {n n' : Nat → Nat} {i : Nat} {f : Fiber}
    (tried : TriedBy fibers n) (h : fibers[i]? = some f) (others : ∀ j ≠ i, n' j = n j) {g : Fiber}
    (move : Tries (some f) (n i) → Tries (some g) (n' i)) : TriedBy (fibers.set i g) n' := by
  intro j
  rcases eq_or_ne j i with rfl | ne
  · rw [List.getElem?_set_self (List.getElem?_eq_some_iff.mp h).1]
    exact move (h ▸ tried j)
  · rw [List.getElem?_set_ne ne.symm, others j ne]
    exact tried j

theorem TriedBy.concat {fibers : List Fiber} {n : Nat → Nat} (tried : TriedBy fibers n) {g : Fiber}
    (idle : Tries (some g) 0) : TriedBy (fibers ++ [g]) n := by
  intro j
  rcases lt_or_le j fibers.length with lt | le
  · rw [List.getElem?_append_left lt]
    exact tried j
  · have zero : n j = 0 := by
      have none := tried j
      rwa [List.getElem?_eq_none le] at none
    rw [List.getElem?_append_right le, zero]
    cases j - fibers.length with
    | zero => exact idle
    | succ k => rfl

theorem TriedBy.connect {c : Client} {n : Nat → Nat} (tried : TriedBy c.fibers n)
    (discovery : Option String) (opened : Bool) : TriedBy (c.connect discovery opened).1.fibers n := by
  unfold Client.connect
  split
  · exact tried
  split
  · exact tried
  split
  · exact tried
  · show TriedBy (c.fibers ++ [.receiver .reading, .emitter .waiting]) n
    simpa using (tried.concat (g := .receiver .reading) rfl).concat (g := .emitter .waiting) rfl

theorem TriedBy.returnFrom {c : Client} {n : Nat → Nat} {i : Nat} {f0 : Fiber}
    (tried : TriedBy c.fibers n) (h : c.fibers[i]? = some f0) (idle : Tries (some f0) (n i) → n i = 0)
    (f : Fiber) : TriedBy (c.returnFrom i f).fibers n := by
  unfold Client.returnFrom
  split
  · exact tried.set h (fun _ _ => rfl) fun t => ⟨idle t, Nat.zero_le _⟩
  all_goals exact tried.set h (fun _ _ => rfl) fun t => Tries.done_of_zero (idle t)

/-- `Disconnect`'s first step moves a fiber with no loop of its own to another one: to
the start of the retry loop, with no call made, if it is a reconnector returning early. -/
theorem TriedBy.closeStep {c c' : Client} {n : Nat → Nat} {i : Nat} {f0 f : Fiber}
    {reportsDisconnected admitted : Bool} {handing : ClientPacket → Fiber} {grace : Fiber}
    (tried : TriedBy c.fibers n) (h : c.fibers[i]? = some f0) (idle : Tries (some f0) (n i) → n i = 0)
    (step : c.closeStep i f reportsDisconnected admitted handing grace = some c')
    (hands : ∀ q, Tries (some (handing q)) 0) (waits : Tries (some grace) 0) : TriedBy c'.fibers n := by
  unfold Client.closeStep at step
  split_ifs at step
  · cases step
    have marked : TriedBy ({ c with disconnected := true } : Client).fibers n := tried
    exact marked.returnFrom h idle f
  · dsimp only at step
    split at step <;> cases step
    · exact tried.set h (fun _ _ => rfl) fun t => Tries.of_zero (idle t) (hands _)
    · exact tried.set h (fun _ _ => rfl) fun t => Tries.of_zero (idle t) waits

theorem TriedBy.takePacket {c : Client} {n : Nat → Nat} {i : Nat} (tried : TriedBy c.fibers n)
    (h : c.fibers[i]? = some (.emitter .waiting)) (q : ClientPacket) :
    TriedBy (c.takePacket i q).fibers n := by
  unfold Client.takePacket
  split_ifs
  · exact tried.set h (fun _ _ => rfl) Tries.done_of_zero
  · exact tried.set h (fun _ _ => rfl) id

/-- An action that is no `Connect` call of a retry loop leaves every count standing. -/
theorem Client.act_triedBy_of_none {c c' : Client} {a : Action} {n : Nat → Nat}
    (tried : TriedBy c.fibers n) (h : c.act setup a = some c') (none : a.attemptBy? = none) :
    TriedBy c'.fibers n := by
  cases a with
  | connect discovery opened =>
    obtain ⟨-, rfl⟩ := Client.act_connect_cases setup h
    exact tried.connect discovery opened
  | disconnect shut => cases h; exact tried.concat rfl
  | send command data admitted =>
    rcases Client.act_send_cases setup h with ⟨_, -, rfl⟩ | ⟨-, rfl⟩
    · exact tried.concat rfl
    · exact tried
  | registration call => cases h; exact tried
  | consume =>
    obtain ⟨_, _, -, rfl⟩ := Client.act_consume_cases setup h
    exact tried
  | read i frame =>
    obtain ⟨reading, ⟨-, rfl⟩ | ⟨-, -, rfl⟩ | ⟨p, -, -, rfl⟩⟩ := Client.act_read_cases setup h
    · exact tried.set reading (fun _ _ => rfl) Tries.done_of_zero
    · exact tried
    · exact tried.set reading (fun _ _ => rfl) id
  | poll i =>
    obtain ⟨polling, rfl⟩ := Client.act_poll_cases setup h
    exact tried.set polling (fun _ _ => rfl) fun t => by split; exacts [Tries.done_of_zero t, t]
  | receive i =>
    obtain ⟨_, _, -, pushing, rfl⟩ := Client.act_receive_cases setup h
    exact tried.set pushing (fun _ _ => rfl) id
  | handle now =>
    obtain ⟨_, _, -, -, rfl⟩ := Client.act_handle_cases setup h
    exact tried
  | perform admitted =>
    obtain ⟨effect, rest, -, rfl⟩ := Client.act_perform_cases setup h
    cases effect with
    | emit command data => simp only [Client.perform]; split <;> exact tried
    | dispatch e => exact tried
    | _ => exact tried.concat rfl
  | takeFromHandler i =>
    obtain ⟨q, _, waiting, -, rfl⟩ := Client.act_takeFromHandler_cases setup h
    exact tried.takePacket waiting q
  | take i j =>
    obtain ⟨f, q, waiting, sender, out, ne, rfl⟩ := Client.act_take_cases setup h
    have sent : Tries (some f) (n j) → Tries (some f.sent) (n j) := by
      rcases f with _ | _ | (_ | _ | _ | _ | _ | _) | _ | _ | _ | (_ | _ | (_ | _ | _) | _ | _) |
        (_ | _ | _) | _ | _ <;> first | exact id | exact Tries.done_of_zero | cases out
    exact (tried.takePacket waiting q).set ((c.takePacket_getElem? ne q).trans sender)
      (fun _ _ => rfl) sent
  | write i ok =>
    obtain ⟨q, writing, rfl⟩ := Client.act_write_cases setup h
    exact tried.set writing (fun _ _ => rfl) id
  | quit i =>
    obtain ⟨-, ⟨waiting, rfl⟩ | ⟨_, sleeping, rfl⟩ | ⟨_, backingOff, rfl⟩⟩ := Client.act_quit_cases setup h
    · exact tried.set waiting (fun _ _ => rfl) Tries.done_of_zero
    · exact tried.set sleeping (fun _ _ => rfl) Tries.done_of_zero
    · exact tried.set backingOff (fun _ _ => rfl) fun t => (Tries.le_max t :)
  | handlerQuit =>
    obtain ⟨-, -, rfl⟩ := Client.act_handlerQuit_cases setup h
    exact tried
  | draw i id =>
    obtain ⟨starting, -, -, rfl⟩ := Client.act_draw_cases setup h
    exact tried.set starting (fun _ _ => rfl) fun t => by split; exacts [t, Tries.done_of_zero t]
  | pulse i admitted now =>
    obtain ⟨_, ticking, -, ⟨-, rfl⟩ | ⟨-, rfl⟩⟩ | ⟨_, beating, -, ⟨_, -, rfl⟩ | ⟨-, rfl⟩⟩ |
        ⟨_, _, arming, rfl⟩ | ⟨_, sleeping, rfl⟩ := Client.act_pulse_cases setup h
    · exact tried
    · exact tried.set ticking (fun _ _ => rfl) id
    · exact tried.set beating (fun _ _ => rfl) id
    · exact tried.set beating (fun _ _ => rfl) id
    · exact (tried.set arming (g := .pulsator (.sleeping _)) (fun _ _ => rfl) id).concat rfl
    · exact tried.set sleeping (fun _ _ => rfl) id
  | restart i j =>
    obtain ⟨_, sleeping, restarting, ne, rfl⟩ := Client.act_restart_cases setup h
    have still : (c.fibers.set i .done)[j]? = some (.reconnector .restarting) := by
      rw [List.getElem?_set_ne ne]; exact restarting
    exact (tried.set sleeping (fun _ _ => rfl) Tries.done_of_zero).set still (fun _ _ => rfl) id
  | expire i cancelled =>
    obtain ⟨_, _, watching, ⟨-, rfl⟩ | ⟨-, -, -, rfl⟩ | ⟨-, -, -, rfl⟩⟩ :=
      Client.act_expire_cases setup h
    · exact tried.set watching (fun _ _ => rfl) Tries.done_of_zero
    · exact tried.set watching (fun _ _ => rfl) id
    · exact tried.set watching (fun _ _ => rfl) id
  | measure i =>
    obtain ⟨_, measuring, rfl⟩ := Client.act_measure_cases setup h
    exact tried.set measuring (fun _ _ => rfl) Tries.done_of_zero
  | wake i admitted =>
    obtain ⟨sleeping, ⟨_, -, rfl⟩ | ⟨-, rfl⟩⟩ := Client.act_wake_cases setup h
    · exact tried.set sleeping (fun _ _ => rfl) id
    · exact tried.set sleeping (fun _ _ => rfl) Tries.done_of_zero
  | lock i now =>
    obtain ⟨locking, rfl⟩ := Client.act_lock_cases setup h
    exact tried.set locking (fun _ _ => rfl) fun t => by split; exacts [t, Tries.done_of_zero t]
  | close i reportsDisconnected admitted =>
    rcases Client.act_close_cases setup h with ⟨start, step⟩ | ⟨_, start, step⟩
    · exact tried.closeStep start id step (fun _ => rfl) rfl
    · exact tried.closeStep start id step (fun _ => rfl) rfl
  | release i =>
    obtain ⟨f, waiting, grace, rfl⟩ := Client.act_release_cases setup h
    have idle : Tries (some f) (n i) → n i = 0 := by rcases grace with rfl | ⟨_, rfl⟩ <;> exact id
    have released : TriedBy ({ c with disconnected := true, locked := false } : Client).fibers n := tried
    exact released.returnFrom waiting idle f
  | attempt i discovery opened => cases none
  | backoff i =>
    obtain ⟨_, backingOff, rfl⟩ := Client.act_backoff_cases setup h
    exact tried.set backingOff (fun _ _ => rfl) fun ⟨count, below⟩ => ⟨count, below⟩

/-- A `Connect` call of fiber `i`'s retry loop counts one more for `i`: the loop then ends,
on success or after the last try, or backs off before the next try. -/
theorem Client.act_triedBy_attempt {c c' : Client} {i : Nat} {discovery : Option String}
    {opened : Bool} {n n' : Nat → Nat} (tried : TriedBy c.fibers n)
    (h : c.act setup (.attempt i discovery opened) = some c') (counted : n' i = n i + 1)
    (others : ∀ j ≠ i, n' j = n j) : TriedBy c'.fibers n' := by
  obtain ⟨t, connecting, -, rfl⟩ := Client.act_attempt_cases setup h
  refine (tried.connect discovery opened).set (Client.connect_getElem? connecting discovery opened)
    others fun ⟨count, bound⟩ => ?_
  rw [counted]
  split
  · exact (by omega : n i + 1 ≤ maxReconnectTries + 1)
  · exact (by omega : n i + 1 = t + 1 ∧ t < maxReconnectTries)

/-- Over a run, each fiber's count grows by the `Connect` calls its loop made in the run. -/
theorem Client.run_triedBy {c c' : Client} {as : List Action} {n : Nat → Nat}
    (tried : TriedBy c.fibers n) (ran : c.run setup as = some c') :
    TriedBy c'.fibers fun j => n j + as.countP fun a => a.attemptBy? = some j := by
  induction as generalizing c n with
  | nil => cases ran; exact tried
  | cons a as ih =>
    obtain ⟨c₁, stepped, rest⟩ := Option.bind_eq_some.mp ran
    have acted := Client.act_of_step setup stepped
    have next : TriedBy c₁.fibers fun j => n j + if a.attemptBy? = some j then 1 else 0 := by
      cases attempt : a.attemptBy? with
      | none => simpa using Client.act_triedBy_of_none setup tried acted attempt
      | some i =>
        obtain ⟨discovery, opened, rfl⟩ : ∃ discovery opened, a = .attempt i discovery opened := by
          cases a <;> cases attempt
          exact ⟨_, _, rfl⟩
        exact Client.act_triedBy_attempt setup tried acted (by simp) fun j ne => by simp [Ne.symm ne]
    convert ih next rest using 2 with j
    simp only [List.countP_cons, decide_eq_true_eq]
    omega

/-- A retry loop's `try` counter is the number of its `Connect` calls, and no `reconnect`
call makes more than `maxReconnectTries + 1` of them. -/
theorem reconnect_connects_at_most {endpoint : String} {as : List Action} {c : Client}
    (ran : (Client.initial endpoint).run setup as = some c) (i : Nat) :
    as.countP (fun a => a.attemptBy? = some i) ≤ maxReconnectTries + 1 ∧
      ∀ t, c.fibers[i]? = some (.reconnector (.connecting t)) →
        as.countP (fun a => a.attemptBy? = some i) = t := by
  have tried := Client.run_triedBy setup (TriedBy.initial endpoint) ran i
  simp only [Nat.zero_add] at tried
  refine ⟨tried.le_max, fun t connecting => ?_⟩
  rw [connecting] at tried
  exact tried.1

/-- A server Reconnect while the pulsator sleeps; the `reconnect` call restarts it and
fails three `Connect` calls on a transport that is down. -/
theorem reconnect_connects_at_most_third_try :
    let sample : Setup := ⟨⟨"T", "", "", "", 0, 0, 0⟩, "linux", ⟨fun _ => ⟨"s", []⟩, fun _ => ⟨45000⟩⟩⟩
    let as : List Action :=
      [.connect none true, .read 0 (some (some ⟨opcode.hello, 0, "", []⟩)), .receive 0, .handle 0,
        .perform true, .perform true, .takeFromHandler 1, .write 1 true, .poll 0,
        .draw 2 5, .pulse 2 true 0, .pulse 2 true 0, .take 1 2, .write 1 true, .pulse 2 true 0,
        .read 0 (some (some ⟨opcode.reconnect, 0, "", []⟩)), .receive 0, .handle 0, .perform true,
        .lock 4 600000000, .restart 2 4, .close 4 true true,
        .attempt 4 none false, .backoff 4, .attempt 4 none false, .backoff 4,
        .attempt 4 none false, .backoff 4]
    ∃ c, (Client.initial "gw").run sample as = some c ∧
      c.fibers[4]? = some (.reconnector (.connecting 3)) ∧
      as.countP (fun a => a.attemptBy? = some 4) ≤ maxReconnectTries + 1 ∧
      as.countP (fun a => a.attemptBy? = some 4) = 3 := by
  intro sample as
  obtain ⟨c, ran⟩ := Option.isSome_iff_exists.mp
    (show ((Client.initial "gw").run sample as).isSome by decide)
  have connecting : c.fibers[4]? = some (.reconnector (.connecting 3)) := by
    have fiber : ((Client.initial "gw").run sample as).map (·.fibers[4]?) =
        some (some (.reconnector (.connecting 3))) := by decide
    rw [ran] at fiber
    exact Option.some.inj fiber
  exact ⟨c, ran, connecting, (reconnect_connects_at_most sample ran 4).1,
    (reconnect_connects_at_most sample ran 4).2 3 connecting⟩

end Disgord
