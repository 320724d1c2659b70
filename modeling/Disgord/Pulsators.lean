import Disgord.Emitter

/-! The pulse guard in the client. `pulsate` draws a service id, passes
`AllowedToStartPulsating`, and calls `StopPulsating` when it exits. Under every schedule the
guard's id is 0 or a live pulsator's; when no draw repeats a live id, one pulsator at most
is alive, and two that draw the same id are both admitted. -/
namespace Disgord

variable (setup : Setup)

/-- The service id a pulsator holds from `AllowedToStartPulsating` until it exits. -/
def Fiber.serviceID? : Fiber → Option UInt8
  | .pulsator (.ticking id) | .pulsator (.beating id) | .pulsator (.emitting id _ _)
  | .pulsator (.arming id _) | .pulsator (.sleeping id) => some id
  | _ => none

/-- The ids of the live pulsators. -/
def Client.pulsators (c : Client) : List UInt8 := c.fibers.filterMap Fiber.serviceID?

/-- A step that leaves the guard alone: the same live pulsators and the same id. -/
def Client.GuardFrame (c c' : Client) : Prop :=
  c'.pulsators.Perm c.pulsators ∧ c'.pulsating = c.pulsating

theorem Client.GuardFrame.refl (c : Client) : c.GuardFrame c := ⟨.refl _, rfl⟩

theorem Client.GuardFrame.trans {c₁ c₂ c₃ : Client} (first : c₁.GuardFrame c₂)
    (second : c₂.GuardFrame c₃) : c₁.GuardFrame c₃ :=
  ⟨second.1.trans first.1, second.2.trans first.2⟩

/-- Replacing the entry at `i` trades what it contributes for what the new one does. -/
theorem flatMap_set_perm {α β : Type} {l : List α} {i : Nat} {a : α} (h : l[i]? = some a)
    (b : α) (f : α → List β) : ((l.set i b).flatMap f ++ f a).Perm (l.flatMap f ++ f b) := by
  obtain ⟨before, after⟩ := set_split h b
  rw [after]
  conv_rhs => rw [before]
  simp only [List.flatMap_append, List.flatMap_cons, List.append_assoc]
  exact .append_left _ ((List.Perm.append_left _ List.perm_append_comm).trans
    ((List.perm_append_comm_assoc _ _ _).trans (.append_left _ List.perm_append_comm)))

theorem Client.pulsators_setFiber {c : Client} {i : Nat} {f : Fiber} (h : c.fibers[i]? = some f)
    (g : Fiber) :
    ((c.setFiber i g).pulsators ++ f.serviceID?.toList).Perm (c.pulsators ++ g.serviceID?.toList) := by
  simpa only [Client.pulsators, Client.setFiber, List.filterMap_eq_flatMap_toList] using
    flatMap_set_perm h g _

theorem Client.guardFrame_setFiber {c : Client} {i : Nat} {f : Fiber} (h : c.fibers[i]? = some f)
    (g : Fiber) (same : g.serviceID? = f.serviceID?) : c.GuardFrame (c.setFiber i g) :=
  ⟨(List.perm_append_right_iff _).mp (same ▸ c.pulsators_setFiber h g), rfl⟩

theorem Client.guardFrame_spawn (c : Client) {g : Fiber} (none : g.serviceID? = none) :
    c.GuardFrame (c.spawn g) :=
  ⟨by simp [Client.pulsators, Client.spawn, none], rfl⟩

theorem Client.guardFrame_connect (c : Client) (discovery : Option String) (opened : Bool) :
    c.GuardFrame (c.connect discovery opened).1 := by
  unfold Client.connect
  split
  · exact .refl c
  split
  · exact .refl c
  split
  · exact .refl c
  · exact ⟨by simp [Client.pulsators, Fiber.serviceID?], rfl⟩

theorem Client.guardFrame_takePacket {c : Client} {i : Nat}
    (h : c.fibers[i]? = some (.emitter .waiting)) (q : ClientPacket) : c.GuardFrame (c.takePacket i q) := by
  unfold Client.takePacket
  split_ifs
  · exact c.guardFrame_setFiber h .done rfl
  · exact c.guardFrame_setFiber h _ rfl

theorem Client.guardFrame_returnFrom {c : Client} {i : Nat} {f0 : Fiber} (h : c.fibers[i]? = some f0)
    (idle : f0.serviceID? = none) (f : Fiber) : c.GuardFrame (c.returnFrom i f) := by
  unfold Client.returnFrom
  split <;> exact c.guardFrame_setFiber h _ idle.symm

theorem Client.guardFrame_closeStep {c c' : Client} {i : Nat} {f0 f : Fiber}
    {reportsDisconnected admitted : Bool} {handing : ClientPacket → Fiber} {grace : Fiber}
    (h : c.fibers[i]? = some f0) (idle : f0.serviceID? = none)
    (step : c.closeStep i f reportsDisconnected admitted handing grace = some c')
    (hands : ∀ q, (handing q).serviceID? = none) (waits : grace.serviceID? = none) : c.GuardFrame c' := by
  unfold Client.closeStep at step
  split_ifs at step
  · cases step
    have marked : ({ c with disconnected := true } : Client).fibers[i]? = some f0 := h
    exact Client.guardFrame_returnFrom marked idle f
  · dsimp only at step
    split at step <;> cases step
    · exact c.guardFrame_setFiber h _ ((hands _).trans idle.symm)
    · exact c.guardFrame_setFiber h _ (waits.trans idle.symm)

theorem Client.mem_pulsators {c : Client} {i : Nat} {f : Fiber} {id : UInt8} (h : c.fibers[i]? = some f)
    (holds : f.serviceID? = some id) : id ∈ c.pulsators :=
  List.mem_filterMap.mpr ⟨f, List.getElem?_mem h, holds⟩

/-- A pulsator that exits through `StopPulsating`. -/
theorem Client.pulsators_stop {c : Client} {i : Nat} {f : Fiber} {id : UInt8} (h : c.fibers[i]? = some f)
    (holds : f.serviceID? = some id) : ((c.setFiber i .done).pulsators ++ [id]).Perm c.pulsators := by
  have moved := c.pulsators_setFiber h .done
  rw [holds, show Fiber.done.serviceID?.toList = [] from rfl, List.append_nil] at moved
  exact moved

/-- One action leaves the guard alone, draws an id in range and passes it to
`AllowedToStartPulsating`, or is the `StopPulsating` of a live pulsator that exits. -/
theorem Client.act_guard {c c' : Client} {a : Action} (h : c.act setup a = some c') :
    c.GuardFrame c' ∨
    (∃ i id, a = .draw i id ∧ 1 ≤ id.toNat ∧
      c'.pulsating = (allowedToStartPulsating c.pulsating id).1 ∧
      c'.pulsators.Perm (c.pulsators ++ if (allowedToStartPulsating c.pulsating id).2 then [id] else [])) ∨
    (∃ id, id ∈ c.pulsators ∧ c'.pulsating = stopPulsating c.pulsating id ∧
      (c'.pulsators ++ [id]).Perm c.pulsators) := by
  cases a with
  | connect discovery opened =>
    obtain ⟨-, rfl⟩ := Client.act_connect_cases setup h
    exact .inl (c.guardFrame_connect discovery opened)
  | disconnect shut => cases h; exact .inl (c.guardFrame_spawn rfl)
  | send command data admitted =>
    rcases Client.act_send_cases setup h with ⟨_, -, rfl⟩ | ⟨-, rfl⟩
    · exact .inl (c.guardFrame_spawn rfl)
    · exact .inl (.refl _)
  | registration call => cases h; exact .inl (.refl c)
  | consume =>
    obtain ⟨_, _, -, rfl⟩ := Client.act_consume_cases setup h
    exact .inl (.refl c)
  | read i frame =>
    obtain ⟨reading, ⟨-, rfl⟩ | ⟨-, -, rfl⟩ | ⟨_, -, -, rfl⟩⟩ := Client.act_read_cases setup h
    · exact .inl (c.guardFrame_setFiber reading .done rfl)
    · exact .inl (.refl _)
    · exact .inl (c.guardFrame_setFiber reading _ rfl)
  | poll i =>
    obtain ⟨polling, rfl⟩ := Client.act_poll_cases setup h
    exact .inl (c.guardFrame_setFiber polling _ (by split <;> rfl))
  | receive i =>
    obtain ⟨_, _, -, pushing, rfl⟩ := Client.act_receive_cases setup h
    exact .inl (c.guardFrame_setFiber pushing _ rfl)
  | handle now =>
    obtain ⟨_, _, -, -, rfl⟩ := Client.act_handle_cases setup h
    exact .inl (.refl c)
  | perform admitted =>
    obtain ⟨effect, rest, -, rfl⟩ := Client.act_perform_cases setup h
    cases effect with
    | emit command data => simp only [Client.perform]; split <;> exact .inl (.refl c)
    | dispatch e => exact .inl (.refl c)
    | _ => exact .inl (c.guardFrame_spawn rfl)
  | takeFromHandler i =>
    obtain ⟨q, _, waiting, -, rfl⟩ := Client.act_takeFromHandler_cases setup h
    exact .inl (c.guardFrame_takePacket waiting q)
  | take i j =>
    obtain ⟨f, q, waiting, sender, out, ne, rfl⟩ := Client.act_take_cases setup h
    have sent : f.sent.serviceID? = f.serviceID? := by
      rcases f with _ | _ | (_ | _ | _ | _ | _ | _) | _ | _ | _ | (_ | _ | (_ | _ | _) | _ | _) |
        (_ | _ | _) | _ | _ <;> first | rfl | cases out
    exact .inl ((c.guardFrame_takePacket waiting q).trans
      (Client.guardFrame_setFiber ((c.takePacket_getElem? ne q).trans sender) _ sent))
  | write i ok =>
    obtain ⟨_, writing, rfl⟩ := Client.act_write_cases setup h
    exact .inl (c.guardFrame_setFiber writing _ rfl)
  | quit i =>
    obtain ⟨-, ⟨waiting, rfl⟩ | ⟨id, sleeping, rfl⟩ | ⟨_, backingOff, rfl⟩⟩ := Client.act_quit_cases setup h
    · exact .inl (c.guardFrame_setFiber waiting .done rfl)
    · exact .inr (.inr ⟨id, c.mem_pulsators sleeping rfl, rfl, c.pulsators_stop sleeping rfl⟩)
    · exact .inl (c.guardFrame_setFiber backingOff .done rfl)
  | handlerQuit =>
    obtain ⟨-, -, rfl⟩ := Client.act_handlerQuit_cases setup h
    exact .inl (.refl c)
  | draw i id =>
    obtain ⟨starting, range, -, rfl⟩ := Client.act_draw_cases setup h
    refine .inr (.inl ⟨i, id, rfl, range, rfl, ?_⟩)
    have moved := c.pulsators_setFiber starting
      (if (allowedToStartPulsating c.pulsating id).2 then .pulsator (.ticking id) else .done)
    show (c.setFiber i _).pulsators.Perm _
    revert moved
    cases (allowedToStartPulsating c.pulsating id).2 <;> simp [Fiber.serviceID?]
  | pulse i admitted now =>
    obtain ⟨_, ticking, -, ⟨-, rfl⟩ | ⟨-, rfl⟩⟩ | ⟨_, beating, -, ⟨_, -, rfl⟩ | ⟨-, rfl⟩⟩ |
        ⟨_, _, arming, rfl⟩ | ⟨_, sleeping, rfl⟩ := Client.act_pulse_cases setup h
    · exact .inl (.refl c)
    · exact .inl (c.guardFrame_setFiber ticking _ rfl)
    · exact .inl (c.guardFrame_setFiber beating _ rfl)
    · exact .inl (c.guardFrame_setFiber beating _ rfl)
    · exact .inl ((c.guardFrame_setFiber arming (.pulsator (.sleeping _)) rfl).trans
        (Client.guardFrame_spawn _ rfl))
    · exact .inl (c.guardFrame_setFiber sleeping _ rfl)
  | restart i j =>
    obtain ⟨id, sleeping, restarting, ne, rfl⟩ := Client.act_restart_cases setup h
    have still : (c.setFiber i .done).fibers[j]? = some (.reconnector .restarting) := by
      rw [Client.setFiber, List.getElem?_set_ne ne]; exact restarting
    have kept := (Client.guardFrame_setFiber still (.reconnector (.disconnecting .start)) rfl).1
    exact .inr (.inr ⟨id, c.mem_pulsators sleeping rfl, rfl,
      (kept.append_right _).trans (c.pulsators_stop sleeping rfl)⟩)
  | expire i cancelled =>
    obtain ⟨_, _, watching, ⟨-, rfl⟩ | ⟨-, -, -, rfl⟩ | ⟨-, -, -, rfl⟩⟩ :=
      Client.act_expire_cases setup h
    · exact .inl (c.guardFrame_setFiber watching .done rfl)
    · exact .inl (c.guardFrame_setFiber watching (.measuring _) rfl)
    · exact .inl (c.guardFrame_setFiber watching _ rfl)
  | measure i =>
    obtain ⟨_, measuring, rfl⟩ := Client.act_measure_cases setup h
    exact .inl (c.guardFrame_setFiber measuring .done rfl)
  | wake i admitted =>
    obtain ⟨sleeping, ⟨_, -, rfl⟩ | ⟨-, rfl⟩⟩ := Client.act_wake_cases setup h
    · exact .inl (c.guardFrame_setFiber sleeping _ rfl)
    · exact .inl (c.guardFrame_setFiber sleeping .done rfl)
  | lock i now =>
    obtain ⟨locking, rfl⟩ := Client.act_lock_cases setup h
    exact .inl (c.guardFrame_setFiber locking _ (by split <;> rfl))
  | close i reportsDisconnected admitted =>
    rcases Client.act_close_cases setup h with ⟨start, step⟩ | ⟨_, start, step⟩
    · exact .inl (Client.guardFrame_closeStep start rfl step (fun _ => rfl) rfl)
    · exact .inl (Client.guardFrame_closeStep start rfl step (fun _ => rfl) rfl)
  | release i =>
    obtain ⟨f, waiting, grace, rfl⟩ := Client.act_release_cases setup h
    have idle : f.serviceID? = none := by rcases grace with rfl | ⟨_, rfl⟩ <;> rfl
    have freed : ({ c with disconnected := true, locked := false } : Client).fibers[i]? = some f :=
      waiting
    exact .inl (Client.guardFrame_returnFrom freed idle f)
  | attempt i discovery opened =>
    obtain ⟨_, connecting, -, rfl⟩ := Client.act_attempt_cases setup h
    exact .inl ((c.guardFrame_connect discovery opened).trans (Client.guardFrame_setFiber
      (Client.connect_getElem? connecting discovery opened) _ (by split <;> rfl)))
  | backoff i =>
    obtain ⟨_, backingOff, rfl⟩ := Client.act_backoff_cases setup h
    exact .inl (c.guardFrame_setFiber backingOff _ rfl)

/-- Whether or not two pulsators draw the same id, the guard's id is 0 or a live pulsator's:
once every pulsator has exited, the next `pulsate` is admitted. -/
theorem guard_held_by_live_pulsator {c : Client} (reachable : Client.Reachable setup c)
    (held : c.pulsating ≠ 0) : c.pulsating ∈ c.pulsators := by
  induction reachable with
  | initial => exact absurd rfl held
  | @step c₀ _ _ _ stepped live =>
    rcases Client.act_guard setup (Client.act_of_step setup stepped) with
      ⟨perm, same⟩ | ⟨_, id, -, -, pulsating, perm⟩ | ⟨id, -, pulsating, perm⟩
    · rw [same] at held ⊢
      exact perm.mem_iff.mpr (live held)
    · rw [pulsating] at held ⊢
      rw [perm.mem_iff]
      unfold allowedToStartPulsating at held ⊢
      by_cases free : c₀.pulsating = 0 <;> simp_all
    · rw [pulsating] at held ⊢
      unfold stopPulsating at held ⊢
      split at held
      · exact absurd rfl held
      · rename_i other
        rw [if_neg other]
        have mem := perm.mem_iff.mpr (live held)
        simpa [other] using mem

/-- The state after a Hello: one pulsator, admitted with id 5. -/
theorem guard_held_by_live_pulsator_after_hello :
    let sample : Setup := ⟨⟨"T", "", "", "", 0, 0, 0⟩, "linux", ⟨fun _ => ⟨"s", []⟩, fun _ => ⟨45000⟩⟩⟩
    let hello : DiscordPacket := ⟨opcode.hello, 0, "", []⟩
    let c : Client := { Client.initial "gw" with
      session := { Session.initial with heartbeatInterval := 45000 }
      fibers := [.receiver .reading, .emitter .waiting, .pulsator (.ticking 5)]
      disconnected := false, haveConnectedOnce := true, connOpen := true, epoch := 1, pulsating := 5
      reads := [(1, hello)], handled := [(1, hello)] }
    Client.Reachable sample c ∧ c.pulsating ≠ 0 ∧ c.pulsating ∈ c.pulsators := by
  intro sample hello c
  have reachable : Client.Reachable sample c := Client.Reachable.run sample (.initial "gw")
    (show (Client.initial "gw").run sample
      [.connect none true, .read 0 (some (some hello)), .receive 0, .handle 1, .poll 0,
       .perform false, .perform false, .draw 2 5] = some c by decide)
  exact ⟨reachable, by decide, guard_held_by_live_pulsator sample reachable (by decide)⟩

/-- A draw is fresh when no live pulsator holds the id drawn. -/
def Action.FreshDraw (c : Client) : Action → Prop
  | .draw _ id => id ∉ c.pulsators
  | _ => True

/-- The runs in which every draw is fresh. -/
inductive Client.FreshReachable : Client → Prop
  | initial (endpoint : String) : Client.FreshReachable (Client.initial endpoint)
  | step {c c' : Client} (a : Action) : Client.FreshReachable c → a.FreshDraw c →
      c.step setup a = some c' → Client.FreshReachable c'

/-- A run without draws keeps its runs fresh. -/
theorem Client.FreshReachable.run {c c' : Client} {as : List Action}
    (fresh : Client.FreshReachable setup c) (ran : c.run setup as = some c')
    (draws : ∀ a ∈ as, ∀ i id, a ≠ .draw i id) : Client.FreshReachable setup c' := by
  induction as generalizing c with
  | nil => cases ran; exact fresh
  | cons a as ih =>
    obtain ⟨c₁, stepped, rest⟩ := Option.bind_eq_some.mp ran
    have none : a.FreshDraw c := by
      cases a <;> first | trivial | exact absurd rfl (draws _ (List.mem_cons_self _ _) _ _)
    exact ih (.step a fresh none stepped) rest fun b mem => draws b (List.mem_cons_of_mem a mem)

theorem perm_guard {l : List UInt8} {p : UInt8} (h : l.Perm (if p = 0 then [] else [p])) :
    l = if p = 0 then [] else [p] := by
  by_cases zero : p = 0 <;> simpa [zero, List.perm_singleton] using h

/-- When no pulsator draws an id a live pulsator holds, at most one pulsator is alive: it
holds the guard's id, and the guard's id is 0 exactly when none is. -/
theorem one_live_pulsator_fresh {c : Client} (fresh : Client.FreshReachable setup c) :
    c.pulsators = if c.pulsating = 0 then [] else [c.pulsating] := by
  induction fresh with
  | initial => rfl
  | @step c₀ c' a _ unheld stepped exclusive =>
    rcases Client.act_guard setup (Client.act_of_step setup stepped) with
      ⟨perm, same⟩ | ⟨_, id, rfl, range, pulsating, perm⟩ | ⟨id, mem, pulsating, perm⟩
    · rw [same]
      exact perm_guard (exclusive ▸ perm)
    · have nonzero : id ≠ 0 := fun zero => by simp [zero] at range
      rw [pulsating]
      refine perm_guard (perm.trans ?_)
      rw [exclusive]
      unfold allowedToStartPulsating
      by_cases free : c₀.pulsating = 0
      · simp [free, nonzero]
      · have other : c₀.pulsating ≠ id := fun same => unheld (by simp [exclusive, free, same, nonzero])
        simp [free, other]
    · rw [exclusive] at mem perm
      by_cases free : c₀.pulsating = 0
      · simp [free] at mem
      · have owner : id = c₀.pulsating := by simpa [free] using mem
        subst owner
        rw [pulsating, stopPulsating, if_pos rfl, if_pos rfl]
        rw [if_neg free] at perm
        have alone : (c'.pulsators ++ [c₀.pulsating]).Perm ([] ++ [c₀.pulsating]) := perm
        exact List.perm_nil.mp ((List.perm_append_right_iff _).mp alone)

/-- The first pulsator after a Hello, admitted with id 5 on a fresh draw. -/
theorem one_live_pulsator_after_hello :
    let sample : Setup := ⟨⟨"T", "", "", "", 0, 0, 0⟩, "linux", ⟨fun _ => ⟨"s", []⟩, fun _ => ⟨45000⟩⟩⟩
    let hello : DiscordPacket := ⟨opcode.hello, 0, "", []⟩
    let c₀ : Client := { Client.initial "gw" with
      session := { Session.initial with heartbeatInterval := 45000 }
      fibers := [.receiver .reading, .emitter .waiting, .pulsator .starting]
      disconnected := false, haveConnectedOnce := true, connOpen := true, epoch := 1
      reads := [(1, hello)], handled := [(1, hello)] }
    let c : Client := { c₀ with fibers := c₀.fibers.set 2 (.pulsator (.ticking 5)), pulsating := 5 }
    Client.FreshReachable sample c ∧ c.pulsators = if c.pulsating = 0 then [] else [c.pulsating] := by
  intro sample hello c₀ c
  have ran : (Client.initial "gw").run sample
      [.connect none true, .read 0 (some (some hello)), .receive 0, .handle 1, .poll 0,
       .perform false, .perform false] = some c₀ := by decide
  have fresh₀ := (Client.FreshReachable.initial "gw").run sample ran (by simp)
  have fresh : Client.FreshReachable sample c :=
    .step (.draw 2 5) fresh₀ (show (5 : UInt8) ∉ c₀.pulsators by decide) (by decide)
  exact ⟨fresh, one_live_pulsator_fresh sample fresh⟩

/-- A second Hello's pulsator draws the id of the first and is admitted too; when the first
exits on a Reconnect, the guard is 0 while the second still pulses. -/
theorem same_id_pulsators_both_admitted :
    let sample : Setup := ⟨⟨"T", "", "", "", 0, 0, 0⟩, "linux", ⟨fun _ => ⟨"s", []⟩, fun _ => ⟨45000⟩⟩⟩
    let hello : List Action := [.read 0 (some (some ⟨opcode.hello, 0, "", []⟩)), .receive 0, .poll 0,
      .handle 0, .perform true, .perform true, .takeFromHandler 1, .write 1 true]
    let twice : List Action := .connect none true :: hello ++ .draw 2 5 :: hello ++ [.draw 3 5]
    let restartFirst : List Action := [.pulse 2 false 0, .pulse 2 false 0, .pulse 2 false 0,
      .read 0 (some (some ⟨opcode.reconnect, 0, "", []⟩)), .receive 0, .poll 0, .handle 0,
      .perform true, .lock 5 1000000000, .restart 2 5]
    ((Client.initial "gw").run sample twice).map (fun c => (c.pulsators, c.pulsating)) =
        some ([5, 5], 5) ∧
      ((Client.initial "gw").run sample (twice ++ restartFirst)).map
        (fun c => (c.pulsators, c.pulsating)) = some ([5], 0) :=
  ⟨by decide, by decide⟩

end Disgord
