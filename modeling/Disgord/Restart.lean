import Disgord.Pulse

/-! The reconnect controller: `lockRestart`, which debounces `reconnect` calls under
`restartMutex`, and the retry loop of `reconnect` with its backoff waits. Clock readings
are `time.Now().UnixNano()`, so differences are int64 arithmetic. -/
namespace Disgord

def maxReconnectTries : Nat := 5

/-- Proceed iff more than `time.Second.Nanoseconds() / 2` nanoseconds, as an int64
difference, passed since the last proceeding reading; a proceeding reading is stored. -/
def lockRestart (lastRestart now : Int) : Bool × Int :=
  let locked : Bool := int64 (now - lastRestart) > 1000000000 / 2
  (locked, if locked then now else lastRestart)

/-- The decisions of successive `reconnect` calls with the given clock readings. -/
def debounce (lastRestart : Int) : List Int → List Bool
  | [] => []
  | now :: readings => (lockRestart lastRestart now).1 :: debounce (lockRestart lastRestart now).2 readings

/-- The readings of the calls that proceeded, in order. -/
def proceeding (lastRestart : Int) : List Int → List Int
  | [] => []
  | now :: readings =>
    (if (lockRestart lastRestart now).1 then [now] else []) ++
      proceeding (lockRestart lastRestart now).2 readings

inductive ReconnectError where
  | tooManyAttempts
  | connect
  deriving DecidableEq, Repr

/-- One `Connect` call of the retry loop, or one backoff wait after a failed one; a wait
is interrupted when the closed shutdown channel wins the `select`. -/
inductive Attempt where
  | connect (tryIndex : Nat) (ok : Bool)
  | wait (tryIndex seconds : Nat) (interrupted : Bool)
  deriving DecidableEq, Repr

/-- `for try := 0; try <= maxReconnectTries; try++` from `try`, with each try's `Connect`
and backoff outcome given; an interrupted wait returns the last `Connect` error. -/
def reconnectLoop (connectOk shutdownWins : Nat → Bool) (tryIndex : Nat) :
    Nat → List Attempt × Option ReconnectError
  | 0 => ([], some .connect)
  | fuel + 1 =>
    if connectOk tryIndex then ([.connect tryIndex true], none)
    else if tryIndex = maxReconnectTries then ([.connect tryIndex false], some .tooManyAttempts)
    else if shutdownWins tryIndex then
      ([.connect tryIndex false, .wait tryIndex ((tryIndex + 3) * 2) true], some .connect)
    else
      let (rest, result) := reconnectLoop connectOk shutdownWins (tryIndex + 1) fuel
      (.connect tryIndex false :: .wait tryIndex ((tryIndex + 3) * 2) false :: rest, result)

def reconnectTries (connectOk shutdownWins : Nat → Bool) : List Attempt × Option ReconnectError :=
  reconnectLoop connectOk shutdownWins 0 (maxReconnectTries + 1)

/-- What may come right after an entry of the retry trace. -/
def Attempt.Follows : Attempt → Attempt → Prop
  | .connect t false, .wait t' s _ => t' = t ∧ s = (t + 3) * 2
  | .wait t _ false, .connect t' _ => t' = t + 1
  | _, _ => False

def Attempt.isConnect : Attempt → Bool
  | .connect _ _ => true
  | .wait _ _ _ => false

theorem getLast?_getD_cons {α : Type} (a d : α) (l : List α) :
    (a :: l).getLast?.getD d = l.getLast?.getD a := by
  rcases List.eq_nil_or_concat' l with rfl | ⟨l, z, rfl⟩
  · rfl
  · rw [← List.cons_append, List.getLast?_concat, List.getLast?_concat]; rfl

/-- The stored `lastRestart` is the last proceeding reading, or the initial value. -/
theorem lockRestart_last (lastRestart : Int) (x : Int) (xs : List Int) :
    (proceeding lastRestart (x :: xs)).getLast?.getD lastRestart =
      (proceeding (lockRestart lastRestart x).2 xs).getLast?.getD (lockRestart lastRestart x).2 := by
  simp only [proceeding, lockRestart]
  split_ifs <;> simp [getLast?_getD_cons]

theorem debounce_append (lastRestart : Int) (xs : List Int) (now : Int) :
    debounce lastRestart (xs ++ [now]) = debounce lastRestart xs ++
      [decide (int64 (now - (proceeding lastRestart xs).getLast?.getD lastRestart) > 500000000)] := by
  induction xs generalizing lastRestart with
  | nil => simp [debounce, proceeding, lockRestart]
  | cons x xs ih => rw [List.cons_append, debounce, ih, debounce, List.cons_append, lockRestart_last]

theorem int64_of_lt {x : Int} (low : -2 ^ 63 ≤ x) (high : x < 2 ^ 63) : int64 x = x := by
  unfold int64
  omega

/-- With readings after 1970, where no int64 difference wraps, the proceeding readings
climb by more than half a second each. -/
theorem proceeding_spaced (lastRestart : Int) (readings : List Int)
    (start : 0 ≤ lastRestart ∧ lastRestart < 2 ^ 63) (range : ∀ r ∈ readings, 0 ≤ r ∧ r < 2 ^ 63) :
    (∀ b ∈ proceeding lastRestart readings, lastRestart + 500000000 < b) ∧
      (proceeding lastRestart readings).Pairwise (fun a b => a + 500000000 < b) := by
  induction readings generalizing lastRestart with
  | nil => simp [proceeding]
  | cons x xs ih =>
    have hx := range x (List.mem_cons_self x xs)
    have rest := fun r m => range r (List.mem_cons_of_mem x m)
    simp only [proceeding, lockRestart]
    split_ifs with locked
    · rw [int64_of_lt (by omega) (by omega)] at locked
      obtain ⟨above, pairwise⟩ := ih x hx rest
      simp only [decide_eq_true_eq] at locked
      refine ⟨fun b m => ?_, List.pairwise_append.mpr ⟨by simp, pairwise, ?_⟩⟩
      · rcases List.mem_append.mp m with m | m
        · simp at m; omega
        · have := above b m; omega
      · intro a m b n; simp at m; subst m; exact above b n
    · simpa using ih lastRestart start rest

/-- The retry trace alternates failed attempts with their waits; it succeeds iff an attempt
did, and fails with too many attempts iff all failed with no wait cut short. -/
theorem reconnectLoop_spec (connectOk shutdownWins : Nat → Bool) {t fuel : Nat}
    (bound : t + fuel = maxReconnectTries + 1) (within : t ≤ maxReconnectTries) :
    (reconnectLoop connectOk shutdownWins t fuel).1.head? = some (.connect t (connectOk t)) ∧
      (reconnectLoop connectOk shutdownWins t fuel).1.Chain' Attempt.Follows ∧
      ((reconnectLoop connectOk shutdownWins t fuel).2 = none ↔
        ∃ t', .connect t' true ∈ (reconnectLoop connectOk shutdownWins t fuel).1) ∧
      ((reconnectLoop connectOk shutdownWins t fuel).2 = some .tooManyAttempts ↔
        (∀ t' ok, .connect t' ok ∈ (reconnectLoop connectOk shutdownWins t fuel).1 → ok = false) ∧
        ∀ t' s b, .wait t' s b ∈ (reconnectLoop connectOk shutdownWins t fuel).1 → b = false) := by
  induction fuel generalizing t with
  | zero => simp only [maxReconnectTries] at bound within; omega
  | succ fuel ih =>
    simp only [reconnectLoop]
    by_cases ok : connectOk t
    · simp [ok, Attempt.Follows]
    · by_cases last : t = maxReconnectTries
      · subst last; simp [ok, Attempt.Follows]
      · by_cases stop : shutdownWins t
        · simp [ok, last, stop, Attempt.Follows]
        · obtain ⟨head, chain, success, exhausted⟩ := ih (t := t + 1) (by omega) (by omega)
          generalize reconnectLoop connectOk shutdownWins (t + 1) fuel = rest at *
          obtain ⟨trace, result⟩ := rest
          cases trace with
          | nil => simp at head
          | cons first trace =>
            simp only [List.head?_cons, Option.some.injEq] at head
            subst head
            simp only [ok, last, stop, Bool.false_eq_true, if_false]
            refine ⟨rfl, ?_, ?_, ?_⟩
            · exact List.chain'_cons.mpr ⟨⟨rfl, rfl⟩, List.chain'_cons.mpr ⟨rfl, chain⟩⟩
            · simpa using success
            · simpa using exhausted

/-- A call proceeds iff its int64 distance to the last proceeding reading exceeds half a
second; a proceeding call retries with (try+3)·2 s waits and fails iff every attempt did. -/
theorem reconnect_debounced_retries :
    (∀ xs now, debounce 0 (xs ++ [now]) = debounce 0 xs ++
      [decide (int64 (now - (proceeding 0 xs).getLast?.getD 0) > 500000000)]) ∧
    (∀ readings : List Int, (∀ r ∈ readings, 0 ≤ r ∧ r < 2 ^ 63) →
      (proceeding 0 readings).Pairwise (fun a b => a + 500000000 < b)) ∧
    ∀ connectOk shutdownWins,
      (reconnectTries connectOk shutdownWins).1.head? = some (.connect 0 (connectOk 0)) ∧
      (reconnectTries connectOk shutdownWins).1.Chain' Attempt.Follows ∧
      ((reconnectTries connectOk shutdownWins).2 = none ↔
        ∃ t, .connect t true ∈ (reconnectTries connectOk shutdownWins).1) ∧
      ((reconnectTries connectOk shutdownWins).2 = some .tooManyAttempts ↔
        (∀ t ok, .connect t ok ∈ (reconnectTries connectOk shutdownWins).1 → ok = false) ∧
        ∀ t s b, .wait t s b ∈ (reconnectTries connectOk shutdownWins).1 → b = false) :=
  ⟨debounce_append 0, fun readings range => (proceeding_spaced 0 readings (by decide) range).2,
    fun connectOk shutdownWins => reconnectLoop_spec connectOk shutdownWins rfl (by decide)⟩

theorem reconnect_debounced_retries_spaced :
    (proceeding 0 [1000000000, 2000000000]).Pairwise (fun a b => a + 500000000 < b) :=
  reconnect_debounced_retries.2.1 [1000000000, 2000000000] (by decide)

/-- A call exactly half a second after the last proceeding one is dropped, and when every
attempt fails `Connect` is called six times. -/
theorem reconnect_half_second_dropped_six_attempts :
    debounce 0 [1000000000, 1500000000] = [true, false] ∧
      ((reconnectTries (fun _ => false) (fun _ => false)).1.filter Attempt.isConnect).length = 6 := by
  decide

end Disgord
