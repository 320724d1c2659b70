import Disgord.Demux

/-! The pulsator's guard `AllowedToStartPulsating` / `StopPulsating`, each call one step
under `pulseMutex`, and the ticker the admitted fiber derives from the Hello packet's
`heartbeat_interval`. -/
namespace Disgord

/-- Take the token if it is free; admitted iff the token now equals this id. -/
def allowedToStartPulsating (pulsating serviceID : UInt8) : UInt8 × Bool :=
  let pulsating := if pulsating = 0 then serviceID else pulsating
  (pulsating, pulsating == serviceID)

def stopPulsating (pulsating serviceID : UInt8) : UInt8 :=
  if pulsating = serviceID then 0 else pulsating

/-- Go's signed 64-bit arithmetic: results wrap modulo 2^64 into [-2^63, 2^63). -/
def int64 (x : Int) : Int := (x + 2 ^ 63) % 2 ^ 64 - 2 ^ 63

/-- `time.Millisecond * time.Duration(m.heartbeatInterval)` in nanoseconds. -/
def tickerInterval (heartbeatInterval : UInt64) : Int :=
  int64 (1000000 * int64 heartbeatInterval.toNat)

/-- `time.NewTicker` panics unless its interval is positive. -/
def newTicker (d : Int) : Except String Int :=
  if d ≤ 0 then .error "non-positive interval for NewTicker" else .ok d

/-- The ticker `pulsate` creates from the interval stored by the last Hello. -/
def pulsatorTicker (s : Session) : Except String Int := newTicker (tickerInterval s.heartbeatInterval)

/-- A Hello leaving `heartbeat_interval` at 0 makes the pulsator call `NewTicker(0)`, which
panics; from 9223372036855 ms the nanosecond product wraps negative. -/
theorem hello_zero_interval_ticker_panics :
    let sample : Setup := ⟨⟨"T", "", "", "", 0, 0, 0⟩, "linux", ⟨fun _ => ⟨"", []⟩, fun _ => ⟨0⟩⟩⟩
    (step sample .initial (.packet ⟨opcode.hello, 0, "", []⟩ 0)).1.heartbeatInterval = 0 ∧
      pulsatorTicker (step sample .initial (.packet ⟨opcode.hello, 0, "", []⟩ 0)).1 =
        .error "non-positive interval for NewTicker" ∧
      tickerInterval 9223372036855 < 0 :=
  ⟨rfl, rfl, by decide⟩

end Disgord
