import Disgord.Client

/-! The errors the client's calls return, with the source's texts. The client model keeps
only whether a call went through; each definition here also returns the error, and a
theorem says that it fails exactly where the client model does. The errors of
`getGatewayRoute` and `conn.Open` are the environment's and are passed in as given. -/
namespace Disgord

variable (setup : Setup)

/-- `Emit`'s result: the packet it sends on `emitChan`, or its error. -/
def Client.emitResult (c : Client) (command : String) (data : Payload) (admitted : Bool) :
    Except String ClientPacket :=
  if !c.haveConnectedOnce then
    .error "race condition detected: you must connect to the socket API/Gateway before you can send gateway commands!"
  else match commandOpcode command with
    | none => .error ("unsupported command: " ++ command)
    | some op => if admitted then .ok ⟨op, data⟩ else .error "rate limited"

/-- `Connect`'s error, or none when it opened a connection. -/
def Client.connectError (c : Client) (discovery : Except String String) (opening : Except String Unit) :
    Option String :=
  if !c.disconnected then some "cannot connect while a connection already exist"
  else match (if c.endpoint = "" then discovery else .ok c.endpoint) with
    | .error e => some e
    | .ok _ => match opening with
      | .error e => some e
      | .ok () => none

/-- `Disconnect`'s error: the transport reports itself disconnected, or the client never
connected. -/
def Client.disconnectError (c : Client) (reportsDisconnected : Bool) : Option String :=
  if reportsDisconnected ∨ !c.haveConnectedOnce then some "already disconnected" else none

/-- The text of `reconnect`'s error; after an interrupted backoff it returns the error of
its last `Connect` call. -/
def ReconnectError.text (lastConnect : String) : ReconnectError → String
  | .tooManyAttempts => "Too many reconnect attempts"
  | .connect => lastConnect

/-- `Emit` sends exactly the packet the client model sends, and fails exactly where it
refuses. -/
theorem Client.emitResult_toOption (c : Client) (command : String) (data : Payload) (admitted : Bool) :
    (c.emitResult command data admitted).toOption = c.emit command data admitted := by
  unfold Client.emitResult Client.emit
  split
  · rfl
  · cases commandOpcode command with
    | none => rfl
    | some op => cases admitted <;> rfl

/-- A failed `Emit` leaves the client as it was: nothing is sent or recorded. -/
theorem Client.act_send_of_error {c : Client} {command : String} {data : Payload} {admitted : Bool}
    {message : String} (failed : c.emitResult command data admitted = .error message) :
    c.act setup (.send command data admitted) = some c := by
  have refused : c.emit command data admitted = none := by
    rw [← c.emitResult_toOption, failed]
    rfl
  simp only [Client.act, refused]

/-- `Connect` returns no error exactly when the client model opens a connection, with the
discovered endpoint and the outcome of `Open`. -/
theorem Client.connectError_eq_none_iff (c : Client) (discovery : Except String String)
    (opening : Except String Unit) :
    c.connectError discovery opening = none ↔ (c.connect discovery.toOption opening.isOk).2 = true := by
  unfold Client.connectError Client.connect
  by_cases blank : c.endpoint = "" <;> cases c.disconnected <;> cases discovery <;> cases opening <;>
    simp [blank, Except.toOption, Except.isOk, Except.toBool]

/-- A failed `Connect` changes nothing but the stored endpoint. -/
theorem Client.connect_of_connectError {c : Client} {discovery : Except String String}
    {opening : Except String Unit} {message : String}
    (failed : c.connectError discovery opening = some message) :
    (c.connect discovery.toOption opening.isOk).1 =
      { c with endpoint := (c.connect discovery.toOption opening.isOk).1.endpoint } := by
  have refused : (c.connect discovery.toOption opening.isOk).2 = false := by
    simpa [failed] using (c.connectError_eq_none_iff discovery opening).not
  revert refused
  unfold Client.connect
  split
  · intro; rfl
  · split
    · intro; rfl
    · split
      · intro; rfl
      · intro refused; cases refused

/-- `Disconnect` returns no error exactly when it takes the client lock to send Close; its
error is returned at once, with the lock left free. -/
theorem Client.closeStep_locked_iff {c c' : Client} {i : Nat} {f : Fiber}
    {reportsDisconnected admitted : Bool} {handing : ClientPacket → Fiber} {grace : Fiber}
    (step : c.closeStep i f reportsDisconnected admitted handing grace = some c') :
    c.disconnectError reportsDisconnected = none ↔ c'.locked = true := by
  unfold Client.closeStep at step
  split_ifs at step with locked early
  · cases step
    refine iff_of_false (by rw [Client.disconnectError, if_pos early]; exact Option.some_ne_none _) ?_
    unfold Client.returnFrom
    split <;> exact locked
  · dsimp only at step
    refine iff_of_true (if_neg early) ?_
    split at step <;> cases step <;> rfl

end Disgord
