import Disgord.Demux

/-! A gateway server as the spec's glossary describes it, over one in-order connection
to the client's demultiplexer. Identify starts a fresh session numbered from 1, and Resume
continues after the resumed number; a reconnect the client spawns is recorded only. -/
namespace Disgord

/-- The server's live session, as its id and the number of its next dispatch. -/
structure Server where
  session : Option (String × UInt64)
  started : Nat
  deriving DecidableEq, Repr

/-- Server and client joined by the two directions of one connection. -/
structure Wire where
  server : Server
  client : Session
  toClient : List DiscordPacket
  toServer : List ClientPacket
  identifyTimers : Nat
  rejected : Nat
  deriving DecidableEq, Repr

/-- A scheduler choice: a server move, the client's `operationHandlers` taking the
oldest frame, or a sleeping InvalidSession goroutine waking to send its Identify. -/
inductive WireAction where
  | hello
  | dispatch (name : String) (data : List UInt8)
  | invalidate
  | serve
  | deliver (now : Nat)
  | wake
  deriving DecidableEq, Repr

variable (setup : Setup) (sessionName : Nat → String) (encode : String → List UInt8)

/-- An `Emit` call that reaches the wire: the command's opcode with its data. -/
def Effect.frame : Effect → List ClientPacket
  | .emit command data => match commandOpcode command with
    | some op => [⟨op, data⟩]
    | none => []
  | _ => []

/-- The server's answer to the client's oldest frame. -/
def Server.serve (s : Server) (q : ClientPacket) : Server × List DiscordPacket :=
  if q.op = opcode.identify then
    let id := sessionName s.started
    (⟨some (id, 2), s.started + 1⟩, [⟨opcode.discordEvent, 1, event.ready, encode id⟩])
  else if q.op = opcode.resume then
    match q.data, s.session with
    | .resume _ sid seq, some (live, _) =>
      if sid = live then (⟨some (live, seq + 1), s.started⟩, [])
      else (⟨none, s.started⟩, [⟨opcode.invalidSession, 0, "", []⟩])
    | _, _ => (⟨none, s.started⟩, [⟨opcode.invalidSession, 0, "", []⟩])
  else if q.op = opcode.heartbeat then (s, [⟨opcode.heartbeatAck, 0, "", []⟩])
  else (s, [])

def Wire.step (w : Wire) : WireAction → Option Wire
  | .hello => some { w with toClient := w.toClient ++ [⟨opcode.hello, 0, "", []⟩] }
  | .dispatch name data => match w.server.session with
    | some (id, next) => some { w with
        server := ⟨some (id, next + 1), w.server.started⟩,
        toClient := w.toClient ++ [⟨opcode.discordEvent, next, name, data⟩] }
    | none => none
  | .invalidate => some { w with
      server := ⟨none, w.server.started⟩,
      toClient := w.toClient ++ [⟨opcode.invalidSession, 0, "", []⟩] }
  | .serve => match w.toServer with
    | q :: rest =>
      let (server, frames) := w.server.serve sessionName encode q
      some { w with server := server, toServer := rest, toClient := w.toClient ++ frames }
    | [] => none
  | .deliver now => match w.toClient with
    | p :: rest =>
      let (client, effects) := Disgord.step setup w.client (.packet p now)
      some { w with
        client := client, toClient := rest,
        toServer := w.toServer ++ effects.flatMap Effect.frame,
        identifyTimers := w.identifyTimers + (effects.filter (· = .identifyLater)).length,
        rejected := w.rejected +
          if p.op = opcode.discordEvent ∧ passes w.client p = false then 1 else 0 }
    | [] => none
  | .wake =>
    if 0 < w.identifyTimers then
      some { w with identifyTimers := w.identifyTimers - 1,
                    toServer := w.toServer ++ (sendIdentityPacket setup).frame }
    else none

def Wire.run (w : Wire) : List WireAction → Option Wire
  | [] => some w
  | a :: as => (w.step setup sessionName encode a).bind (·.run as)

def Wire.initial : Wire := ⟨⟨none, 0⟩, .initial, [], [], 0, 0⟩

/-- After Identify, READY 1, InvalidSession and the delayed re-Identify, the server's
fresh session again starts at 1, and the client, still at 1, rejects its READY. -/
theorem reidentify_rejects_fresh_session :
    (Wire.initial.run
      ⟨⟨"T", "", "", "", 0, 0, 0⟩, "linux",
        ⟨fun d => ⟨String.mk (d.map fun b => Char.ofNat b.toNat), []⟩, fun _ => ⟨45000⟩⟩⟩
      (fun n => String.mk [Char.ofNat (97 + n)]) (fun id => id.toList.map fun c => c.toNat.toUInt8)
      [.hello, .deliver 0, .serve, .deliver 0, .invalidate, .deliver 0, .wake, .serve, .deliver 0]).map
        (fun w => (w.rejected, w.client.sequenceNumber, w.server.session)) =
      some (1, 1, some ("b", 2)) := by
  decide

end Disgord
