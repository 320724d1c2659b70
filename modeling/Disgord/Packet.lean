import Mathlib.Data.UInt
import Mathlib.Data.String.Basic

/-! Wire data of `websocket/client.go`: inbound `discordPacket`, outbound `clientPacket`,
the `Event` handed to consumers and `Emit`'s command table. The constants' packages are
not in the source and are fixed from the spec's tables; the JSON decoders are a parameter. -/
namespace Disgord

/-- Modelled from the spec: the `opcode` package is not in the source. Wire values
follow §4.2; the two internal pseudo-opcodes only need to lie outside the wire set. -/
def opcode.discordEvent : Nat := 0
def opcode.heartbeat : Nat := 1
def opcode.identify : Nat := 2
def opcode.statusUpdate : Nat := 3
def opcode.voiceStateUpdate : Nat := 4
def opcode.resume : Nat := 6
def opcode.reconnect : Nat := 7
def opcode.requestGuildMembers : Nat := 8
def opcode.invalidSession : Nat := 9
def opcode.hello : Nat := 10
def opcode.heartbeatAck : Nat := 11
def opcode.shutdown : Nat := 100
def opcode.close : Nat := 101

/-- From the spec, as the `event` package is not in the source. `event.resume` names both
the Resume command and the RESUMED dispatch. -/
def event.ready : String := "READY"
def event.resume : String := "RESUMED"
def event.shutdown : String := "Shutdown"
def event.close : String := "Close"
def event.heartbeat : String := "Heartbeat"
def event.identify : String := "Identify"
def cmd.requestGuildMembers : String := "RequestGuildMembers"
def cmd.updateVoiceState : String := "VoiceStateUpdate"
def cmd.updateStatus : String := "StatusUpdate"

/-- A frame as parsed by `discordPacket.UnmarshalJSON`; a null `s` or `t` is the zero value. -/
structure DiscordPacket where
  op : Nat
  sequenceNumber : UInt64
  eventName : String
  data : List UInt8
  deriving DecidableEq, Repr

/-- `Event`, the value sent on `eventChan`. -/
structure Event where
  name : String
  data : List UInt8
  deriving DecidableEq, Repr

structure Config where
  token : String
  endpoint : String
  browser : String
  device : String
  guildLargeThreshold : Nat
  shardID : Nat
  shardCount : Nat
  deriving DecidableEq, Repr

/-- The identify payload of `sendIdentityPacket`; `shard` is omitted unless
`ShardCount > 1`. `os` is `runtime.GOOS`. -/
structure IdentityPayload where
  token : String
  os : String
  browser : String
  device : String
  compress : Bool
  largeThreshold : Nat
  shard : Option (Nat × Nat)
  deriving DecidableEq, Repr

def identityPayload (conf : Config) (goos : String) : IdentityPayload :=
  ⟨conf.token, goos, conf.browser, conf.device, false, conf.guildLargeThreshold,
    if conf.shardCount > 1 then some (conf.shardID, conf.shardCount) else none⟩

/-- The `interface{}` data of an outbound packet. `other` is any further non-nil value
a caller of `Emit` may pass. -/
inductive Payload where
  | nil
  | heartbeat (sequence : UInt64)
  | identify (identity : IdentityPayload)
  | resume (token sessionID : String) (sequence : UInt64)
  | other (json : String)
  deriving DecidableEq, Repr

structure ClientPacket where
  op : Nat
  data : Payload
  deriving DecidableEq, Repr

structure ReadyPacket where
  sessionID : String
  trace : List String
  deriving DecidableEq, Repr

structure HelloPacket where
  heartbeatInterval : UInt64
  deriving DecidableEq, Repr

/-- `httd.Unmarshal` into a zeroed value, error ignored as the client does: whatever a
failed decode leaves is the result. -/
structure Codec where
  ready : List UInt8 → ReadyPacket
  hello : List UInt8 → HelloPacket

/-- The `switch command` of `Emit`, in source order. -/
def commandOpcode (command : String) : Option Nat :=
  if command = event.shutdown then some opcode.shutdown
  else if command = event.close then some opcode.close
  else if command = event.heartbeat then some opcode.heartbeat
  else if command = event.identify then some opcode.identify
  else if command = event.resume then some opcode.resume
  else if command = cmd.requestGuildMembers then some opcode.requestGuildMembers
  else if command = cmd.updateVoiceState then some opcode.voiceStateUpdate
  else if command = cmd.updateStatus then some opcode.statusUpdate
  else none

/-- Identify and Resume are the handshake frames of a session. -/
def ClientPacket.isHandshake (q : ClientPacket) : Bool :=
  q.op = opcode.identify || q.op = opcode.resume

end Disgord
