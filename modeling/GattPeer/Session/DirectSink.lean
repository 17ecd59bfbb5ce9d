import GattPeer.Session

/-!
# A transport that carries out commands directly

Each command is carried out as it is, and the surroundings answer it from a script. While a command
is being carried out, property changes may reach the device; they arrive in the course of the
caller.
-/

namespace GattPeer

inductive DirectAnswer where
  /-- By a value, or by the usual one for the command. -/
  | value (v : Option Value)
  /-- By a failure. -/
  | failure (f : Failure)

structure DirectReply where
  /-- The batches that reach the device before the answer. -/
  during : List Batch
  /-- The answer. -/
  answer : DirectAnswer

/-- A transport that carries out commands directly. -/
structure DirectSink where
  /-- The replies to the next commands. -/
  replies : List DirectReply

namespace DirectSink

def usualReply : DirectReply := ⟨[], .value none⟩

/-- The usual answer to a command: a byte, a token, or nothing. -/
def usualAnswer : Command → Value
  | .readValue .. => .bytes [0x64]
  | .addMatch _ => .int 7
  | _ => .none

def nextReply : Act DirectSink DirectReply := do
  let s ← get
  set { s with transport := { s.transport with replies := s.transport.replies.tail } }
  return s.transport.replies.head?.getD usualReply

def perform (c : Command) : Act DirectSink Value := do
  .record (.sent (.command c))
  let reply ← nextReply
  reply.during.forM (.deliver .caller)
  match reply.answer with
  | .value v => return v.getD (usualAnswer c)
  | .failure f => throw f

instance : Transport DirectSink DirectReply where
  load replies sink := { sink with replies := replies }
  perform := perform

end DirectSink

end GattPeer
