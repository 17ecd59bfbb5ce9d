import GattPeer.Session.Step

/-!
# Runs of a session

A session over a transport is driven by operations on the device, by operations on the transport
itself, and by time, which takes calls to their deadlines. They come in any order, each with the
replies that its surroundings give meanwhile. The log of a run keeps every operation with its
report; the history of the device can be read off it.
-/

namespace GattPeer

/-- What drives a session: an operation on the device, one of type `σ` on the transport, or time. -/
inductive Drive (σ : Type) where
  /-- An operation on the device. -/
  | device (step : Session.Step)
  /-- An operation on the transport. -/
  | transport (step : σ)
  /-- A call reaches its deadline. -/
  | deadline (id : Nat)

/-- A transport with operations of its own, which are of type `σ`. -/
class OperatedTransport (τ : Type) (ρ σ : outParam Type) extends Transport τ ρ where
  /-- Carries out an operation on the transport. -/
  carryOutOwn : σ → Act τ Reading

/-- A direct transport has no operations of its own. -/
instance : OperatedTransport DirectSink DirectReply Empty where
  carryOutOwn step := nomatch step

instance : OperatedTransport BusLink BusReply Session.LinkStep where
  carryOutOwn := Session.carryOutLink

/-- An operation of a run and its report. -/
structure LogEntry (σ : Type) where
  /-- The operation. -/
  drive : Drive σ
  /-- What came of it. -/
  report : Session.Report

variable {τ ρ σ : Type} [OperatedTransport τ ρ σ]

def Drive.act : Drive σ → Act τ Reading
  | .device step => Session.carryOut step
  | .transport step => OperatedTransport.carryOutOwn step
  | .deadline id => do Session.reachDeadline id; return .nothing

namespace Session

def advance (s : Session τ) (replies : List ρ) (drive : Drive σ) : Session τ × Report :=
  s.perform replies drive.act

/-- A run: the session after its operations, and their log. -/
def run (s : Session τ) : List (List ρ × Drive σ) → Session τ × List (LogEntry σ)
  | [] => (s, [])
  | (replies, drive) :: rest =>
    let (next, report) := s.advance replies drive
    let (last, log) := next.run rest
    (last, ⟨drive, report⟩ :: log)

end Session

/-- What happened to the device in the course of a run. -/
def history {σ : Type} (log : List (LogEntry σ)) : List Happening :=
  log.flatMap (·.report.happenings)

end GattPeer
