import GattPeer.Proofs.Session.TransportMap
import GattPeer.Proofs.Session.Registered

/-!
# Watched transports

A session gives its transport commands, and each of them is answered. What a transport makes of a
command is its own affair: it may send something or nothing, and the report of a step tells no more
than that. To tell which commands were given, the transport is watched. A watched transport does
what the transport itself does and keeps a list of the commands with their answers, from the loading
of a script on, so that after a step it holds what was asked in this step. Nothing else depends on
being watched.
-/

namespace GattPeer

open Act (Alongside)

/-- A command that was given to a transport, and its answer. -/
structure Asked where
  /-- The command. -/
  command : Command
  /-- The answer. -/
  answer : Except Failure Value

/-- A transport with what it was asked since its script was loaded. -/
structure Watched (τ : Type) where
  /-- The transport itself. -/
  transport : τ
  /-- What it was asked, in the order of time. -/
  asked : List Asked

namespace Session

variable {τ : Type}

def watched (s : Session τ) : Session (Watched τ) := s.mapTransport fun t ↦ ⟨t, []⟩

def unwatched (s : Session (Watched τ)) : Session τ := s.mapTransport Watched.transport

end Session

/-! ## What a watched transport does -/

namespace Watched

variable {τ ρ σ α : Type}

/-- Carries out an action on the transport itself, which is then asked some more. -/
def watching (more : Except Failure α → List Asked) (act : Act τ α) : Act (Watched τ) α := fun s ↦
  match act s.unwatched with
  | .ok a s' => .ok a (s'.mapTransport fun t ↦ ⟨t, s.transport.asked ++ more (.ok a)⟩)
  | .error failure s' =>
    .error failure (s'.mapTransport fun t ↦ ⟨t, s.transport.asked ++ more (.error failure)⟩)

instance [Transport τ ρ] : Transport (Watched τ) ρ where
  load replies w := ⟨Transport.load replies w.transport, []⟩
  perform command := watching (fun answer ↦ [⟨command, answer⟩]) (Transport.perform command)

instance [OperatedTransport τ ρ σ] : OperatedTransport (Watched τ) ρ σ where
  carryOutOwn step := watching (fun _ ↦ []) (OperatedTransport.carryOutOwn step)

variable (more : Except Failure α → List Asked) (act : Act τ α) (s : Session (Watched τ))

theorem answers_watching : (watching more act).answers s = act.answers s.unwatched := by
  rw [Act.answers, watching, Act.answers]
  cases act s.unwatched <;> rfl

theorem leaves_watching : (watching more act).leaves s
    = (act.leaves s.unwatched).mapTransport fun t ↦
        ⟨t, s.transport.asked ++ more (act.answers s.unwatched)⟩ := by
  rw [Act.leaves, watching, Act.leaves, Act.answers]
  cases act s.unwatched <;> rfl

theorem commutes_watching : Session.Commutes transport (watching more act) act s := by
  constructor
  · rw [answers_watching]
    rfl
  · rw [leaves_watching]
    rfl

end Watched

namespace Session

variable {τ ρ σ : Type} [OperatedTransport τ ρ σ]

theorem isTransportMap_transport : IsTransportMap (Watched.transport : Watched τ → τ) where
  load _ _ := rfl
  perform _ s := Watched.commutes_watching _ _ s
  carryOutOwn _ s := Watched.commutes_watching _ _ s

def calls (s : Session τ) (replies : List ρ) (drive : Drive σ) : List Asked :=
  (s.watched.advance replies drive).1.transport.asked

/-- **Watching changes nothing.** A step leaves the same session and gives the same report, whether
the transport is watched or not. -/
theorem advance_watched (s : Session τ) (replies : List ρ) (drive : Drive σ) :
    s.advance replies drive = ((s.watched.advance replies drive).1.unwatched,
      (s.watched.advance replies drive).2) :=
  isTransportMap_transport.advance s.watched replies drive

/-! ## What an action asks -/

/-- In a session an action asks for something, one after the other, and ends in some way. -/
structure Asks {α : Type} (act : Act (Watched τ) α) (s : Session (Watched τ)) (calls : List Asked)
    (answer : Except Failure α) : Prop where
  answers : act.answers s = answer
  asked : (act.leaves s).transport.asked = s.transport.asked ++ calls

namespace Asks

variable {α β : Type} {s : Session (Watched τ)} {x : Act (Watched τ) α}
  {f : α → Act (Watched τ) β} {xs ys : List Asked}

theorem congr {y : Act (Watched τ) α} {answer : Except Failure α} (h : x s = y s)
    (hy : Asks y s xs answer) : Asks x s xs answer := by
  constructor
  · rw [Act.answers, h]
    exact hy.answers
  · rw [Act.leaves, h]
    exact hy.asked

theorem throw (failure : Failure) :
    Asks (throw failure : Act (Watched τ) α) s [] (.error failure) :=
  ⟨rfl, (List.append_nil _).symm⟩

theorem perform (command : Command) (s : Session (Watched τ)) : Asks (Transport.perform command) s
    [⟨command, (Transport.perform command).answers s.unwatched⟩]
    ((Transport.perform command).answers s.unwatched) := by
  constructor
  · exact Watched.answers_watching ..
  · exact congrArg (fun t : Session (Watched τ) ↦ t.transport.asked) (Watched.leaves_watching ..)

theorem bind_ok {a : α} {answer : Except Failure β} (hx : Asks x s xs (.ok a))
    (hf : Asks (f a) (x.leaves s) ys answer) : Asks (x >>= f) s (xs ++ ys) answer := by
  constructor
  · rw [Act.answers_bind, hx.answers]
    exact hf.answers
  · rw [Act.leaves_bind_eq, hx.answers, ← List.append_assoc, ← hx.asked]
    exact hf.asked

theorem bind_error {failure : Failure} (hx : Asks x s xs (.error failure)) :
    Asks (x >>= f) s xs (.error failure) := by
  constructor
  · rw [Act.answers_bind, hx.answers]
  · rw [Act.leaves_bind_eq, hx.answers]
    exact hx.asked

theorem map {g : α → β} {answer : Except Failure α} (hx : Asks x s xs answer) :
    Asks (x >>= fun a ↦ pure (g a)) s xs (g <$> answer) := by
  constructor
  · rw [Act.answers_return, hx.answers]
  · rw [Act.leaves_return]
    exact hx.asked

end Asks

/-- **What is asked in a step** is what its operation asks, and the step ends in the same way. -/
theorem calls_of_asks {s : Session τ} {replies : List ρ} (drive : Drive σ) {xs : List Asked}
    {answer : Except Failure Reading}
    (h : Asks drive.act (s.watched.loading replies) xs answer) :
    s.calls replies drive = xs ∧ (s.advance replies drive).2.outcome = answer := by
  have hwatched := advance_eq s.watched replies drive
  constructor
  · rw [calls, hwatched]
    exact h.asked
  · rw [advance_watched s, hwatched]
    exact h.answers

end Session

theorem Watched.retains_watching {τ α : Type} (more : Except Failure α → List Asked)
    {act : Act τ α} {s : Session (Watched τ)} (h : act.Keeps Session.Retains s.unwatched) :
    (watching more act).Keeps Session.Retains s := by
  rw [Act.Keeps, leaves_watching]
  exact ⟨h.config, h.announcements⟩

instance {τ ρ σ : Type} [OperatedTransport τ ρ σ] [RetainingTransport τ] :
    RetainingTransport (Watched τ) where
  retains_perform _ _ := Watched.retains_watching _ (RetainingTransport.retains_perform ..)
  retains_carryOutOwn _ _ := Watched.retains_watching _ (RetainingTransport.retains_carryOutOwn ..)

end GattPeer
