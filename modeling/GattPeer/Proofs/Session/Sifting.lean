import GattPeer.Proofs.Device.Sifting
import GattPeer.Proofs.Session.Moves

/-!
# Sifted sessions

A sieve strikes notices out of the journals of the calls that wait. In a session the same notices
are struck out of the trace, and other events may be struck out or changed with them, as long as
they do not become notices. Then a call that is started keeps the sifted journal, and it goes on in
the sifted session as it does in the session itself.
-/

namespace GattPeer

/-- Whether an event is a notice. -/
def Event.isNotice : Event → Bool
  | .notice .. => true
  | _ => false

theorem Event.eq_notice_of_isNotice {e : Event} (h : e.isNotice = true) :
    ∃ author n, e = .notice author n := by
  cases e with
  | notice author n => exact ⟨author, n, rfl⟩
  | _ => contradiction

theorem Session.callerNotices_cons_of_not_isNotice {e : Event} (h : e.isNotice = false)
    (trace : List Event) : callerNotices (e :: trace) = callerNotices trace := by
  cases e with
  | notice author n => contradiction
  | _ => rfl

theorem Session.withoutCaller_cons_of_not_isNotice {e : Event} (h : e.isNotice = false)
    (trace : List Event) : withoutCaller (e :: trace) = e :: withoutCaller trace := by
  cases e with
  | notice author n => contradiction
  | _ => rfl

/-- A sieve, and what is left of the events of a trace. -/
structure TraceSieve extends Sieve where
  /-- What is left of an event. -/
  event? : Event → Option Event
  /-- The notices are left that are kept. -/
  event?_notice : ∀ author n,
    event? (.notice author n) = if keeps n then some (.notice author n) else none
  /-- What happens to the device is left, with sifted calls. -/
  event?_happening : ∀ h, event? (.happening h) = some (.happening (h.sifted toSieve))
  /-- No other event becomes a notice. -/
  event?_other : ∀ e e', e.isNotice = false → event? e = some e' → e'.isNotice = false

namespace TraceSieve

variable (k : TraceSieve)

@[simp] theorem filterMap_notices (author : Author) (notices : List Notice) :
    (notices.map (Event.notice author)).filterMap k.event?
      = (notices.filter k.keeps).map (Event.notice author) := by
  induction notices with
  | nil => rfl
  | cons n notices ih =>
    rw [List.map_cons, List.filterMap_cons, ih, k.event?_notice]
    cases hn : k.keeps n with
    | true =>
      rw [List.filter_cons_of_pos hn]
      rfl
    | false =>
      rw [List.filter_cons_of_neg (Bool.eq_false_iff.mp hn)]
      rfl

@[simp] theorem filterMap_course (course : List Happening) :
    (course.map Event.happening).filterMap k.event?
      = (course.map (Happening.sifted k.toSieve)).map Event.happening := by
  rw [List.filterMap_map, List.map_map]
  refine Eq.trans (List.filterMap_congr fun h _ ↦ k.event?_happening h) ?_
  exact congrFun List.filterMap_eq_map _

@[simp] theorem callerNotices_filterMap (trace : List Event) :
    Session.callerNotices (trace.filterMap k.event?)
      = (Session.callerNotices trace).filter k.keeps := by
  induction trace with
  | nil => rfl
  | cons e trace ih =>
    cases hnotice : e.isNotice with
    | true =>
      obtain ⟨author, n, rfl⟩ := Event.eq_notice_of_isNotice hnotice
      rw [Session.callerNotices] at ih ⊢
      cases author <;> cases hn : k.keeps n <;>
        simp [k.event?_notice, Session.callerNotices, hn, ih]
    | false =>
      rw [Session.callerNotices_cons_of_not_isNotice hnotice]
      cases hleft : k.event? e with
      | none => rw [List.filterMap_cons_none hleft, ih]
      | some e' =>
        have hother := k.event?_other e e' hnotice hleft
        rw [List.filterMap_cons_some hleft, Session.callerNotices_cons_of_not_isNotice hother, ih]

@[simp] theorem withoutCaller_filterMap (trace : List Event) :
    Session.withoutCaller (trace.filterMap k.event?)
      = (Session.withoutCaller trace).filterMap k.event? := by
  induction trace with
  | nil => rfl
  | cons e trace ih =>
    cases hnotice : e.isNotice with
    | true =>
      obtain ⟨author, n, rfl⟩ := Event.eq_notice_of_isNotice hnotice
      rw [Session.withoutCaller, Session.withoutCaller] at ih ⊢
      cases author <;> cases hn : k.keeps n <;> simp [k.event?_notice, hn, ih]
    | false =>
      rw [Session.withoutCaller_cons_of_not_isNotice hnotice]
      cases hleft : k.event? e with
      | none => rw [List.filterMap_cons_none hleft, List.filterMap_cons_none hleft, ih]
      | some e' =>
        have hother := k.event?_other e e' hnotice hleft
        rw [List.filterMap_cons_some hleft, List.filterMap_cons_some hleft,
          Session.withoutCaller_cons_of_not_isNotice hother, ih]

end TraceSieve

namespace Session

variable {τ τ' : Type} (k : TraceSieve) (f : τ → τ')

/-- A session without what a sieve does not keep, over another transport. -/
def sifted (s : Session τ) : Session τ' where
  config := s.config
  device := s.device.sifted k.toSieve
  token := s.token
  transport := f s.transport
  nextCall := s.nextCall
  trace := s.trace.filterMap k.event?

@[simp]
theorem sifted_changing (s : Session τ) (d : Device) (author : Author) (notices : List Notice)
    (course : List Happening) :
    (s.changing d author notices course).sifted k f = (s.sifted k f).changing
      (d.sifted k.toSieve) author (notices.filter k.keeps)
      (course.map (Happening.sifted k.toSieve)) := by
  simp only [sifted, changing, List.filterMap_append, k.filterMap_notices, k.filterMap_course]

@[simp] theorem sifted_conclude (s : Session τ) (e : EndedCall) :
    (s.conclude e).sifted k f = (s.sifted k f).conclude (e.sifted k.toSieve) := by
  simp only [conclude, sifted, List.filterMap_append, List.filterMap_cons, k.event?_happening]
  rfl

/-- **Beginning to wait does the same.** -/
@[simp] theorem sifted_await (s : Session τ) (c : Call) :
    (s.await c).sifted k f = (s.sifted k f).await (c.sifted k.toSieve) := by
  have hawait : (s.sifted k f).device.monitor.await
      ⟨c.purpose.condition, c.sifted k.toSieve⟩ = _ :=
    s.device.monitor.await_relabel (Call.sifted k.toSieve) ⟨c.purpose.condition, c⟩
  have hpurpose : (c.sifted k.toSieve).purpose = c.purpose := rfl
  rw [await, await, hpurpose, hawait]
  rcases s.device.monitor.await ⟨c.purpose.condition, c⟩ with ⟨monitor, woken | woken⟩
  · dsimp only [Option.map_none]
    split
    · exact (sifted_conclude ..).trans (congrArg _ (s.device.expire_sifted k.toSieve c).symm)
    · split
      · exact sifted_conclude ..
      · rfl
  · dsimp only [Option.map_some]
    rw [sifted_conclude, ← Device.finish_sifted]
    rfl

/-- **A deadline does the same.** -/
theorem sifted_reachDeadline (id : Nat) (s : Session τ) :
    ((reachDeadline id).leaves s).sifted k f = (reachDeadline id).leaves (s.sifted k f) := by
  have hdevice : (s.sifted k f).device = s.device.sifted k.toSieve := rfl
  rw [leaves_reachDeadline, leaves_reachDeadline, hdevice, Device.leftBy_sifted,
    Device.endedAt_sifted, ← k.filterMap_course]
  simp only [sifted, List.filterMap_append]

@[simp] theorem sifted_proceed (s : Session τ) (id : Nat) (journal : List Notice)
    (answer : Except Failure (Option Purpose)) :
    (s.proceed id journal answer).sifted k f
      = (s.sifted k f).proceed id (journal.filter k.keeps) answer := by
  rcases answer with failure | _ | purpose
  · exact sifted_conclude ..
  · exact sifted_conclude ..
  · exact sifted_await ..

@[simp] theorem sifted_rejoining (s s₁ : Session τ) :
    (s.rejoining s₁).sifted k f = (s.sifted k f).rejoining (s₁.sifted k f) := by
  simp only [sifted, rejoining, k.withoutCaller_filterMap, List.filterMap_append]

/-- What the rest of a call leaves alone, and a deadline. -/
structure Framing (s s' : Session τ) : Prop where
  config : s'.config = s.config
  transport : s'.transport = s.transport
  path : s'.device.path = s.device.path
  attributes : s'.device.attributes = s.device.attributes

theorem framing_proceed (s : Session τ) (id : Nat) (journal : List Notice)
    (answer : Except Failure (Option Purpose)) : Framing s (s.proceed id journal answer) := by
  rcases proceed_cases s id journal answer with ⟨_, _, -, hproceed⟩ | ⟨_, -, -, hproceed⟩
  all_goals
    rw [hproceed]
    exact ⟨rfl, rfl, rfl, rfl⟩

theorem framing_reachDeadline (id : Nat) (s : Session τ) :
    Framing s ((reachDeadline id).leaves s) := by
  rw [leaves_reachDeadline]
  exact ⟨rfl, rfl, rfl, rfl⟩

end Session

end GattPeer
