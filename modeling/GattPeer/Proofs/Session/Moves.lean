import GattPeer.Proofs.Session.Calls

/-!
# The moves of a session

Every step of a session moves its device, and its report tells what the moves made happen. A step
that starts a call makes quiet moves while its first part is carried out, and then one more, by
which the call looks at the connection state or ends. So a whole run is a replay of moves, in which
every call that looks at the state belongs to the step that was answered by its number.
-/

namespace GattPeer

namespace Session

variable {τ : Type} {s : Session τ}

/-! ## Calls -/

theorem goes_conclude (s : Session τ) (id : Nat) (failure : Option Failure)
    (journal : List Notice) :
    s.Goes [.close id failure journal]
      (s.conclude ⟨id, failure.elim (.ok .nothing) .error, journal⟩) := by
  exact ⟨rfl, rfl, happenings_conclude ..⟩

theorem goes_call {s' : Session τ} {call : Call} {course : List Happening}
    (hconfig : s'.config = s.config) (hmake : s.device.make (.call call) = (s'.device, course))
    (hhappenings : s'.happenings = s.happenings ++ course) : s.Goes [.call call] s' := by
  refine ⟨hconfig, ?_, ?_⟩
  · rw [Device.replay_singleton, hmake]
  · rw [Device.replay_singleton, hmake, hhappenings]

/-- **A call that starts to wait makes one move**: it looks at the state, or it ends for want of
time. -/
theorem goes_await (s : Session τ) (call : Call) :
    s.Goes [.call call] (s.await call) ∨
      ∃ failure journal, s.Goes [.close call.id (some failure) journal] (s.await call) := by
  have hreact := Device.react_waiter call s.device.state
  rcases await_cases s call with
    ⟨hmet, hawait⟩ | ⟨hunmet, ⟨failure, notices, -, hawait⟩ | ⟨-, hawait⟩⟩
  · rw [if_pos hmet] at hreact
    rw [hawait]
    refine .inl (goes_call rfl ?_ (happenings_conclude ..))
    rw [Device.make, hreact]
    rfl
  · rw [hawait]
    exact .inr ⟨failure, notices, goes_conclude s call.id (some failure) notices⟩
  · rw [hunmet, if_neg Bool.false_ne_true] at hreact
    rw [hawait]
    refine .inl (goes_call rfl ?_ (List.append_nil _).symm)
    rw [Device.make, hreact]

theorem goes_proceed (s : Session τ) (id : Nat) (journal : List Notice)
    (answer : Except Failure (Option Purpose)) :
    ∃ move, s.Goes [move] (s.proceed id journal answer) ∧
      (∀ c, .call c = move → c.id = id ∧ answer = .ok (some c.purpose)) ∧
      ∀ id, .deadline id ≠ move := by
  cases answer with
  | error failure => exact ⟨_, goes_conclude s id (some failure) journal, nofun, nofun⟩
  | ok purpose =>
    cases purpose with
    | none => exact ⟨_, goes_conclude s id none journal, nofun, nofun⟩
    | some purpose =>
      rcases goes_await s ⟨id, purpose, journal⟩ with hgoes | ⟨failure, notices, hgoes⟩
      · refine ⟨_, hgoes, fun c hc ↦ ?_, nofun⟩
        rw [Device.Move.call.inj hc]
        exact ⟨rfl, rfl⟩
      · exact ⟨_, hgoes, nofun, nofun⟩

/-- What a session goes through in the first part of a call it goes through altogether. -/
theorem goes_rejoining {s₁ : Session τ} {moves : List Device.Move}
    (h : s.requesting.Goes moves s₁) : s.Goes moves (s.rejoining s₁) := by
  refine ⟨h.config, h.device, ?_⟩
  have hduring : s₁.happenings = (s.device.replay moves).2 := h.happenings
  rw [happenings, rejoining, List.filterMap_append, filterMap_withoutCaller, ← hduring]
  rfl

/-- **Starting a call moves the device**: quietly, and then by the call itself. -/
theorem exists_moves_spawn {request : Act τ (Option Purpose)}
    (hrequest : request.Keeps Passes s.requesting) :
    ∃ moves, s.Goes moves ((spawn request).leaves s) ∧
      (∀ c, .call c ∈ moves →
        c.id = s.nextCall ∧ request.answers s.requesting = .ok (some c.purpose)) ∧
      ∀ id, .deadline id ∉ moves := by
  obtain ⟨-, quiet, hquiet, hgoes⟩ := hrequest
  obtain ⟨move, hmove, hcall, htimely⟩ := goes_proceed
    (s.rejoining (request.leaves s.requesting)) s.nextCall
    (callerNotices (request.leaves s.requesting).trace) (request.answers s.requesting)
  have hleaves : (spawn request).leaves s = (s.rejoining (request.leaves s.requesting)).proceed
      s.nextCall (callerNotices (request.leaves s.requesting).trace)
      (request.answers s.requesting) := by
    rw [Act.leaves, spawn_eq]
  refine ⟨quiet ++ [move], ?_, ?_, ?_⟩
  · rw [hleaves]
    exact (goes_rejoining hgoes).append hmove
  · intro c hc
    rcases List.mem_append.mp hc with hc | hc
    · exact absurd (hquiet _ hc) Bool.false_ne_true
    · exact hcall c (List.mem_singleton.mp hc)
  · intro id hid
    rcases List.mem_append.mp hid with hid | hid
    · exact absurd (hquiet _ hid) Bool.false_ne_true
    · exact htimely id (List.mem_singleton.mp hid)

theorem goes_reachDeadline (id : Nat) (s : Session τ) :
    s.Goes [.deadline id] ((reachDeadline id).leaves s) := by
  rw [leaves_reachDeadline]
  refine ⟨rfl, ?_, ?_⟩
  · rw [Device.replay_singleton, Device.make, Device.reachDeadline_eq]
  · rw [happenings, List.filterMap_append, filterMap_happening?_course, Device.replay_singleton,
      Device.make, Device.reachDeadline_eq]
    rfl

end Session

/-! ## Steps -/

namespace Drive

variable {τ ρ σ : Type} [OperatedTransport τ ρ σ] {drive : Drive σ}

def startsCall : Drive σ → Bool
  | .device (.connect _) | .device (.discover ..) => true
  | _ => false

def isDeadline : Drive σ → Bool
  | .deadline _ => true
  | _ => false

theorem exists_eq_deadline (h : drive.isDeadline = true) : ∃ id, drive = .deadline id := by
  unfold isDeadline at h
  split at h
  · exact ⟨_, rfl⟩
  · exact absurd h Bool.false_ne_true

/-- The purposes of the call that an operation starts. -/
def Starts : Drive σ → Purpose → Prop
  | .device (.connect _), purpose => ∃ budget left, purpose = .connect budget left
  | .device (.discover first last), purpose => purpose = .discover first last
  | _, _ => False

theorem Starts.startsCall {purpose : Purpose} (h : drive.Starts purpose) :
    drive.startsCall = true := by
  unfold Starts at h
  split at h
  · rfl
  · rfl
  · exact h.elim

theorem act_eq_spawn (τ : Type) [OperatedTransport τ ρ σ] [PassingTransport τ]
    (h : drive.startsCall = true) :
    ∃ request : Act τ (Option Purpose),
      drive.act = (do return .number (← Session.spawn request)) ∧
      (∀ s, request.Keeps Session.Passes s) ∧
      request.Gives fun answer ↦ ∀ purpose, answer = some purpose → drive.Starts purpose := by
  unfold startsCall at h
  split at h
  · next elapsed =>
    exact ⟨_, rfl, fun s ↦ Session.kept_passes.requestConnection elapsed,
      Session.gives_requestConnection elapsed⟩
  · next first last =>
    refine ⟨Session.requestServices first last, rfl, fun s ↦ ?_, ?_⟩
    · exact Session.kept_passes.requestServices ..
    · refine .bind fun s ↦ .bind fun _ ↦ .pure fun purpose hpurpose ↦ ?_
      exact (Option.some.inj hpurpose).symm
  · exact absurd h Bool.false_ne_true

theorem passes_act [PassingTransport τ] (h : drive.startsCall = false)
    (htimely : drive.isDeadline = false) (s : Session τ) :
    drive.act.Keeps Session.Passes s := by
  cases drive with
  | transport step => exact PassingTransport.passes_carryOutOwn step s
  | deadline id => exact nomatch htimely
  | device step =>
    refine Session.passes_carryOut ?_ ?_
    · rintro elapsed rfl
      exact absurd h.symm Bool.false_ne_true
    · rintro first last rfl
      exact absurd h.symm Bool.false_ne_true

theorem leaves_act_deadline (id : Nat) (s : Session τ) :
    (Drive.deadline id : Drive σ).act.leaves s = (Session.reachDeadline id).leaves s :=
  Act.leaves_return _ (fun _ ↦ Reading.nothing) _

end Drive

namespace Session

variable {τ ρ σ : Type} [OperatedTransport τ ρ σ] {s : Session τ}

def loading (s : Session τ) (replies : List ρ) : Session τ :=
  { s with transport := Transport.load replies s.transport, trace := [] }

theorem advance_eq (s : Session τ) (replies : List ρ) (drive : Drive σ) :
    s.advance replies drive = (drive.act.leaves (s.loading replies),
      ⟨drive.act.answers (s.loading replies), (drive.act.leaves (s.loading replies)).trace,
        (drive.act.leaves (s.loading replies)).device.state⟩) := by
  have hloading : s.loading replies
      = { s with transport := Transport.load replies s.transport, trace := [] } := rfl
  rw [advance, perform, ← hloading, Act.leaves, Act.answers]
  cases drive.act (s.loading replies) with
  | ok reading s' => rfl
  | error failure s' => rfl

theorem advance_of_ok {replies : List ρ} {drive : Drive σ} {reading : Reading} {s' : Session τ}
    (h : drive.act (s.loading replies) = .ok reading s') :
    s.advance replies drive = (s', ⟨.ok reading, s'.trace, s'.device.state⟩) := by
  rw [advance_eq, Act.leaves, Act.answers, h]

theorem advance_of_error {replies : List ρ} {drive : Drive σ} {failure : Failure}
    {s' : Session τ} (h : drive.act (s.loading replies) = .error failure s') :
    s.advance replies drive = (s', ⟨.error failure, s'.trace, s'.device.state⟩) := by
  rw [advance_eq, Act.leaves, Act.answers, h]

theorem happenings_advance (s : Session τ) (replies : List ρ) (drive : Drive σ) :
    (s.advance replies drive).1.happenings = (s.advance replies drive).2.happenings := by
  rw [advance_eq]
  rfl

@[simp] theorem device_deadline (s : Session τ) (replies : List ρ) (id : Nat) :
    (s.advance replies (.deadline id)).1.device = s.device.leftBy id := by
  rw [advance_eq]
  dsimp only
  rw [Drive.leaves_act_deadline, leaves_reachDeadline]
  rfl

@[simp] theorem happenings_deadline (s : Session τ) (replies : List ρ) (id : Nat) :
    (s.advance replies (.deadline id)).2.happenings = s.device.endedAt id := by
  rw [← happenings_advance, advance_eq]
  dsimp only
  rw [Drive.leaves_act_deadline, leaves_reachDeadline, happenings, List.filterMap_append,
    filterMap_happening?_course]
  rfl

theorem spawn_number_eq (request : Act τ (Option Purpose)) (s : Session τ) :
    (do return .number (← spawn request) : Act τ Reading) s
      = .ok (.number s.nextCall) ((spawn request).leaves s) := by
  rw [Act.bind_apply, Act.leaves, spawn_eq]
  rfl

theorem leaves_act_of_spawn {drive : Drive σ} {request : Act τ (Option Purpose)}
    (h : drive.act = (do return .number (← spawn request) : Act τ Reading)) (s : Session τ) :
    drive.act.leaves s = (s.rejoining (request.leaves s.requesting)).proceed s.nextCall
      (callerNotices (request.leaves s.requesting).trace) (request.answers s.requesting) := by
  rw [h, Act.leaves, spawn_number_eq, Act.leaves, spawn_eq]

theorem run_cons (s : Session τ) (replies : List ρ) (drive : Drive σ)
    (drives : List (List ρ × Drive σ)) :
    s.run ((replies, drive) :: drives) = (((s.advance replies drive).1.run drives).1,
      ⟨drive, (s.advance replies drive).2⟩ :: ((s.advance replies drive).1.run drives).2) := rfl

theorem history_run_cons (s : Session τ) (replies : List ρ) (drive : Drive σ)
    (drives : List (List ρ × Drive σ)) :
    history (s.run ((replies, drive) :: drives)).2
      = (s.advance replies drive).2.happenings
        ++ history ((s.advance replies drive).1.run drives).2 := rfl

@[simp] theorem run_append (s : Session τ) (xs ys : List (List ρ × Drive σ)) :
    (s.run (xs ++ ys)).1 = ((s.run xs).1.run ys).1 := by
  induction xs generalizing s with
  | nil => rfl
  | cons head xs ih =>
    obtain ⟨replies, drive⟩ := head
    rw [List.cons_append, run_cons, run_cons]
    exact ih _

@[simp] theorem log_append (s : Session τ) (xs ys : List (List ρ × Drive σ)) :
    (s.run (xs ++ ys)).2 = (s.run xs).2 ++ ((s.run xs).1.run ys).2 := by
  induction xs generalizing s with
  | nil => rfl
  | cons head xs ih =>
    obtain ⟨replies, drive⟩ := head
    rw [List.cons_append, run_cons, run_cons]
    exact congrArg (_ :: ·) (ih _)

theorem exists_run_of_log_eq {drives : List (List ρ × Drive σ)} {xs ys : List (LogEntry σ)}
    (h : (s.run drives).2 = xs ++ ys) :
    ∃ before after, drives = before ++ after ∧ (s.run before).2 = xs ∧
      ((s.run before).1.run after).2 = ys := by
  induction xs generalizing s drives with
  | nil => exact ⟨[], drives, rfl, rfl, h⟩
  | cons x xs ih =>
    cases drives with
    | nil => exact absurd h.symm (List.cons_ne_nil _ _)
    | cons head drives =>
      obtain ⟨replies, drive⟩ := head
      rw [run_cons, List.cons_append] at h
      obtain ⟨hx, hrest⟩ := List.cons.inj h
      obtain ⟨before, after, rfl, hbefore, hafter⟩ := ih hrest
      refine ⟨(replies, drive) :: before, after, rfl, ?_, hafter⟩
      rw [run_cons, hx, hbefore]

theorem run_append_singleton (s : Session τ) (drives : List (List ρ × Drive σ))
    (replies : List ρ) (drive : Drive σ) :
    (s.run (drives ++ [(replies, drive)])).1 = ((s.run drives).1.advance replies drive).1 :=
  run_append ..

variable [PassingTransport τ]

/-- **A step that starts a call is answered by its number**, and no later one is. -/
theorem advance_of_startsCall (s : Session τ) (replies : List ρ) {drive : Drive σ}
    (h : drive.startsCall = true) :
    (s.advance replies drive).2.outcome = .ok (.number s.nextCall) ∧
      (s.advance replies drive).1.nextCall = s.nextCall + 1 := by
  obtain ⟨request, hact, hpasses, -⟩ := Drive.act_eq_spawn τ h
  rw [advance_eq, hact]
  simp only [Act.answers, Act.leaves, spawn_number_eq]
  refine ⟨rfl, ?_⟩
  rw [spawn_eq, nextCall_proceed]
  exact (hpasses _).1

theorem advance_of_not_startsCall (s : Session τ) (replies : List ρ) {drive : Drive σ}
    (h : drive.startsCall = false) : (s.advance replies drive).1.nextCall = s.nextCall := by
  rw [advance_eq]
  cases htime : drive.isDeadline with
  | false => exact (Drive.passes_act h htime _).1
  | true =>
    obtain ⟨id, rfl⟩ := Drive.exists_eq_deadline htime
    dsimp only
    rw [Drive.leaves_act_deadline, leaves_reachDeadline]
    rfl

theorem nextCall_le_advance (s : Session τ) (replies : List ρ) (drive : Drive σ) :
    s.nextCall ≤ (s.advance replies drive).1.nextCall := by
  cases h : drive.startsCall with
  | true => exact Nat.le.intro (advance_of_startsCall s replies h).2.symm
  | false => exact Nat.le_of_eq (advance_of_not_startsCall s replies h).symm

theorem exists_goes_act (s : Session τ) (drive : Drive σ) :
    ∃ moves, s.Goes moves (drive.act.leaves s) ∧
      (∀ c, .call c ∈ moves → c.id = s.nextCall ∧ drive.Starts c.purpose) ∧
      ∀ id, .deadline id ∈ moves → drive = .deadline id := by
  cases h : drive.startsCall with
  | true =>
    obtain ⟨request, hact, hpasses, hgives⟩ := Drive.act_eq_spawn τ h
    obtain ⟨moves, hgoes, hcalls, htimely⟩ := exists_moves_spawn (hpasses s.requesting)
    refine ⟨moves, ?_, fun c hc ↦ ⟨(hcalls c hc).1, hgives _ _ (hcalls c hc).2 _ rfl⟩,
      fun id hid ↦ absurd hid (htimely id)⟩
    rw [hact, Act.leaves, spawn_number_eq]
    exact hgoes
  | false =>
    cases htime : drive.isDeadline with
    | true =>
      obtain ⟨id, rfl⟩ := Drive.exists_eq_deadline htime
      refine ⟨[.deadline id], ?_, by simp, by simp⟩
      rw [Drive.leaves_act_deadline]
      exact goes_reachDeadline id s
    | false =>
      obtain ⟨-, moves, hquiet, hgoes⟩ := Drive.passes_act h htime s
      exact ⟨moves, hgoes, fun c hc ↦ absurd (hquiet _ hc) Bool.false_ne_true,
        fun id hid ↦ absurd (hquiet _ hid) Bool.false_ne_true⟩

/-- **A step moves the device**, and its report tells what happens by the moves. -/
theorem exists_moves_advance (s : Session τ) (replies : List ρ) (drive : Drive σ) :
    ∃ moves, s.device.replay moves
        = ((s.advance replies drive).1.device, (s.advance replies drive).2.happenings) ∧
      (∀ c, .call c ∈ moves → c.id = s.nextCall ∧ drive.Starts c.purpose) ∧
      ∀ id, .deadline id ∈ moves → drive = .deadline id := by
  obtain ⟨moves, hgoes, hmoves⟩ := exists_goes_act (s.loading replies) drive
  refine ⟨moves, ?_, hmoves⟩
  rw [advance_eq]
  exact Prod.ext hgoes.device.symm (hgoes.happenings.symm)

@[simp] theorem config_advance (s : Session τ) (replies : List ρ) (drive : Drive σ) :
    (s.advance replies drive).1.config = s.config := by
  obtain ⟨moves, hgoes, -⟩ := exists_goes_act (s.loading replies) drive
  rw [advance_eq]
  exact hgoes.config

/-! ## Runs -/

/-- **A run is a replay of moves**, whose calls belong to steps of the run. -/
theorem exists_moves_run (s : Session τ) (drives : List (List ρ × Drive σ)) :
    ∃ moves, s.device.replay moves = ((s.run drives).1.device, history (s.run drives).2) ∧
      ∀ c, .call c ∈ moves → ∃ entry ∈ (s.run drives).2,
        entry.drive.Starts c.purpose ∧ entry.report.outcome = .ok (.number c.id) := by
  induction drives generalizing s with
  | nil => exact ⟨[], rfl, nofun⟩
  | cons head drives ih =>
    obtain ⟨replies, drive⟩ := head
    obtain ⟨xs, hxs, hcalls, -⟩ := exists_moves_advance s replies drive
    obtain ⟨ys, hys, hcalls'⟩ := ih (s.advance replies drive).1
    refine ⟨xs ++ ys, ?_, fun c hc ↦ ?_⟩
    · rw [Device.replay_append, hxs, hys, run_cons]
      rfl
    · rw [run_cons]
      rcases List.mem_append.mp hc with hc | hc
      · obtain ⟨hid, hstarts⟩ := hcalls c hc
        refine ⟨_, List.mem_cons_self, hstarts, ?_⟩
        rw [hid]
        exact (advance_of_startsCall s replies hstarts.startsCall).1
      · obtain ⟨entry, hentry, hstarts⟩ := hcalls' c hc
        exact ⟨entry, List.mem_cons_of_mem _ hentry, hstarts⟩

@[simp] theorem config_run_eq (s : Session τ) (drives : List (List ρ × Drive σ)) :
    (s.run drives).1.config = s.config := by
  induction drives generalizing s with
  | nil => rfl
  | cons head drives ih =>
    obtain ⟨replies, drive⟩ := head
    rw [run_cons, ih, config_advance]

/-- **What every move keeps, every run keeps**, whoever calls. -/
theorem law_run {I : List Happening → Device → Prop} (law : Device.Law (fun _ ↦ True) I)
    (hs : I [] s.device) (drives : List (List ρ × Drive σ)) :
    I (history (s.run drives).2) (s.run drives).1.device := by
  obtain ⟨moves, hmoves, -⟩ := exists_moves_run s drives
  have hreplayed := law.replay (fun c (_ : .call c ∈ moves) ↦ trivial) hs
  rwa [hmoves] at hreplayed

theorem nextCall_le_number {drives : List (List ρ × Drive σ)} {entry : LogEntry σ} {id : Nat}
    (hentry : entry ∈ (s.run drives).2) (hstarts : entry.drive.startsCall = true)
    (hid : entry.report.outcome = .ok (.number id)) : s.nextCall ≤ id := by
  induction drives generalizing s with
  | nil => exact absurd hentry List.not_mem_nil
  | cons head drives ih =>
    obtain ⟨replies, drive⟩ := head
    rw [run_cons] at hentry
    rcases List.mem_cons.mp hentry with rfl | hentry
    · rw [(advance_of_startsCall s replies hstarts).1] at hid
      cases hid
      exact Nat.le_refl _
    · exact Nat.le_trans (nextCall_le_advance s replies drive) (ih hentry)

/-- **A number belongs to one step.** -/
theorem entry_eq_of_number {drives : List (List ρ × Drive σ)} {x y : LogEntry σ} {id : Nat}
    (hx : x ∈ (s.run drives).2) (hy : y ∈ (s.run drives).2)
    (hxstarts : x.drive.startsCall = true) (hystarts : y.drive.startsCall = true)
    (hxid : x.report.outcome = .ok (.number id)) (hyid : y.report.outcome = .ok (.number id)) :
    x = y := by
  induction drives generalizing s with
  | nil => exact absurd hx List.not_mem_nil
  | cons head drives ih =>
    obtain ⟨replies, drive⟩ := head
    rw [run_cons] at hx hy
    -- The number of a first step is below all later ones.
    have hfirst : ∀ {z : LogEntry σ}, z ∈ ((s.advance replies drive).1.run drives).2 →
        z.drive.startsCall = true → z.report.outcome = .ok (.number id) →
        drive.startsCall = true → (s.advance replies drive).2.outcome ≠ .ok (.number id) := by
      intro z hz hzstarts hzid hstarts hnumber
      have hle := nextCall_le_number hz hzstarts hzid
      obtain ⟨houtcome, hnext⟩ := advance_of_startsCall s replies hstarts
      rw [houtcome] at hnumber
      cases hnumber
      omega
    rcases List.mem_cons.mp hx with rfl | hx
    · rcases List.mem_cons.mp hy with rfl | hy
      · rfl
      · exact absurd hxid (hfirst hy hystarts hyid hxstarts)
    · rcases List.mem_cons.mp hy with rfl | hy
      · exact absurd hyid (hfirst hx hxstarts hxid hystarts)
      · exact ih hx hy

end Session

end GattPeer
