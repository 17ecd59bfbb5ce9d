import GattPeer.Proofs.Device.Replay
import GattPeer.Proofs.Session.Keeps
import GattPeer.Session.Run

/-!
# Operations that pass

An operation *passes* if all that it does to the device are quiet moves: batches that are merged and
announcements that are stored, while no call is touched. Every operation passes but the two that
start a call, over either transport, and also if it fails half-way.

The proofs follow the operations down to the smallest actions, of which only the delivery of a batch
and an announcement touch the device at all.
-/

namespace GattPeer

namespace Session

variable {τ : Type} {s s' : Session τ}

/-- From one session to another by moves of its device. -/
structure Goes (s : Session τ) (moves : List Device.Move) (s' : Session τ) : Prop where
  /-- The settings are the same. -/
  config : s'.config = s.config
  /-- The device is moved. -/
  device : s'.device = (s.device.replay moves).1
  /-- What happens to the device is what the moves make happen. -/
  happenings : s'.happenings = s.happenings ++ (s.device.replay moves).2

/-- From one session to another by quiet moves of its device, without a new call. -/
def Passes (s s' : Session τ) : Prop :=
  s'.nextCall = s.nextCall ∧ ∃ moves, (∀ move ∈ moves, move.isQuiet = true) ∧ s.Goes moves s'

theorem Goes.nil (hconfig : s'.config = s.config) (hdevice : s'.device = s.device)
    (hhappenings : s'.happenings = s.happenings) : s.Goes [] s' :=
  ⟨hconfig, hdevice, hhappenings.trans (List.append_nil _).symm⟩

theorem Goes.append {t : Session τ} {xs ys : List Device.Move} (h : s.Goes xs s')
    (h' : s'.Goes ys t) : s.Goes (xs ++ ys) t := by
  refine ⟨h'.config.trans h.config, ?_, ?_⟩
  · rw [h'.device, h.device, Device.replay_append]
  · rw [h'.happenings, h.happenings, h.device, Device.replay_append, List.append_assoc]

theorem Passes.of_eq (hcall : s'.nextCall = s.nextCall) (hconfig : s'.config = s.config)
    (hdevice : s'.device = s.device) (hhappenings : s'.happenings = s.happenings) :
    s.Passes s' :=
  ⟨hcall, [], nofun, .nil hconfig hdevice hhappenings⟩

instance : IsPreorder (Session τ) Passes where
  refl s := .of_eq rfl rfl rfl rfl
  trans := by
    rintro s s' t ⟨hcall, xs, hxs, hgoes⟩ ⟨hcall', ys, hys, hgoes'⟩
    refine ⟨hcall'.trans hcall, xs ++ ys, ?_, hgoes.append hgoes'⟩
    intro move hmove
    rcases List.mem_append.mp hmove with hmove | hmove
    · exact hxs move hmove
    · exact hys move hmove

/-! ## The smallest actions -/

/-- A session with its device changed, and with what came of it. -/
def changing (s : Session τ) (device : Device) (author : Author) (notices : List Notice)
    (course : List Happening) : Session τ :=
  { s with
    device := device
    trace := s.trace ++ notices.map (Event.notice author) ++ course.map Event.happening }

@[simp] theorem filterMap_happening?_notices (author : Author) (notices : List Notice) :
    (notices.map (Event.notice author)).filterMap Event.happening? = [] := by
  rw [List.filterMap_map]
  exact List.filterMap_eq_nil_iff.mpr fun _ _ ↦ rfl

@[simp] theorem filterMap_happening?_course (course : List Happening) :
    (course.map Event.happening).filterMap Event.happening? = course := by
  rw [List.filterMap_map]
  exact List.filterMap_some

@[simp] theorem happenings_changing (s : Session τ) (device : Device) (author : Author)
    (notices : List Notice) (course : List Happening) :
    (s.changing device author notices course).happenings = s.happenings ++ course := by
  rw [happenings, changing, List.filterMap_append, List.filterMap_append,
    filterMap_happening?_notices, filterMap_happening?_course, List.append_nil]
  rfl

theorem passes_changing_of_make (move : Device.Move) {device : Device} {course : List Happening}
    (hquiet : move.isQuiet = true) (hmake : s.device.make move = (device, course))
    (author : Author) (notices : List Notice) :
    s.Passes (s.changing device author notices course) := by
  refine ⟨rfl, [move], ?_, rfl, ?_, ?_⟩
  · intro move' hmove
    rwa [List.mem_singleton.mp hmove]
  · rw [Device.replay_singleton, hmake]
    rfl
  · rw [happenings_changing, Device.replay_singleton, hmake]

theorem passes_changing_nothing (author : Author) (notices : List Notice) :
    s.Passes (s.changing s.device author notices []) := by
  refine .of_eq rfl rfl rfl ?_
  rw [happenings_changing, List.append_nil]

theorem passes_record {e : Event} (h : e.happening? = none) : (Act.record e).Keeps Passes s := by
  refine .modify (.of_eq rfl rfl rfl ?_)
  change (s.trace ++ [e]).filterMap Event.happening? = _
  rw [List.filterMap_append, List.filterMap_cons, h, List.filterMap_nil, List.append_nil]
  rfl

theorem passes_report (n : Notice) : (Act.report n).Keeps Passes s := passes_record rfl

theorem deliver_apply (author : Author) (batch : Batch) (s : Session τ) :
    Act.deliver author batch s = match s.device.receive batch with
      | .ok result => .ok () (s.changing result.1 author result.2.notices result.2.course)
      | .error failure => .error failure s := by
  unfold Act.deliver
  rw [Act.get_bind_apply]
  cases s.device.receive batch with
  | ok result => rfl
  | error failure => rfl

theorem leaves_deliver {device : Device} {effects : Effects} {batch : Batch}
    (h : s.device.receive batch = .ok (device, effects)) (author : Author) :
    (Act.deliver author batch).leaves s
      = s.changing device author effects.notices effects.course := by
  rw [Act.leaves, deliver_apply, h]

theorem leaves_deliver_of_error {failure : Failure} {batch : Batch}
    (h : s.device.receive batch = .error failure) (author : Author) :
    (Act.deliver author batch).leaves s = s := by
  rw [Act.leaves, deliver_apply, h]

/-- **A delivered batch passes**: it is at most one quiet move. -/
theorem passes_deliver (author : Author) (batch : Batch) :
    (Act.deliver author batch).Keeps Passes s := by
  rw [Act.Keeps]
  cases hreceive : s.device.receive batch with
  | error failure =>
    rw [leaves_deliver_of_error hreceive]
    exact refl_of Passes s
  | ok result =>
    rw [leaves_deliver hreceive]
    rcases Device.receive_eq_ok hreceive with ⟨-, hdevice, hcourse⟩ | ⟨-, hdevice, hcourse⟩
    · rw [hdevice, hcourse]
      exact passes_changing_of_make (.update batch.changes) rfl rfl ..
    · rw [hdevice, hcourse]
      exact passes_changing_nothing ..

theorem leaves_announce (path uuid : String) (flags : PropertyFlags) (s : Session τ) :
    (announce path uuid flags).leaves s = s.changing (s.device.announce path uuid flags).1 .caller
      (s.device.announce path uuid flags).2.1
      ((s.device.announce path uuid flags).2.2.toOption.toList.map Happening.announced) := by
  unfold announce
  rw [Act.leaves_get_bind]
  generalize s.device.announce path uuid flags = result
  exact Act.leaves_discard_ofExcept ..

theorem answers_announce (path uuid : String) (flags : PropertyFlags) (s : Session τ) :
    (announce path uuid flags).answers s
      = (s.device.announce path uuid flags).2.2.map fun _ ↦ () := by
  unfold announce
  rw [Act.answers, Act.get_bind_apply]
  generalize s.device.announce path uuid flags = result
  obtain ⟨d, notices, failure | a⟩ := result
  · rfl
  · rfl

/-- **An announcement passes**, also if it fails. -/
theorem passes_announce (path uuid : String) (flags : PropertyFlags) :
    (announce path uuid flags).Keeps Passes s := by
  rw [Act.Keeps, leaves_announce]
  rcases Device.announce_cases s.device path uuid flags with
    ⟨a, hdevice, houtcome⟩ | ⟨failure, hdevice, houtcome⟩
  · rw [hdevice, houtcome]
    exact passes_changing_of_make (.announce a) rfl rfl ..
  · rw [hdevice, houtcome]
    exact passes_changing_nothing ..

end Session

end GattPeer
