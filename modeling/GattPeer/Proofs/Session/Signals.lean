import GattPeer.Proofs.Device.Batch
import GattPeer.Proofs.Session.Transports
import Mathlib.Data.List.Basic
import Mathlib.Data.List.Flatten

/-!
# What a signal does

A message that the link handles is told to everyone who listens for its path, in the order of their
registrations, if it is the signal of a property change that carries a batch; otherwise it is told
to nobody. Being told changes the device and nobody else, so that what a signal does to a session
can be said by an equation: the device goes through its reactions, once for each of its own matches,
and what comes of it is added to the trace.
-/

namespace GattPeer

/-! ## Merged batches -/

/-- The changes that something that happens merges. -/
def Happening.merged? : Happening → Option Changes
  | .merged changes => some changes
  | _ => none

theorem Happening.merged?_of_belongs {h : Happening} (hbelongs : h.belongs = true) :
    h.merged? = none := by
  cases h with
  | merged changes => exact nomatch hbelongs
  | _ => rfl

def Session.merges {τ : Type} (s : Session τ) : List Changes :=
  s.happenings.filterMap Happening.merged?

def Session.Report.merges (r : Report) : List Changes :=
  r.happenings.filterMap Happening.merged?

namespace Device

/-- What a device makes of a batch that it is told, and what is seen of it. -/
def reaction (d : Device) (batch : Batch) : Device × List Event :=
  match d.receive batch with
  | .ok (next, effects) =>
    (next, effects.notices.map (Event.notice .bus) ++ effects.course.map Event.happening)
  | .error _ => (d, [.notice .bus (.callbackFailed batch.path)])

@[simp] theorem filterMap_merged_update (d : Device) (changes : Changes) :
    (d.update changes).2.course.filterMap Happening.merged? = [changes] := by
  obtain ⟨rest, hcourse⟩ := exists_rest_of_update d changes
  have hrest : rest.filterMap Happening.merged? = [] :=
    List.filterMap_eq_nil_iff.mpr fun h hh ↦
      Happening.merged?_of_belongs (belongs_of_update hcourse h hh)
  rw [hcourse]
  exact congrArg (changes :: ·) hrest

/-- The changes in a batch that a device merges if it is told of it: a batch about an attribute or
about another device is not merged. -/
def changesFor? (d : Device) (batch : Batch) : Option Changes :=
  if d.subject batch.path = .device then some batch.changes else none

theorem changesFor?_eq_of_path {d d' : Device} (h : d'.path = d.path) :
    d'.changesFor? = d.changesFor? := by
  funext batch
  rw [changesFor?, changesFor?, subject_eq_of_path h]

/-- **A device that is told of a batch merges what is for it**, and nothing else. -/
theorem merged_reaction (d : Device) (batch : Batch) :
    ((d.reaction batch).2.filterMap Event.happening?).filterMap Happening.merged?
      = (d.changesFor? batch).toList := by
  rw [reaction, changesFor?]
  cases hreceive : d.receive batch with
  | error failure =>
    rw [if_neg (subject_ne_of_receive_eq_error hreceive)]
    rfl
  | ok result =>
    rw [List.filterMap_append, Session.filterMap_happening?_notices,
      Session.filterMap_happening?_course, List.nil_append]
    rcases receive_eq_ok hreceive with ⟨hsubject, -, heffects⟩ | ⟨hsubject, -, heffects⟩
    · rw [heffects, if_pos hsubject]
      exact filterMap_merged_update d batch.changes
    · rw [heffects, if_neg hsubject]
      rfl

@[simp]
theorem path_reaction (d : Device) (batch : Batch) : (d.reaction batch).1.path = d.path := by
  rw [reaction]
  cases hreceive : d.receive batch with
  | error failure => rfl
  | ok result =>
    rcases receive_eq_ok hreceive with ⟨-, hdevice, -⟩ | ⟨-, hdevice, -⟩
    · rw [hdevice]
      exact path_update d batch.changes
    · rw [hdevice]

end Device

/-! ## Listeners -/

namespace Listener

def isDevice : Listener → Bool
  | .device => true
  | .callback .. => false

/-- What a batch does that a listener is told: the device after it, and what is seen of it. -/
def told (batch : Batch) (d : Device) : Listener → Device × List Event
  | .device => d.reaction batch
  | .callback name failure =>
    (d, .callback ⟨name, batch.path, batch.changes, batch.invalidated⟩ ::
      if failure.isSome then [.notice .bus (.callbackFailed batch.path)] else [])

/-- What a batch does that listeners are told one after the other. -/
def toldAll (batch : Batch) (d : Device) : List Listener → Device × List Event
  | [] => (d, [])
  | listener :: listeners =>
    let (next, events) := listener.told batch d
    let (last, more) := toldAll batch next listeners
    (last, events ++ more)

theorem toldAll_cons (batch : Batch) (d : Device) (listener : Listener)
    (listeners : List Listener) :
    toldAll batch d (listener :: listeners)
      = ((toldAll batch (listener.told batch d).1 listeners).1,
        (listener.told batch d).2 ++ (toldAll batch (listener.told batch d).1 listeners).2) := rfl

theorem eq_device_of_isDevice {listener : Listener} (h : listener.isDevice = true) :
    listener = .device := by
  cases listener with
  | device => rfl
  | callback name failure => exact nomatch h

theorem told_of_not_isDevice {listener : Listener} (h : listener.isDevice = false) (batch : Batch)
    (d : Device) : (listener.told batch d).1 = d ∧
      ∀ e ∈ (listener.told batch d).2, e.happening? = none := by
  cases listener with
  | device => exact nomatch h
  | callback name failure =>
    refine ⟨rfl, fun e he ↦ ?_⟩
    rw [told] at he
    rcases List.mem_cons.mp he with rfl | he
    · rfl
    · split at he
      · rw [List.mem_singleton.mp he]
        rfl
      · exact absurd he List.not_mem_nil

theorem toldAll_of_no_device {listeners : List Listener}
    (h : listeners.filter isDevice = []) (batch : Batch) (d : Device) :
    (toldAll batch d listeners).1 = d ∧
      ∀ e ∈ (toldAll batch d listeners).2, e.happening? = none := by
  induction listeners with
  | nil => exact ⟨rfl, List.forall_mem_nil _⟩
  | cons listener listeners ih =>
    obtain ⟨hlistener, hlisteners⟩ := List.forall_mem_cons.mp (List.filter_eq_nil_iff.mp h)
    obtain ⟨hdevice, hevents⟩ :=
      told_of_not_isDevice (Bool.eq_false_iff.mpr hlistener) batch d
    obtain ⟨hrest, hmore⟩ := ih (List.filter_eq_nil_iff.mpr hlisteners)
    rw [toldAll_cons, hdevice]
    refine ⟨hrest, fun e he ↦ ?_⟩
    rcases List.mem_append.mp he with he | he
    · exact hevents e he
    · exact hmore e he

theorem toldAll_of_one_device {listeners : List Listener}
    (h : (listeners.filter isDevice).length = 1) (batch : Batch) (d : Device) :
    (toldAll batch d listeners).1 = (d.reaction batch).1 ∧
      ∃ xs ys, (toldAll batch d listeners).2 = xs ++ (d.reaction batch).2 ++ ys ∧
        ∀ e ∈ xs ++ ys, e.happening? = none := by
  induction listeners with
  | nil => exact nomatch h
  | cons listener listeners ih =>
    rw [toldAll_cons]
    cases hlistener : listener.isDevice with
    | true =>
      rw [List.filter_cons_of_pos hlistener, List.length_cons, Nat.succ_inj] at h
      obtain rfl := eq_device_of_isDevice hlistener
      obtain ⟨hrest, hmore⟩ :=
        toldAll_of_no_device (List.eq_nil_of_length_eq_zero h) batch (d.reaction batch).1
      exact ⟨hrest, [], _, rfl, hmore⟩
    | false =>
      rw [List.filter_cons_of_neg (Bool.eq_false_iff.mp hlistener)] at h
      obtain ⟨hdevice, hevents⟩ := told_of_not_isDevice hlistener batch d
      obtain ⟨hrest, xs, ys, hmore, hquiet⟩ := ih h
      rw [hdevice]
      refine ⟨hrest, (listener.told batch d).2 ++ xs, ys, ?_, fun e he ↦ ?_⟩
      · rw [hmore, List.append_assoc, List.append_assoc, List.append_assoc]
      · rw [List.append_assoc] at he
        rcases List.mem_append.mp he with he | he
        · exact hevents e he
        · exact hquiet e he

@[simp] theorem path_told (listener : Listener) (batch : Batch) (d : Device) :
    (listener.told batch d).1.path = d.path := by
  cases listener with
  | device => exact d.path_reaction batch
  | callback name failure => rfl

@[simp] theorem path_toldAll (listeners : List Listener) (batch : Batch) (d : Device) :
    (toldAll batch d listeners).1.path = d.path := by
  induction listeners generalizing d with
  | nil => rfl
  | cons listener listeners ih => exact (ih _).trans (path_told ..)

/-- **A batch is merged as many times as the device is among those who are told**, if there is
something for the device in it. -/
theorem merged_toldAll (listeners : List Listener) (batch : Batch) (d : Device) :
    ((toldAll batch d listeners).2.filterMap Event.happening?).filterMap Happening.merged?
      = (List.replicate (listeners.filter isDevice).length
        (d.changesFor? batch).toList).flatten := by
  induction listeners generalizing d with
  | nil => rfl
  | cons listener listeners ih =>
    rw [toldAll_cons, List.filterMap_append, List.filterMap_append, ih,
      Device.changesFor?_eq_of_path (path_told ..)]
    cases hlistener : listener.isDevice with
    | true =>
      obtain rfl := eq_device_of_isDevice hlistener
      rw [List.filter_cons_of_pos hlistener, List.length_cons, List.replicate_succ,
        List.flatten_cons, told, Device.merged_reaction]
    | false =>
      obtain ⟨-, hevents⟩ := told_of_not_isDevice hlistener batch d
      rw [List.filter_cons_of_neg (Bool.eq_false_iff.mp hlistener),
        List.filterMap_eq_nil_iff.mpr hevents]
      rfl

end Listener

/-! ## Matches of the device -/

def Match.isOwn (m : Match) : Bool := m.listener.isDevice

namespace BusLink

/-- The device is told about a path once for each match of its own that is for the path. -/
theorem length_filter_listeners (link : BusLink) (path : String) :
    ((link.listeners path).filter Listener.isDevice).length
      = ((link.table.filter Match.isOwn).filter
          fun m ↦ ObjectPath.isWithin path m.path).length := by
  rw [listeners, List.filter_map, List.length_map, List.filter_filter, List.filter_filter]
  congr 2
  funext m
  exact Bool.and_comm ..

theorem filter_listeners_eq_nil {link : BusLink} (h : link.table.filter Match.isOwn = [])
    (path : String) : (link.listeners path).filter Listener.isDevice = [] := by
  refine List.eq_nil_of_length_eq_zero ?_
  rw [length_filter_listeners, h]
  rfl

/-! ## Messages -/

/-- The batch that a message carries if it is a well-formed signal of a property change. -/
def carried? (m : Message) : Option Batch :=
  if isPropertySignal m then
    (parts? m.body).bind fun parts ↦ (batch m.path parts.1 parts.2).toOption
  else none

/-- A session in which a batch was told to listeners. -/
def telling (s : Session BusLink) (batch : Batch) (listeners : List Listener) : Session BusLink :=
  { s with
    device := (Listener.toldAll batch s.device listeners).1
    trace := s.trace ++ (Listener.toldAll batch s.device listeners).2 }

theorem tell_eq (batch : Batch) (listener : Listener) (s : Session BusLink) :
    tell batch listener s = .ok () (telling s batch [listener]) := by
  cases listener with
  | device =>
    rw [telling, Listener.toldAll_cons, Listener.toldAll, List.append_nil, Listener.told,
      Device.reaction]
    change EStateM.bind (Act.deliver .bus batch).attempt _ s = _
    rw [EStateM.bind, Act.attempt, Session.deliver_apply]
    cases s.device.receive batch with
    | error failure => rfl
    | ok result =>
      simp only [Session.changing, List.append_assoc]
      rfl
  | callback name failure =>
    rw [telling, Listener.toldAll_cons, Listener.toldAll, List.append_nil, Listener.told]
    cases failure with
    | none => rfl
    | some f =>
      rw [List.append_cons]
      rfl

theorem forM_tell_eq (batch : Batch) (listeners : List Listener) (s : Session BusLink) :
    listeners.forM (tell batch) s = .ok () (telling s batch listeners) := by
  induction listeners generalizing s with
  | nil =>
    rw [telling, Listener.toldAll, List.append_nil]
    rfl
  | cons listener listeners ih =>
    change (tell batch listener >>= fun _ ↦ listeners.forM (tell batch)) s = _
    rw [Act.bind_apply, tell_eq]
    change listeners.forM (tell batch) (telling s batch [listener]) = _
    rw [ih]
    simp only [telling, Listener.toldAll, List.append_nil, List.append_assoc]

theorem parts_of_carried {m : Message} {b : Batch} (h : carried? m = some b) :
    isPropertySignal m = true ∧ ∃ changed invalidated,
      parts? m.body = some (changed, invalidated) ∧ batch m.path changed invalidated = .ok b := by
  unfold carried? at h
  split at h
  · next hsignal =>
    obtain ⟨⟨changed, invalidated⟩, hparts, hbatch⟩ := Option.bind_eq_some_iff.mp h
    refine ⟨hsignal, changed, invalidated, hparts, ?_⟩
    cases hread : batch m.path changed invalidated with
    | error failure =>
      rw [hread] at hbatch
      exact absurd hbatch.symm (Option.some_ne_none b)
    | ok b' =>
      rw [hread] at hbatch
      rw [Option.some.inj hbatch]
  · exact absurd h.symm (Option.some_ne_none b)

theorem path_batch {path : String} {changed invalidated : Value} {b : Batch}
    (h : batch path changed invalidated = .ok b) : b.path = path := by
  unfold batch at h
  split at h
  · split at h
    · obtain ⟨changes, -, hbatch⟩ := FallibleSort.bind_eq_ok.mp h
      rw [← Except.ok.inj hbatch]
    · exact nomatch h
  · split at h
    · obtain ⟨changes, -, hbatch⟩ := FallibleSort.bind_eq_ok.mp h
      exact nomatch hbatch
    · exact nomatch h

/-- **A well-formed signal is told to everyone who listens for its path.** -/
theorem handle_of_carried {m : Message} {b : Batch} (h : carried? m = some b)
    (s : Session BusLink) :
    handle m s = .ok () (telling s b (s.transport.listeners m.path)) := by
  obtain ⟨hsignal, changed, invalidated, hparts, hbatch⟩ := parts_of_carried h
  rw [handle, if_pos hsignal, hparts]
  change (Act.ofExcept (batch m.path changed invalidated) >>= _) s = _
  rw [hbatch]
  exact forM_tell_eq ..

theorem handle_signalOf_of_not_carried {b : Batch} (h : carried? (signalOf b) = none)
    (s : Session BusLink) : ∃ failure, handle (signalOf b) s = .error failure s := by
  have hcarried : carried? (signalOf b)
      = (batch b.path (.map b.changes) (.list b.invalidated)).toOption := rfl
  have hhandle : handle (signalOf b) s
      = (Act.ofExcept (batch b.path (.map b.changes) (.list b.invalidated)) >>= fun told ↦
        current >>= fun link ↦ (link.listeners b.path).forM (tell told)) s := rfl
  rw [hcarried] at h
  cases hread : batch b.path (.map b.changes) (.list b.invalidated) with
  | ok told =>
    rw [hread] at h
    exact nomatch h
  | error failure =>
    rw [hhandle, hread]
    exact ⟨failure, rfl⟩

theorem leaves_handle_of_not_carried {m : Message} (h : carried? m = none)
    (s : Session BusLink) :
    ∃ events, (∀ e ∈ events, e.happening? = none) ∧
      (handle m).leaves s = { s with trace := s.trace ++ events } := by
  have hnothing : s = { s with trace := s.trace ++ [] } := by rw [List.append_nil]
  unfold handle
  split
  · next hsignal =>
    rw [carried?, if_pos hsignal] at h
    split
    · refine ⟨[.notice .bus (.malformedSignal m.path)], fun e he ↦ ?_, rfl⟩
      rw [List.mem_singleton.mp he]
      rfl
    · next changed invalidated hparts =>
      rw [hparts, Option.bind_some] at h
      cases hread : batch m.path changed invalidated with
      | ok b =>
        rw [hread] at h
        exact nomatch h
      | error failure => exact ⟨[], List.forall_mem_nil _, hnothing⟩
  · exact ⟨[], List.forall_mem_nil _, hnothing⟩

theorem path_of_carried {m : Message} {b : Batch} (h : carried? m = some b) : b.path = m.path := by
  obtain ⟨-, changed, invalidated, -, hbatch⟩ := parts_of_carried h
  exact path_batch hbatch

/-- What a device hears of a message while matches are registered: the changes for it that the
message carries, once for each match of the device that is for the path of the message. -/
def heard (d : Device) (table : List Match) (m : Message) : List Changes :=
  match carried? m with
  | none => []
  | some b =>
    (List.replicate
      ((table.filter Match.isOwn).filter fun x ↦ ObjectPath.isWithin m.path x.path).length
      (d.changesFor? b).toList).flatten

theorem heard_eq_of_path {d d' : Device} (h : d'.path = d.path) : heard d' = heard d := by
  funext table m
  rw [heard, heard, Device.changesFor?_eq_of_path h]

theorem heard_of_no_own {table : List Match} (h : table.filter Match.isOwn = []) (d : Device)
    (m : Message) : heard d table m = [] := by
  rw [heard, h]
  cases carried? m with
  | none => rfl
  | some b => rfl

theorem heard_of_own_eq {d : Device} {table : List Match} {own : Match}
    (h : table.filter Match.isOwn = [own]) (hpath : own.path = d.path) (m : Message) :
    heard d table m = ((carried? m).bind d.changesFor?).toList := by
  rw [heard, h]
  cases hcarried : carried? m with
  | none => rfl
  | some b =>
    rw [Option.bind_some]
    cases hwithin : ObjectPath.isWithin m.path own.path with
    | true =>
      rw [List.filter_cons_of_pos (p := fun x : Match ↦ ObjectPath.isWithin m.path x.path) hwithin]
      exact List.append_nil _
    | false =>
      -- What is not for the path of the device is about another device.
      have hforeign : d.changesFor? b = none := by
        rw [Device.changesFor?, path_of_carried hcarried, Device.subject, ← hpath, hwithin]
        rfl
      change (List.replicate _ (d.changesFor? b).toList).flatten = (d.changesFor? b).toList
      rw [hforeign]
      exact List.flatten_replicate_nil

theorem heard_sublist {table : List Match} (h : (table.filter Match.isOwn).length ≤ 1)
    (d : Device) (m : Message) :
    (heard d table m).Sublist ((carried? m).toList.map (·.changes)) := by
  rw [heard]
  cases carried? m with
  | none => exact List.Sublist.refl _
  | some b =>
    have hchanges : (d.changesFor? b).toList.Sublist [b.changes] := by
      rw [Device.changesFor?]
      split
      · exact List.Sublist.refl _
      · exact List.nil_sublist _
    change (List.replicate _ (d.changesFor? b).toList).flatten.Sublist [b.changes]
    generalize hcount : ((table.filter Match.isOwn).filter
      fun x ↦ ObjectPath.isWithin m.path x.path).length = count
    have hle : count ≤ 1 := hcount ▸ List.filter_sublist.length_le.trans h
    rcases Nat.le_one_iff_eq_zero_or_eq_one.mp hle with rfl | rfl
    · exact List.nil_sublist _
    · rw [List.replicate_one, List.flatten_singleton]
      exact hchanges

theorem flatMap_heard_sublist {table : List Match}
    (h : (table.filter Match.isOwn).length ≤ 1) (d : Device) (signals : List Message) :
    (signals.flatMap (heard d table)).Sublist
      (signals.filterMap fun m ↦ (carried? m).map (·.changes)) := by
  rw [List.filterMap_eq_flatMap_toList]
  refine List.Sublist.flatMap_right signals fun m _ ↦ ?_
  have hheard := heard_sublist h d m
  rwa [← Option.toList_map] at hheard

/-- **What a message does**: it may change the device, though not its path, and the device merges by
it what it hears. -/
theorem exists_leaves_handle (m : Message) (s : Session BusLink) :
    ∃ device events, (handle m).leaves s = { s with device := device, trace := s.trace ++ events } ∧
      device.path = s.device.path ∧
      (events.filterMap Event.happening?).filterMap Happening.merged?
        = heard s.device s.transport.table m := by
  rw [heard]
  cases hcarried : carried? m with
  | none =>
    obtain ⟨events, hquiet, hleaves⟩ := leaves_handle_of_not_carried hcarried s
    refine ⟨s.device, events, hleaves, rfl, ?_⟩
    rw [List.filterMap_eq_nil_iff.mpr hquiet]
    rfl
  | some b =>
    refine ⟨(Listener.toldAll b s.device (s.transport.listeners m.path)).1,
      (Listener.toldAll b s.device (s.transport.listeners m.path)).2, ?_, ?_, ?_⟩
    · rw [Act.leaves, handle_of_carried hcarried]
      rfl
    · exact Listener.path_toldAll ..
    · rw [← length_filter_listeners]
      exact Listener.merged_toldAll ..

end BusLink

end GattPeer
