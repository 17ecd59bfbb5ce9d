import GattPeer.Proofs.Device.Reports
import GattPeer.Proofs.Device.Wrapped
import GattPeer.Proofs.Session.Signals
import Mathlib.Logic.Function.Iterate

/-!
# Dispatch of signals

A well-formed signal of changed properties is told to everyone whose match is for its path, to each
once for each match, in the order of the matches. Whoever fails is reported, and the others are told
all the same, so that it does not matter to them who fails. The matches stay as they are.

A body that does not have three parts is reported and told to nobody. A body of three parts may
still be unreadable: its second part is no mapping, or a mapping under something that cannot be a
key, or its third part has no items. Then the handler fails before it tells anyone.
-/

namespace GattPeer

/-! ## What is seen -/

def Event.isFailureReport : Event → Bool
  | .notice _ (.callbackFailed _) => true
  | _ => false

def Event.callbackRun? : Event → Option CallbackRun
  | .callback run => some run
  | _ => none

theorem Event.isFailureReport_notice {n : Notice} (h : n.BeyondLink) (author : Author) :
    (Event.notice author n).isFailureReport = false := by
  cases n with
  | callbackFailed path => exact absurd rfl h
  | _ => rfl

/-! ## Those who are told -/

namespace Listener

def fails (d : Device) (batch : Batch) : Listener → Bool
  | .device => !(d.receive batch).isOk
  | .callback _ failure => failure.isSome

/-- What a listener is called with that is told of a batch, if it is a callback. -/
def run? (batch : Batch) : Listener → Option CallbackRun
  | .device => none
  | .callback name _ => some ⟨name, batch.path, batch.changes, batch.invalidated⟩

/-- The listener, but a callback does not fail. -/
def steady : Listener → Listener
  | .device => .device
  | .callback name _ => .callback name none

theorem fails_eq_of_path {d d' : Device} (h : d'.path = d.path) (batch : Batch) :
    fails d' batch = fails d batch := by
  funext listener
  cases listener with
  | callback name failure => rfl
  | device =>
    have hsubject : d'.subject batch.path = d.subject batch.path :=
      congrFun (Device.subject_eq_of_path h) batch.path
    rw [fails, fails, Device.receive, Device.receive, hsubject]
    rcases d.subject batch.path
    · rfl
    · cases Value.sortKeys (batch.changes.map (·.1)) <;> rfl
    · rfl

variable (batch : Batch) (d : Device) (listener : Listener) (listeners : List Listener)

/-- What is seen of a device that is told of a batch is the report that it failed, or else neither
such a report nor the run of a callback. -/
theorem reaction_cases :
    (fails d batch .device = true ∧
      (d.reaction batch).2 = [.notice .bus (.callbackFailed batch.path)]) ∨
    (fails d batch .device = false ∧
      ∀ e ∈ (d.reaction batch).2, e.isFailureReport = false ∧ e.callbackRun? = none) := by
  rw [fails, Device.reaction]
  cases hreceive : d.receive batch with
  | error failure => exact .inl ⟨rfl, rfl⟩
  | ok result =>
    refine .inr ⟨rfl, List.forall_mem_append.mpr ⟨fun e he ↦ ?_, fun e he ↦ ?_⟩⟩
    · obtain ⟨n, hn, rfl⟩ := List.mem_map.mp he
      exact ⟨Event.isFailureReport_notice (Device.beyondLink_receive hreceive n hn) .bus, rfl⟩
    · obtain ⟨h, -, rfl⟩ := List.mem_map.mp he
      exact ⟨rfl, rfl⟩

theorem failureReports_told :
    (listener.told batch d).2.filter Event.isFailureReport
      = if listener.fails d batch then [.notice .bus (.callbackFailed batch.path)] else [] := by
  cases listener with
  | callback name failure => cases failure <;> rfl
  | device =>
    rw [told]
    rcases reaction_cases batch d with ⟨hfails, hseen⟩ | ⟨hfails, hseen⟩
    · rw [hfails, hseen]
      rfl
    · rw [hfails, List.filter_eq_nil_iff.mpr fun e he ↦ Bool.eq_false_iff.mp (hseen e he).1]
      rfl

theorem callbackRuns_told :
    (listener.told batch d).2.filterMap Event.callbackRun? = (listener.run? batch).toList := by
  cases listener with
  | callback name failure => cases failure <;> rfl
  | device =>
    rw [told]
    rcases reaction_cases batch d with ⟨-, hseen⟩ | ⟨-, hseen⟩
    · rw [hseen]
      rfl
    · exact List.filterMap_eq_nil_iff.mpr fun e he ↦ (hseen e he).2

theorem told_steady :
    (listener.steady.told batch d).1 = (listener.told batch d).1 ∧
      (listener.steady.told batch d).2.filter (fun e ↦ !e.isFailureReport)
        = (listener.told batch d).2.filter fun e ↦ !e.isFailureReport := by
  cases listener with
  | device => exact ⟨rfl, rfl⟩
  | callback name failure => cases failure <;> exact ⟨rfl, rfl⟩

/-- **Whoever fails is reported**, once for each time that it was told. -/
theorem failureReports_toldAll :
    (toldAll batch d listeners).2.filter Event.isFailureReport
      = (listeners.filter (fails d batch)).map
        fun _ ↦ .notice .bus (.callbackFailed batch.path) := by
  induction listeners generalizing d with
  | nil => rfl
  | cons listener listeners ih =>
    rw [toldAll_cons, List.filter_append, failureReports_told, ih,
      fails_eq_of_path (path_told listener batch d)]
    cases hfails : listener.fails d batch with
    | true =>
      rw [List.filter_cons_of_pos hfails]
      rfl
    | false =>
      rw [List.filter_cons_of_neg (Bool.eq_false_iff.mp hfails)]
      rfl

/-- **The callbacks run in their order**, each once, with the batch. -/
theorem callbackRuns_toldAll :
    (toldAll batch d listeners).2.filterMap Event.callbackRun?
      = listeners.filterMap (run? batch) := by
  induction listeners generalizing d with
  | nil => rfl
  | cons listener listeners ih =>
    rw [toldAll_cons, List.filterMap_append, callbackRuns_told, ih]
    cases hrun : listener.run? batch with
    | none =>
      rw [List.filterMap_cons_none hrun]
      rfl
    | some run =>
      rw [List.filterMap_cons_some hrun]
      rfl

/-- **The device reacts once** for each time that it is among those who are told. -/
theorem device_toldAll :
    (toldAll batch d listeners).1
      = (fun d ↦ (d.reaction batch).1)^[(listeners.filter isDevice).length] d := by
  induction listeners generalizing d with
  | nil => rfl
  | cons listener listeners ih =>
    rw [toldAll_cons, ih]
    cases listener with
    | callback name failure => rfl
    | device =>
      rw [List.filter_cons_of_pos rfl, List.length_cons, Function.iterate_succ_apply]
      rfl

/-- **It does not matter who fails**: the device is left the same, and the same is seen besides the
reports of failures. -/
theorem toldAll_steady :
    (toldAll batch d (listeners.map steady)).1 = (toldAll batch d listeners).1 ∧
      (toldAll batch d (listeners.map steady)).2.filter (fun e ↦ !e.isFailureReport)
        = (toldAll batch d listeners).2.filter fun e ↦ !e.isFailureReport := by
  induction listeners generalizing d with
  | nil => exact ⟨rfl, rfl⟩
  | cons listener listeners ih =>
    obtain ⟨hdevice, hevents⟩ := told_steady batch d listener
    obtain ⟨hrest, hmore⟩ := ih (listener.told batch d).1
    rw [List.map_cons, toldAll_cons, toldAll_cons, hdevice]
    refine ⟨hrest, ?_⟩
    rw [List.filter_append, List.filter_append, hevents, hmore]

end Listener

/-! ## Bodies -/

namespace BusLink

/-- What the second and the third part of a body have to be: a mapping under what can be keys, and
something that has items. -/
def Readable (changed invalidated : Value) : Prop :=
  (∃ entries, changed.entries? = some entries ∧ ∀ e ∈ entries, e.1.keyObstacle? = none) ∧
    (items? invalidated).isSome = true

/-- A signal of changed properties as it ought to be: it has three parts, of which the second is a
mapping with distinct keys and the third has items. -/
structure WellFormed (m : Message) (entries : Changes) (names : List Value) : Prop where
  signal : isPropertySignal m = true
  body : ∃ interfaceName changed invalidated,
    items? m.body = some [interfaceName, changed, invalidated] ∧
      changed.entries? = some entries ∧ items? invalidated = some names
  storable : ∀ e ∈ entries, e.1.keyObstacle? = none
  distinct : entries.Pairwise fun a e ↦ Value.equal a.1 e.1 = false

theorem WellFormed.carried {m : Message} {entries : Changes} {names : List Value}
    (h : WellFormed m entries names) :
    carried? m = some ⟨m.path, entries.map fun e ↦ (e.1, e.2.unwrapOnce), names⟩ := by
  obtain ⟨interfaceName, changed, invalidated, hbody, hchanged, hinvalidated⟩ := h.body
  have hparts : parts? m.body = some (changed, invalidated) := by
    rw [parts?, hbody]
  have hbatch : batch m.path changed invalidated
      = .ok ⟨m.path, entries.map fun e ↦ (e.1, e.2.unwrapOnce), names⟩ := by
    rw [batch, hchanged]
    change (Value.storeEntries entries >>= _) = _
    rw [Value.storeEntries_of_distinct h.storable h.distinct, hinvalidated]
    rfl
  rw [carried?, if_pos h.signal, hparts, Option.bind_some, hbatch]
  rfl

variable {changed invalidated : Value}

theorem exists_batch_of_readable (h : Readable changed invalidated) (path : String) :
    ∃ b, batch path changed invalidated = .ok b := by
  obtain ⟨⟨entries, hchanged, hkeys⟩, hitems⟩ := h
  obtain ⟨names, hnames⟩ := Option.isSome_iff_exists.mp hitems
  obtain ⟨changes, hstored⟩ := Value.exists_storeEntries_iff.mpr hkeys
  rw [batch, hchanged]
  change ∃ b, (Value.storeEntries entries >>= _) = .ok b
  rw [hstored, hnames]
  exact ⟨⟨path, changes, names⟩, rfl⟩

theorem exists_failure_of_not_readable (h : ¬Readable changed invalidated) (path : String) :
    ∃ failure, batch path changed invalidated = .error failure ∧
      (failure = .notAMapping changed.kindName ∨ (∃ kind, failure = .notAKey kind) ∨
        failure = .notIterable invalidated.kindName) := by
  rw [batch]
  cases hchanged : changed.entries? with
  | none => exact ⟨_, rfl, .inl rfl⟩
  | some entries =>
    change ∃ failure, (Value.storeEntries entries >>= _) = .error failure ∧ _
    cases hstore : Value.storeEntries entries with
    | error failure => exact ⟨failure, rfl, .inr (.inl (Value.storeEntries_eq_error hstore))⟩
    | ok changes =>
      have hkeys := Value.exists_storeEntries_iff.mp ⟨changes, hstore⟩
      cases hnames : items? invalidated with
      | none => exact ⟨_, rfl, .inr (.inr rfl)⟩
      | some names => exact absurd ⟨⟨entries, hchanged, hkeys⟩, Option.isSome_of_eq_some hnames⟩ h

/-! ## Signals -/

theorem map_steady_listeners (link link' : BusLink)
    (h : link'.table.map (fun x ↦ (x.path, x.listener.steady))
      = link.table.map fun x ↦ (x.path, x.listener.steady)) (path : String) :
    (link'.listeners path).map Listener.steady = (link.listeners path).map Listener.steady := by
  have hsteady (link : BusLink) : (link.listeners path).map Listener.steady
      = ((link.table.map fun x ↦ (x.path, x.listener.steady)).filter
          fun x ↦ ObjectPath.isWithin path x.1).map (·.2) := by
    rw [listeners, List.map_map, List.filter_map, List.map_map]
    rfl
  rw [hsteady, hsteady, h]

/-- **What becomes of a signal.** Whatever is in it, the link and the subscription stay as they are.
If its body does not have three parts, it is reported and told to nobody. If the second part is a
mapping under what can be keys and the third part has items, the signal is told to everyone whose
match is for its path, and whoever fails is reported. Otherwise the handler fails, and nothing was
told or reported. -/
theorem signal_is_handled_if_readable (s : Session BusLink) (m : Message)
    (hsignal : isPropertySignal m = true) :
    let listeners := s.transport.listeners m.path
    (∃ device events,
      (handle m).leaves s = { s with device := device, trace := s.trace ++ events }) ∧
    (parts? m.body = none → handle m s
      = .ok () { s with trace := s.trace ++ [.notice .bus (.malformedSignal m.path)] }) ∧
    ∀ changed invalidated, parts? m.body = some (changed, invalidated) →
      (Readable changed invalidated → ∃ b, b.path = m.path ∧
        handle m s = .ok () (telling s b listeners) ∧
        (Listener.toldAll b s.device listeners).2.filter Event.isFailureReport
          = (listeners.filter (Listener.fails s.device b)).map
            fun _ ↦ .notice .bus (.callbackFailed m.path)) ∧
      (¬Readable changed invalidated → ∃ failure, handle m s = .error failure s ∧
        (failure = .notAMapping changed.kindName ∨ (∃ kind, failure = .notAKey kind) ∨
          failure = .notIterable invalidated.kindName)) := by
  intro listeners
  refine ⟨?_, fun hparts ↦ ?_, fun changed invalidated hparts ↦ ⟨fun hreadable ↦ ?_,
    fun hunreadable ↦ ?_⟩⟩
  · obtain ⟨device, events, hleaves, -⟩ := exists_leaves_handle m s
    exact ⟨device, events, hleaves⟩
  · rw [handle, if_pos hsignal, hparts]
    rfl
  · obtain ⟨b, hbatch⟩ := exists_batch_of_readable hreadable m.path
    have hcarried : carried? m = some b := by
      rw [carried?, if_pos hsignal, hparts, Option.bind_some, hbatch]
      rfl
    have hpath := path_of_carried hcarried
    refine ⟨b, hpath, handle_of_carried hcarried s, ?_⟩
    rw [Listener.failureReports_toldAll, hpath]
  · obtain ⟨failure, hbatch, hkind⟩ := exists_failure_of_not_readable hunreadable m.path
    refine ⟨failure, ?_, hkind⟩
    rw [handle, if_pos hsignal, hparts]
    change (Act.ofExcept (batch m.path changed invalidated) >>= _) s = _
    rw [hbatch]
    rfl

/-- A signal without three parts is only reported, although someone listens for its path. -/
theorem short_body_is_reported :
    let link : BusLink := { BusLink.initial .none with table := [⟨1, "/", .callback "seen" none⟩] }
    let s : Session BusLink := Session.start link (some "/dev") "" (.standard 64)
    let m : Message := ⟨.signal, "/dev", some BusNames.propertiesInterface,
      some BusNames.propertiesChanged, .list [.text BusNames.deviceInterface, .map []]⟩
    s.transport.listeners m.path = [.callback "seen" none] ∧
      handle m s = .ok () { s with trace := [.notice .bus (.malformedSignal "/dev")] } := by
  intro link s m
  exact ⟨rfl, (signal_is_handled_if_readable s m rfl).2.1 rfl⟩

/-- The handler fails on a signal whose second part is a number. -/
theorem number_for_changes_escapes :
    let s : Session BusLink := Session.start (BusLink.initial .none) (some "/dev") "" (.standard 64)
    let m : Message := ⟨.signal, "/dev", some BusNames.propertiesInterface,
      some BusNames.propertiesChanged,
      .list [.text BusNames.deviceInterface, .int 5, .list []]⟩
    isPropertySignal m = true ∧ handle m s = .error (.notAMapping "int") s :=
  ⟨rfl, rfl⟩

/-- **A well-formed signal reaches its matches.** It is told to those whose match is for its path,
to each once for each match, in the order of the matches: the callbacks run with the path, with the
changes without their outermost variant layer and with the names, and the device reacts to the same.
Whoever fails is reported once by an error, and nobody else is. If others of the callbacks failed,
the same would run in the same order, and the same would become of the device. -/
theorem signal_reaches_its_matches (s : Session BusLink) (m : Message) (entries : Changes)
    (names : List Value) (hm : WellFormed m entries names) :
    let targets := s.transport.table.filter fun x ↦ ObjectPath.isWithin m.path x.path
    let b : Batch := ⟨m.path, entries.map fun e ↦ (e.1, e.2.unwrapOnce), names⟩
    let told := Listener.toldAll b s.device (targets.map (·.listener))
    let failed : Notice := .callbackFailed m.path
    handle m s = .ok () { s with device := told.1, trace := s.trace ++ told.2 } ∧
    told.2.filterMap Event.callbackRun? = targets.filterMap (·.listener.run? b) ∧
    told.1 = (fun d ↦ (d.reaction b).1)^[(targets.filter Match.isOwn).length] s.device ∧
    (told.2.filter Event.isFailureReport
      = (targets.filter (·.listener.fails s.device b)).map (fun _ ↦ .notice .bus failed) ∧
      failed.level = .error) ∧
    ∀ table : List Match,
      table.map (fun x ↦ (x.path, x.listener.steady))
        = s.transport.table.map (fun x ↦ (x.path, x.listener.steady)) →
      let other := { s with transport := { s.transport with table := table } }
      ∃ events,
        handle m other = .ok () { other with device := told.1, trace := s.trace ++ events } ∧
        events.filter (fun e ↦ !e.isFailureReport) = told.2.filter fun e ↦ !e.isFailureReport := by
  intro targets b told failed
  have hcarried := hm.carried
  refine ⟨handle_of_carried hcarried s, ?_, ?_, ⟨?_, rfl⟩, fun table htable ↦ ?_⟩
  · exact (Listener.callbackRuns_toldAll ..).trans List.filterMap_map
  · rw [Listener.device_toldAll, List.filter_map, List.length_map]
    rfl
  · rw [Listener.failureReports_toldAll, List.filter_map, List.map_map]
    rfl
  · intro other
    have hlisteners := map_steady_listeners s.transport other.transport htable m.path
    obtain ⟨hdevice, hevents⟩ := Listener.toldAll_steady b s.device (targets.map (·.listener))
    obtain ⟨hdevice', hevents'⟩ :=
      Listener.toldAll_steady b s.device (other.transport.listeners m.path)
    rw [hlisteners] at hdevice' hevents'
    refine ⟨(Listener.toldAll b s.device (other.transport.listeners m.path)).2, ?_,
      hevents'.symm.trans hevents⟩
    have hsame : (Listener.toldAll b s.device (other.transport.listeners m.path)).1 = told.1 :=
      hdevice'.symm.trans hdevice
    rw [handle_of_carried hcarried other, ← hsame]
    rfl

/-- A callback has three matches, of which two are for the path of a signal, and it fails on one of
them; the device is told in between. -/
theorem overlapping_matches_are_told_in_order :
    let table : List Match := [⟨1, "/", .callback "seen" (some (.raised "no"))⟩,
      ⟨2, "/dev", .device⟩, ⟨3, "/other", .callback "seen" none⟩,
      ⟨4, "/dev", .callback "seen" none⟩]
    let link : BusLink := { BusLink.initial .none with table := table }
    let s : Session BusLink := Session.start link (some "/dev") "" (.standard 64)
    let changes : Changes := [("RSSI", .variant "n" (.int (-40)))]
    let m : Message := ⟨.signal, "/dev", some BusNames.propertiesInterface,
      some BusNames.propertiesChanged,
      .list [.text BusNames.deviceInterface, .map changes, .list []]⟩
    let run : CallbackRun := ⟨"seen", "/dev", [("RSSI", .int (-40))], []⟩
    ∃ device events, handle m s = .ok () { s with device := device, trace := s.trace ++ events } ∧
      events.filterMap Event.callbackRun? = [run, run] ∧
      events.filter Event.isFailureReport = [.notice .bus (.callbackFailed "/dev")] ∧
      device.advertisement.signalStrength = some (-40) := by
  intro table link s changes m run
  have hm : WellFormed m changes [] :=
    ⟨rfl, ⟨_, _, _, rfl, rfl, rfl⟩, by decide, List.pairwise_singleton ..⟩
  obtain ⟨hhandle, hruns, hdevice, ⟨hfailed, -⟩, -⟩ := signal_reaches_its_matches s m changes [] hm
  refine ⟨_, _, hhandle, hruns.trans ?_, hfailed.trans ?_,
    (congrArg (·.advertisement.signalStrength) hdevice).trans ?_⟩
  -- What is left is computed from the values that the names stand for.
  all_goals
    subst table link s changes m run
    rfl

end BusLink

end GattPeer
