import GattPeer.Proofs.ObjectPath.Namespace
import GattPeer.Proofs.Session.Matches
import Mathlib.Data.List.Induction

/-!
# Listening over the bus

Whatever a session over the bus goes through, the device has at most one match in the table, and it
has none once it stopped listening; so it merges a signal at most once, and none that it does not
listen for. The opposite may fail. A link that is stopped forgets all matches, and the device, which
still has its token, takes itself to be listening: it is *left behind*. To listen again does nothing
for it then, although the attempt succeeds, until it stops listening. This is the only way in which
a device that listens can miss a signal for its path.

## The argument

The subscription goes from step to step by `Subscription.after` alone, and every step keeps it
orderly. A device is left behind if and only if it is deaf, that is, it has a token and no match:
the token is given up only by the device itself, and the match is lost only when the link is
stopped.
-/

namespace GattPeer

namespace Session

variable {s : Session BusLink}

/-! ## Runs without listening -/

theorem own_advance_eq_nil (h : s.Orderly) (hown : s.subscription.own = [])
    {drive : Drive LinkStep} (hdrive : drive ≠ .device .listen) (replies : List BusReply) :
    (s.advance replies drive).1.subscription.own = [] := by
  rw [subscription_advance h]
  exact Subscription.own_after_eq_nil hown hdrive _

theorem merges_advance_eq_nil (h : s.Orderly) {drive : Drive LinkStep}
    (hduring : (s.subscription.during s.device.path drive).own = [])
    (hreceive : ∀ batch, drive ≠ .device (.receive batch)) (replies : List BusReply) :
    (s.advance replies drive).2.merges = [] := by
  obtain ⟨used, -, hmerges⟩ := merges_advance h replies hreceive
  rw [hmerges]
  exact List.flatMap_eq_nil_iff.mpr fun m _ ↦ BusLink.heard_of_no_own hduring s.device m

/-- A device without a match remains so, and merges no signal, until it listens. -/
theorem unheard_run (h : s.Orderly) (hown : s.subscription.own = [])
    {drives : List (List BusReply × Drive LinkStep)}
    (hlisten : ∀ x ∈ drives, x.2 ≠ .device .listen) :
    (s.run drives).1.subscription.own = [] ∧ ∀ entry ∈ (s.run drives).2,
      (∀ batch, entry.drive ≠ .device (.receive batch)) → entry.report.merges = [] := by
  induction drives generalizing s with
  | nil => exact ⟨hown, List.forall_mem_nil _⟩
  | cons head drives ih =>
    obtain ⟨replies, drive⟩ := head
    obtain ⟨hdrive, hdrives⟩ := List.forall_mem_cons.mp hlisten
    obtain ⟨hrest, hlog⟩ := ih (h.advance replies drive)
      (own_advance_eq_nil h hown hdrive replies) hdrives
    have hduring := List.sublist_nil.mp
      (hown ▸ s.subscription.own_during_sublist s.device.path hdrive)
    rw [run_cons]
    refine ⟨hrest, List.forall_mem_cons.mpr ⟨fun hreceive ↦ ?_, hlog⟩⟩
    exact merges_advance_eq_nil h hduring hreceive replies

/-- **A signal is merged at most once, and not at all after the device stopped listening.** In every
run over the bus, whatever the calls to add and to remove a match come to, the table holds at most
one match of the device; so the batches that the device merges in a step are batches of the signals
that arrive in the step, each at most once. An attempt to stop listening, whether it succeeds or
fails, leaves no match of the device, and until it listens again the device is told of nothing and
merges nothing. Batches that are given to the device directly do not count as signals. -/
theorem signals_are_merged_at_most_once (callTimeout : Value) (path : Option String)
    (address : String) (config : Setup) (drives : List (List BusReply × Drive LinkStep)) :
    let s := ((start (BusLink.initial callTimeout) path address config).run drives).1
    (s.transport.table.filter Match.isOwn).length ≤ 1 ∧
    (∀ (replies : List BusReply) (drive : Drive LinkStep),
      (∀ batch, drive ≠ .device (.receive batch)) →
      (s.advance replies drive).2.merges.Sublist
        ((drive.signals replies).filterMap fun m ↦ (BusLink.carried? m).map (·.changes))) ∧
    ∀ replies : List BusReply,
      let stopped := (s.advance replies (.device .stopListening)).1
      ∀ later : List (List BusReply × Drive LinkStep), (∀ x ∈ later, x.2 ≠ .device .listen) →
        (stopped.run later).1.transport.table.filter Match.isOwn = [] ∧
        (∀ place, .device ∉ (stopped.run later).1.transport.listeners place) ∧
        ∀ entry ∈ (stopped.run later).2,
          (∀ batch, entry.drive ≠ .device (.receive batch)) → entry.report.merges = [] := by
  intro s
  have hs : s.Orderly := (orderly_start callTimeout path address config).run drives
  refine ⟨hs.length_own_le_one, ?_, ?_⟩
  · intro replies drive hreceive
    have hduring := Subscription.Orderly.length_own_during_le_one hs drive
    obtain ⟨used, hused, hmerges⟩ := merges_advance hs replies hreceive
    have hsignals : (drive.signals used).Sublist (drive.signals replies) := by
      rw [hused]
      exact drive.signals_sublist ..
    rw [hmerges]
    exact (BusLink.flatMap_heard_sublist hduring s.device _).trans (hsignals.filterMap _)
  · intro replies stopped later hlater
    have hstopped : stopped.subscription.own = [] := by
      rw [subscription_advance hs]
      exact Subscription.Orderly.own_after_stopListening hs _
    obtain ⟨hown, hlog⟩ := unheard_run (hs.advance ..) hstopped hlater
    refine ⟨hown, fun place hmem ↦ ?_, hlog⟩
    exact List.filter_eq_nil_iff.mp (BusLink.filter_listeners_eq_nil hown place) _ hmem rfl

/-- A device that listens merges a signal once. If it stops listening and the bus fails, it does not
merge the next one. -/
theorem refused_stop_ends_listening :
    let drives := [([], .transport (.start true none)), ([], .device .listen)]
    let s := ((start (BusLink.initial (.int 30)) (some "/dev") "" (.standard 64)).run drives).1
    let batch : Batch := ⟨"/dev", [("Connected", .bool true)], []⟩
    let signal := (.transport (.message (BusLink.signalOf batch)) : Drive LinkStep)
    let stopped := s.advance [⟨[], .failure .notStarted⟩] (.device .stopListening)
    (s.advance [] signal).2.merges = [batch.changes] ∧
      stopped.2.outcome = .error .notStarted ∧
      (stopped.1.advance [] signal).2.merges = [] := by
  intro drives s batch signal stopped
  have hmerged : (s.advance [] signal).2.merges = [batch.changes] := by
    unfold s signal batch drives
    rfl
  have hrefused : stopped.2.outcome = .error .notStarted := by
    unfold stopped s drives
    rfl
  refine ⟨hmerged, hrefused, ?_⟩
  obtain ⟨-, -, hstopped⟩ := signals_are_merged_at_most_once (.int 30) (some "/dev") ""
    (.standard 64) drives
  have hlater : ∀ x ∈ [(([] : List BusReply), signal)], x.2 ≠ .device .listen := by
    intro x hx
    rw [List.mem_singleton.mp hx]
    nofun
  obtain ⟨-, -, hlog⟩ := hstopped [⟨[], .failure .notStarted⟩] _ hlater
  exact hlog ⟨signal, (stopped.1.advance [] signal).2⟩ (List.mem_singleton_self _) nofun

/-! ## Devices that are left behind -/

/-- The link was stopped in the course of operations while the device listened, and the device was
not told to stop listening since. -/
def LeftBehind (s : Session BusLink) (drives : List (List BusReply × Drive LinkStep)) : Prop :=
  ∃ (before after : List (List BusReply × Drive LinkStep)) (replies : List BusReply),
    drives = before ++ (replies, .transport .stop) :: after ∧
      (s.run before).1.token.isSome = true ∧ ∀ x ∈ after, x.2 ≠ .device .stopListening

theorem deaf_run (h : s.Orderly) (hdeaf : s.subscription.Deaf)
    {drives : List (List BusReply × Drive LinkStep)}
    (hdrives : ∀ x ∈ drives, x.2 ≠ .device .stopListening) :
    (s.run drives).1.subscription.Deaf :=
  h.run_induction (fun hdrive hdeaf ↦ hdeaf.after hdrive _) hdrives hdeaf

/-- **A device is deaf if and only if it was left behind**, as long as nobody removes its match from
outside. -/
theorem deaf_run_iff (h : s.Orderly) (hdeaf : ¬s.subscription.Deaf)
    {drives : List (List BusReply × Drive LinkStep)}
    (hremove : ∀ x ∈ drives, ∀ token, x.2 ≠ .transport (.removeMatch token)) :
    (s.run drives).1.subscription.Deaf ↔ s.LeftBehind drives := by
  constructor
  · intro hleft
    induction drives using List.reverseRecOn with
    | nil => exact absurd hleft hdeaf
    | append_singleton drives x ih =>
      obtain ⟨replies, drive⟩ := x
      obtain ⟨hdrives, hdrive⟩ := List.forall_mem_append.mp hremove
      rw [run_append_singleton, subscription_advance (h.run drives)] at hleft
      obtain ⟨hstop, hdeaf | ⟨rfl, htoken⟩⟩ := hleft.before (hdrive _ List.mem_cons_self)
      · obtain ⟨before, after, replies', rfl, htoken, hafter⟩ := ih hdrives hdeaf
        refine ⟨before, after ++ [(replies, drive)], replies', ?_, htoken, ?_⟩
        · rw [List.append_assoc, List.cons_append]
        · exact List.forall_mem_append.mpr ⟨hafter, List.forall_mem_singleton.mpr hstop⟩
      · exact ⟨drives, [], replies, rfl, htoken, List.forall_mem_nil _⟩
  · rintro ⟨before, after, replies, rfl, htoken, hafter⟩
    have hbefore := h.run before
    rw [run_append, run_cons]
    refine deaf_run (hbefore.advance ..) ?_ hafter
    rw [subscription_advance hbefore]
    exact ⟨htoken, rfl⟩

/-- A device that can hear becomes deaf only if the link is stopped. -/
theorem not_deaf_run (h : s.Orderly) (hdeaf : ¬s.subscription.Deaf)
    {drives : List (List BusReply × Drive LinkStep)}
    (hremove : ∀ x ∈ drives, ∀ token, x.2 ≠ .transport (.removeMatch token))
    (hstop : ∀ x ∈ drives, x.2 ≠ .transport .stop) : ¬(s.run drives).1.subscription.Deaf := by
  rw [deaf_run_iff h hdeaf hremove]
  rintro ⟨before, after, replies, rfl, -, -⟩
  exact hstop _ (List.mem_append_right _ List.mem_cons_self) rfl

theorem isSome_token_run (h : s.Orderly) (htoken : s.token.isSome = true)
    {drives : List (List BusReply × Drive LinkStep)}
    (hdrives : ∀ x ∈ drives, x.2 ≠ .device .stopListening) :
    (s.run drives).1.token.isSome = true :=
  h.run_induction (P := fun t ↦ t.token.isSome = true)
    (fun hdrive htoken ↦ Subscription.isSome_token_after htoken hdrive _) hdrives htoken

/-! ## Being told -/

theorem isSome_token_of_listen {s' : Session BusLink}
    (h : (listen : Act BusLink Unit) s = .ok () s') : s'.token.isSome = true := by
  cases htoken : s.token with
  | some token =>
    unfold listen at h
    rw [Act.get_bind_apply, htoken] at h
    cases h
    rw [htoken]
    rfl
  | none =>
    rw [listen_eq s htoken] at h
    cases hadd : BusLink.addMatch s.device.path .device s with
    | ok n s₁ =>
      rw [hadd] at h
      cases h
      rfl
    | error failure s₁ =>
      rw [hadd] at h
      exact nomatch h

theorem isSome_token_advance {replies : List BusReply} {reading : Reading}
    (h : (s.advance replies (.device .listen)).2.outcome = .ok reading) :
    (s.advance replies (.device .listen)).1.token.isSome = true := by
  cases hlisten : (listen : Act BusLink Unit) (s.loading replies) with
  | ok _ s' =>
    rw [advance_of_ok (Act.bind_of_ok hlisten _)]
    exact isSome_token_of_listen hlisten
  | error failure s' =>
    rw [advance_of_error (Act.bind_of_error hlisten _)] at h
    exact nomatch h

theorem advance_message {m : Message} {b : Batch} (h : BusLink.carried? m = some b)
    (s : Session BusLink) (replies : List BusReply) :
    (s.advance replies (.transport (.message m))).1.device
        = (Listener.toldAll b s.device (s.transport.listeners m.path)).1 ∧
      (s.advance replies (.transport (.message m))).2.trace
        = (Listener.toldAll b s.device (s.transport.listeners m.path)).2 := by
  rw [advance_of_ok (Act.bind_of_ok (BusLink.handle_of_carried h _) _)]
  exact ⟨rfl, List.nil_append _⟩

theorem told_of_own_eq {m : Message} {b : Batch} (h : BusLink.carried? m = some b)
    {own : Match} (hown : s.subscription.own = [own])
    (hpath : ObjectPath.isWithin m.path own.path = true) (replies : List BusReply) :
    let told := s.advance replies (.transport (.message m))
    told.1.device = (s.device.reaction b).1 ∧
      ∃ before after, told.2.trace = before ++ (s.device.reaction b).2 ++ after ∧
        ∀ e ∈ before ++ after, e.happening? = none := by
  intro told
  obtain ⟨hdevice, htrace⟩ := advance_message h s replies
  have hone : ((s.transport.listeners m.path).filter Listener.isDevice).length = 1 := by
    have htable : s.transport.table.filter Match.isOwn = [own] := hown
    rw [BusLink.length_filter_listeners, htable,
      List.filter_cons_of_pos (p := fun x : Match ↦ ObjectPath.isWithin m.path x.path) hpath]
    rfl
  obtain ⟨htold, before, after, hevents, hquiet⟩ := Listener.toldAll_of_one_device hone b s.device
  exact ⟨hdevice.trans htold, before, after, htrace.trans hevents, hquiet⟩

theorem untold_of_own_eq_nil {m : Message} {b : Batch} (h : BusLink.carried? m = some b)
    (hown : s.subscription.own = []) (replies : List BusReply) :
    let told := s.advance replies (.transport (.message m))
    told.1.device = s.device ∧ told.2.happenings = [] := by
  intro told
  obtain ⟨hdevice, htrace⟩ := advance_message h s replies
  have hnone := BusLink.filter_listeners_eq_nil hown m.path
  obtain ⟨htold, hquiet⟩ := Listener.toldAll_of_no_device hnone b s.device
  refine ⟨hdevice.trans htold, ?_⟩
  rw [Report.happenings, htrace]
  exact List.filterMap_eq_nil_iff.mpr hquiet

/-- All signals for the device reach it. -/
structure HearsSignals (s : Session BusLink) : Prop where
  /-- A well-formed signal on the path of the device, or below it, is told to the device, once. -/
  told : ∀ (replies : List BusReply) (m : Message) (batch : Batch),
    BusLink.carried? m = some batch → ObjectPath.isWithin m.path s.device.path = true →
    let told := s.advance replies (.transport (.message m))
    told.1.device = (s.device.reaction batch).1 ∧
      ∃ before after, told.2.trace = before ++ (s.device.reaction batch).2 ++ after ∧
        ∀ e ∈ before ++ after, e.happening? = none
  /-- In the course of an operation the device merges what the signals carry for it that arrive
  before the replies that the operation uses up. -/
  merged : ∀ (replies : List BusReply) (drive : Drive LinkStep), drive ≠ .device .stopListening →
    (∀ token, drive ≠ .transport (.removeMatch token)) →
    (∀ batch, drive ≠ .device (.receive batch)) →
    ∃ used, replies = used ++ (s.advance replies drive).1.transport.replies ∧
      (s.advance replies drive).2.merges
        = (drive.signals used).filterMap fun m ↦ (BusLink.carried? m).bind s.device.changesFor?

/-- No signal reaches the device. -/
structure MissesSignals (s : Session BusLink) : Prop where
  /-- A well-formed signal does nothing to the device. -/
  untold : ∀ (replies : List BusReply) (m : Message) (batch : Batch),
    BusLink.carried? m = some batch →
    let told := s.advance replies (.transport (.message m))
    told.1.device = s.device ∧ told.2.happenings = []
  /-- In the course of an operation the device merges nothing that is not given to it directly. -/
  unmerged : ∀ (replies : List BusReply) (drive : Drive LinkStep),
    (∀ batch, drive ≠ .device (.receive batch)) → (s.advance replies drive).2.merges = []

theorem hearsSignals (h : s.Orderly) (htoken : s.token.isSome = true)
    (hdeaf : ¬s.subscription.Deaf) : s.HearsSignals := by
  obtain ⟨own, hown, hplace⟩ := Subscription.Orderly.exists_own_eq h htoken hdeaf
  refine ⟨fun replies m batch hcarried hpath ↦ ?_, fun replies drive hstop hremove hreceive ↦ ?_⟩
  · exact told_of_own_eq hcarried hown (hplace ▸ hpath) replies
  · obtain ⟨used, hused, hmerges⟩ := merges_advance h replies hreceive
    have hduring : (s.subscription.during s.device.path drive).own = [own] :=
      (Subscription.own_during_of_isSome htoken hstop hremove).trans hown
    refine ⟨used, hused, ?_⟩
    rw [hmerges, List.filterMap_eq_flatMap_toList]
    congr 1
    funext m
    exact BusLink.heard_of_own_eq hduring hplace m

theorem missesSignals (h : s.Orderly) (hdeaf : s.subscription.Deaf) : s.MissesSignals where
  untold replies _ _ hcarried := untold_of_own_eq_nil hcarried hdeaf.2 replies
  unmerged replies drive hreceive :=
    merges_advance_eq_nil h (hdeaf.own_during s.device.path drive) hreceive replies

/-- **A device that listens hears all signals, unless it was left behind.** After any operations let
the device listen without a failure, and let the link not be stopped nor the device stop listening
in what follows. Then all signals for the device reach it, if it was not left behind before it
listened; otherwise none does. Nobody removes matches by their tokens from outside. -/
theorem listening_device_is_told_unless_left_behind (callTimeout : Value) (path : Option String)
    (address : String) (config : Setup) (drives rest : List (List BusReply × Drive LinkStep))
    (replies : List BusReply)
    (hremove : ∀ x ∈ drives ++ rest, ∀ token, x.2 ≠ .transport (.removeMatch token))
    (hrest : ∀ x ∈ rest, x.2 ≠ .transport .stop ∧ x.2 ≠ .device .stopListening) :
    let start := start (BusLink.initial callTimeout) path address config
    let listening := (start.run drives).1.advance replies (.device .listen)
    let s := (listening.1.run rest).1
    listening.2.outcome = .ok .nothing →
    (¬start.LeftBehind drives → s.HearsSignals) ∧ (start.LeftBehind drives → s.MissesSignals) := by
  intro start listening s hlistening
  obtain ⟨hdrives, hlater⟩ := List.forall_mem_append.mp hremove
  have hstart : start.Orderly := orderly_start callTimeout path address config
  have hbefore := hstart.run drives
  have hs : s.Orderly := (hbefore.advance replies (.device .listen)).run rest
  have hiff := deaf_run_iff hstart (fun hdeaf ↦ nomatch hdeaf.1) hdrives
  have htoken : s.token.isSome = true :=
    isSome_token_run (hbefore.advance ..) (isSome_token_advance hlistening)
      fun x hx ↦ (hrest x hx).2
  have hrun : s = ((start.run drives).1.run ((replies, .device .listen) :: rest)).1 := rfl
  constructor
  · intro hleft
    refine hearsSignals hs htoken ?_
    rw [hrun]
    refine not_deaf_run hbefore (hiff.not.mpr hleft) ?_ ?_
    · exact List.forall_mem_cons.mpr ⟨nofun, hlater⟩
    · exact List.forall_mem_cons.mpr ⟨nofun, fun x hx ↦ (hrest x hx).1⟩
  · intro hleft
    refine missesSignals hs ?_
    rw [hrun]
    refine deaf_run hbefore (hiff.mpr hleft) ?_
    exact List.forall_mem_cons.mpr ⟨nofun, fun x hx ↦ (hrest x hx).2⟩

/-- A device that listens is told of a signal for its path. -/
theorem started_device_is_told :
    let drives := [([], .transport (.start true none))]
    let start := start (BusLink.initial (.int 30)) (some "/dev") "" (.standard 64)
    let listening := (start.run drives).1.advance [] (.device .listen)
    let batch : Batch := ⟨"/dev", [("Connected", .bool true)], []⟩
    let told := listening.1.advance [] (.transport (.message (BusLink.signalOf batch)))
    ¬start.LeftBehind drives ∧ listening.2.outcome = .ok .nothing ∧
      told.1.device.state = .connected := by
  intro drives start listening batch told
  have hlistening : listening.2.outcome = .ok .nothing := by
    unfold listening start drives
    rfl
  have hleft : ¬start.LeftBehind drives := by
    rintro ⟨before, after, replies, hdrives, -, -⟩
    have hmem : (replies, .transport .stop) ∈ drives := by
      rw [hdrives]
      exact List.mem_append_right _ List.mem_cons_self
    exact nomatch List.mem_singleton.mp hmem
  have hremove : ∀ x ∈ drives ++ [], ∀ token, x.2 ≠ .transport (.removeMatch token) := by
    intro x hx token
    rw [List.mem_singleton.mp hx]
    nofun
  have hpath : listening.1.device.path = "/dev" := by
    unfold listening start drives
    rfl
  have hwithin : ObjectPath.isWithin "/dev" listening.1.device.path = true := by
    rw [hpath]
    exact ObjectPath.isWithin_self _
  have htheorem := listening_device_is_told_unless_left_behind (.int 30) (some "/dev") ""
    (.standard 64) drives [] [] hremove (List.forall_mem_nil _)
  obtain ⟨hhears, -⟩ := htheorem hlistening
  obtain ⟨hdevice, -⟩ := (hhears hleft).told [] (BusLink.signalOf batch) batch rfl hwithin
  have hreaction : (listening.1.device.reaction batch).1.state = .connected := by
    unfold listening batch start drives
    rfl
  exact ⟨hleft, hlistening, (congrArg Device.state hdevice).trans hreaction⟩

/-- A device that listened before the link was stopped and started again, and listens again, is left
behind: the attempt succeeds, and yet a signal for its path does not reach it. -/
theorem restarted_device_is_left_behind :
    let drives := [([], .transport (.start true none)), ([], .device .listen),
      ([], .transport .stop), ([], .transport (.start true none))]
    let start := start (BusLink.initial (.int 30)) (some "/dev") "" (.standard 64)
    let listening := (start.run drives).1.advance [] (.device .listen)
    let batch : Batch := ⟨"/dev", [("Connected", .bool true)], []⟩
    let signal := BusLink.signalOf batch
    let told := listening.1.advance [] (.transport (.message signal))
    listening.2.outcome = .ok .nothing ∧ listening.1.transport.running = true ∧
      BusLink.carried? signal = some batch ∧ signal.path = listening.1.device.path ∧
      (listening.1.device.reaction batch).1.state = .connected ∧
      told.1.device.state = .notConnected := by
  exact ⟨rfl, rfl, rfl, rfl, rfl, rfl⟩

end Session

end GattPeer
