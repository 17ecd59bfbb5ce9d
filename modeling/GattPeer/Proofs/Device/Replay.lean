import GattPeer.Device
import GattPeer.Proofs.StateMonitor.Settled

/-!
# The moves of a device

A session does five things to its device: it merges a batch of changes, stores an announcement,
lets a call look at the connection state, ends a call that does not wait, and lets a call reach its
deadline. Such a *move* is data, and the moves of a session replay its device together with the
history of that device.

## Laws

What holds of a device and its past is an induction over moves. A batch is too coarse for it, since
it notifies up to twice; a `Law` is therefore checked at each notification, with the state that is
seen there and the calls that end by it, and at the few other things that a device goes through.
-/

namespace GattPeer

/-- A property of a batch that is read as a truth value, if it is there and has the right shape. -/
def Changes.truth? (changes : Changes) (name : String) : Option Bool :=
  (changes.value? name).bind Decode.truth?

namespace Device

/-! ## Notifications -/

def seeing (d : Device) (state : ConnectionState) : Device :=
  { d with monitor := d.monitor.seeing state }

def endedBy (d : Device) (state : ConnectionState) : List Happening :=
  (d.monitor.wokenBy state).map fun w ↦ .ended (d.finish w)

def stateUpon (d : Device) (value : Bool) : ConnectionState :=
  if !value then .notConnected else if d.state = .notConnected then .connected else d.state

def leftBy (d : Device) (id : Nat) : Device :=
  { d with monitor :=
    { d.monitor with waiting := d.monitor.waiting.filter fun w ↦ !w.tag.endsAt id } }

def endedAt (d : Device) (id : Nat) : List Happening :=
  (d.monitor.waiting.filter fun w ↦ w.tag.endsAt id).map fun w ↦ .ended (d.lastLook w)

theorem reachDeadline_eq (d : Device) (id : Nat) :
    d.reachDeadline id = (d.leftBy id, d.endedAt id) := by
  rw [reachDeadline, List.partition_eq_filter_filter]
  rfl

@[simp] theorem id_lastLook (d : Device) (w : Waiter Call) : (d.lastLook w).id = w.tag.id := by
  rw [lastLook]
  cases hreact : w.react d.state with
  | none =>
    change (d.expire w.tag).id = w.tag.id
    rw [expire]
    cases w.tag.purpose <;> rfl
  | some woken =>
    change (d.finish woken).id = w.tag.id
    rw [← Waiter.tag_of_react hreact, finish]
    cases woken.outcome <;> rfl

def republished (d : Device) : Device := { d with attributes := d.attributes.publish.1 }

@[simp] theorem transition_fst (d : Device) (news : News) (states : List ConnectionState) :
    (d.transition news states).1 = d.seeing (d.monitor.arrival states) := by
  rw [transition, StateMonitor.transition_eq]
  rfl

@[simp] theorem transition_course (d : Device) (news : News) (states : List ConnectionState) :
    (d.transition news states).2.course =
      .notified news (d.monitor.arrival states) :: d.endedBy (d.monitor.arrival states) := by
  rw [transition, StateMonitor.transition_eq]
  rfl

theorem arrival_connection (d : Device) (value : Bool) :
    d.monitor.arrival (if !value then [.notConnected] else
      if d.state = .notConnected then [.connected] else []) = d.stateUpon value := by
  rw [stateUpon]
  cases value with
  | false => rfl
  | true =>
    by_cases h : d.state = .notConnected
    · simp only [Bool.not_true, h]
      rfl
    · simp only [Bool.not_true, h]
      rfl

@[simp] theorem connectionChanged_fst (d : Device) (value : Bool) :
    (d.connectionChanged value).1 = d.seeing (d.stateUpon value) := by
  rw [← arrival_connection, ← transition_fst d (.connection value)]
  rfl

@[simp] theorem connectionChanged_course (d : Device) (value : Bool) :
    (d.connectionChanged value).2.course =
      .notified (.connection value) (d.stateUpon value) :: d.endedBy (d.stateUpon value) := by
  rw [← arrival_connection, ← transition_course d (.connection value)]
  rfl

@[simp] theorem resolutionChanged_true_fst (d : Device) :
    (d.resolutionChanged true).1 = d.republished.seeing .servicesResolved :=
  transition_fst d.republished (.resolution true) [.servicesResolved]

@[simp] theorem resolutionChanged_true_course (d : Device) :
    (d.resolutionChanged true).2.course =
      .notified (.resolution true) .servicesResolved :: d.republished.endedBy .servicesResolved :=
  transition_course d.republished (.resolution true) [.servicesResolved]

@[simp] theorem resolutionChanged_false_fst (d : Device) :
    (d.resolutionChanged false).1 = d.seeing d.state :=
  transition_fst d (.resolution false) []

@[simp] theorem resolutionChanged_false_course (d : Device) :
    (d.resolutionChanged false).2.course =
      .notified (.resolution false) d.state :: d.endedBy d.state :=
  transition_course d (.resolution false) []

/-! ## Batches -/

variable {value : Option Value} {report : Value → Notice}
  {change : Device → Bool → Device × Effects}

theorem follow_of_truth {d : Device} {b : Bool} (h : value.bind Decode.truth? = some b) :
    d.follow value report change = change d b := by
  obtain ⟨v, rfl, hv⟩ := Option.bind_eq_some_iff.mp h
  simp only [follow, hv]

theorem follow_of_no_truth {d : Device} (h : value.bind Decode.truth? = none) :
    (d.follow value report change).1 = d ∧ (d.follow value report change).2.course = [] := by
  cases value with
  | none => exact ⟨rfl, rfl⟩
  | some v =>
    rw [Option.bind_some] at h
    constructor
    · simp only [follow, h]
    · simp only [follow, h]

/-- The device with a batch of changes merged into its properties, before anyone is notified. -/
def merging (d : Device) (changes : Changes) : Device :=
  { d with advertisement := d.advertisement.merge changes }

theorem update_eq_follow (d : Device) (changes : Changes) :
    let connected := (d.merging changes).follow (changes.value? "Connected")
      (.badConnected d.address) connectionChanged
    let resolved := connected.1.follow (changes.value? "ServicesResolved")
      (.badResolved d.address) resolutionChanged
    d.update changes = (resolved.1,
      ⟨Advertisement.mergeNotices d.address changes ++ connected.2.notices ++ resolved.2.notices,
        .merged changes :: connected.2.course ++ resolved.2.course⟩) := rfl

/-- The device and its history after a truth value of a batch, if the batch has it. -/
def driven (change : Device → Bool → Device × Effects) (d : Device) :
    Option Bool → Device × List Happening
  | none => (d, [])
  | some b => ((change d b).1, (change d b).2.course)

theorem follow_eq_driven (d : Device) :
    ((d.follow value report change).1, (d.follow value report change).2.course)
      = driven change d (value.bind Decode.truth?) := by
  cases h : value.bind Decode.truth? with
  | none => rw [(follow_of_no_truth h).1, (follow_of_no_truth h).2, driven]
  | some b => rw [follow_of_truth h, driven]

/-- **What a batch does**: it is merged, then the connection property and then the resolution
property are looked at, if they are there and have the right shape. -/
theorem update_eq_driven (d : Device) (changes : Changes) :
    let connected := driven connectionChanged (d.merging changes) (changes.truth? "Connected")
    let resolved := driven resolutionChanged connected.1 (changes.truth? "ServicesResolved")
    (d.update changes).1 = resolved.1 ∧
      (d.update changes).2.course = .merged changes :: connected.2 ++ resolved.2 := by
  intro connected resolved
  have hconnected : (((d.merging changes).follow (changes.value? "Connected")
      (.badConnected d.address) connectionChanged).1, _) = connected := follow_eq_driven _
  have hresolved : ((connected.1.follow (changes.value? "ServicesResolved")
      (.badResolved d.address) resolutionChanged).1, _) = resolved := follow_eq_driven _
  rw [← hresolved, ← hconnected]
  exact ⟨rfl, rfl⟩

theorem receive_eq_ok {d d' : Device} {batch : Batch} {effects : Effects}
    (h : d.receive batch = .ok (d', effects)) :
    (d.subject batch.path = .device ∧ d' = (d.update batch.changes).1 ∧
      effects.course = (d.update batch.changes).2.course) ∨
    (d.subject batch.path ≠ .device ∧ d' = d ∧ effects.course = []) := by
  rw [receive] at h
  split at h
  · next hsubject =>
    obtain ⟨rfl, rfl⟩ := Prod.mk.inj (Except.ok.inj h)
    exact .inr ⟨by rw [hsubject]; nofun, rfl, rfl⟩
  · next hsubject =>
    cases hnames : Value.sortKeys (batch.changes.map (·.1)) with
    | error failure =>
      rw [hnames] at h
      cases h
    | ok names =>
      rw [hnames] at h
      obtain ⟨rfl, rfl⟩ := Prod.mk.inj (Except.ok.inj h)
      exact .inr ⟨by rw [hsubject]; nofun, rfl, rfl⟩
  · next hsubject =>
    obtain ⟨rfl, rfl⟩ := Prod.mk.inj (Except.ok.inj h)
    exact .inl ⟨hsubject, rfl, rfl⟩

theorem subject_ne_of_receive_eq_error {d : Device} {batch : Batch} {failure : Failure}
    (h : d.receive batch = .error failure) : d.subject batch.path ≠ .device := by
  intro hsubject
  rw [receive, hsubject] at h
  exact nomatch h

theorem subject_eq_of_path {d d' : Device} (h : d'.path = d.path) : d'.subject = d.subject := by
  funext path
  rw [subject, subject, h]

/-! ## Moves -/

/-- What a session does to its device. -/
inductive Move where
  /-- Merges a batch of changes of the device itself. -/
  | update (changes : Changes)
  /-- Stores an announcement. -/
  | announce (a : Announcement)
  /-- Lets a call look at the connection state: it ends, or it waits. -/
  | call (c : Call)
  /-- Ends a call that does not wait, without an answer of the device. -/
  | close (id : Nat) (failure : Option Failure) (journal : List Notice)
  /-- Lets a call reach its deadline. -/
  | deadline (id : Nat)

/-- A move that has nothing to do with a call. -/
def Move.isQuiet : Move → Bool
  | .update _ | .announce _ => true
  | .call _ | .close .. | .deadline _ => false

def waiter (c : Call) : Waiter Call := ⟨c.purpose.condition, c⟩

def joinedBy (d : Device) (c : Call) : Device :=
  { d with monitor := { d.monitor with waiting := d.monitor.waiting ++ [waiter c] } }

def storing (d : Device) (a : Announcement) : Device :=
  { d with attributes :=
    { d.attributes with announcements := AttributeTable.store a d.attributes.announcements } }

theorem announce_cases (d : Device) (path uuid : String) (flags : PropertyFlags) :
    (∃ a, (d.announce path uuid flags).1 = d.storing a ∧
      (d.announce path uuid flags).2.2 = .ok a) ∨
    (∃ failure, (d.announce path uuid flags).1 = d ∧
      (d.announce path uuid flags).2.2 = .error failure) := by
  unfold announce AttributeTable.announce
  generalize Announcement.read path uuid flags = read
  cases read with
  | ok a => exact .inl ⟨a, rfl, rfl⟩
  | error failure => exact .inr ⟨failure, rfl, rfl⟩

theorem announce_of_read {path uuid : String} {flags : PropertyFlags} {a : Announcement}
    (h : Announcement.read path uuid flags = .ok a) (d : Device) :
    (d.announce path uuid flags).1 = d.storing a ∧ (d.announce path uuid flags).2.2 = .ok a := by
  unfold announce AttributeTable.announce
  rw [h]
  exact ⟨rfl, rfl⟩

theorem announce_of_error {path uuid : String} {flags : PropertyFlags} {failure : Failure}
    (h : Announcement.read path uuid flags = .error failure) (d : Device) :
    (d.announce path uuid flags).1 = d ∧ (d.announce path uuid flags).2.2 = .error failure := by
  unfold announce AttributeTable.announce
  rw [h]
  exact ⟨rfl, rfl⟩

/-- The device after a move, and what happens to it. -/
def make (d : Device) : Move → Device × List Happening
  | .update changes => ((d.update changes).1, (d.update changes).2.course)
  | .announce a => (d.storing a, [.announced a])
  | .call c =>
    match (waiter c).react d.state with
    | some woken => (d, [.ended (d.finish woken)])
    | none => (d.joinedBy c, [])
  | .close id failure journal => (d, [.ended ⟨id, failure.elim (.ok .nothing) .error, journal⟩])
  | .deadline id => d.reachDeadline id

/-- The device after a sequence of moves, and what happens to it. -/
def replay (d : Device) : List Move → Device × List Happening
  | [] => (d, [])
  | move :: moves =>
    let (next, course) := d.make move
    let (last, rest) := next.replay moves
    (last, course ++ rest)

theorem replay_cons (d : Device) (move : Move) (moves : List Move) :
    d.replay (move :: moves) = (((d.make move).1.replay moves).1,
      (d.make move).2 ++ ((d.make move).1.replay moves).2) := rfl

@[simp] theorem replay_singleton (d : Device) (move : Move) : d.replay [move] = d.make move := by
  rw [replay_cons, replay, List.append_nil]

theorem replay_append (d : Device) (xs ys : List Move) :
    d.replay (xs ++ ys) = (((d.replay xs).1.replay ys).1,
      (d.replay xs).2 ++ ((d.replay xs).1.replay ys).2) := by
  induction xs generalizing d with
  | nil => rfl
  | cons x xs ih => rw [List.cons_append, replay_cons, ih, replay_cons, List.append_assoc]

/-! ## Laws -/

/-- What holds of a device and its past, whatever quiet moves are made. -/
structure QuietLaw (I : List Happening → Device → Prop) : Prop where
  /-- A batch is merged. -/
  merged : ∀ {past d} changes, I past d → I (past ++ [.merged changes]) (d.merging changes)
  /-- The connection property has a value. -/
  connection : ∀ {past d} value, I past d →
    I (past ++ .notified (.connection value) (d.stateUpon value) :: d.endedBy (d.stateUpon value))
      (d.seeing (d.stateUpon value))
  /-- The services are resolved. -/
  resolved : ∀ {past d}, I past d →
    I (past ++ .notified (.resolution true) .servicesResolved ::
      d.republished.endedBy .servicesResolved) (d.republished.seeing .servicesResolved)
  /-- The services are not resolved, which changes nothing. -/
  unresolved : ∀ {past d}, I past d →
    I (past ++ .notified (.resolution false) d.state :: d.endedBy d.state) (d.seeing d.state)
  /-- An announcement is stored. -/
  announced : ∀ {past d} a, I past d → I (past ++ [.announced a]) (d.storing a)

/-- What holds of a device and its past until a deadline, as long as only calls of some kind look at
the connection state. -/
structure CallLaw (K : Call → Prop) (I : List Happening → Device → Prop) : Prop
    extends QuietLaw I where
  /-- A call begins to wait. -/
  joined : ∀ {past d c}, I past d → K c → (waiter c).react d.state = none →
    I past (d.joinedBy c)
  /-- A call ends at once. -/
  answered : ∀ {past d c woken}, I past d → K c → (waiter c).react d.state = some woken →
    I (past ++ [.ended (d.finish woken)]) d
  /-- A call ends without an answer of the device. -/
  closed : ∀ {past d} id failure journal, I past d →
    I (past ++ [.ended ⟨id, (failure : Option Failure).elim (.ok .nothing) .error, journal⟩]) d

/-- What holds of a device and its past, whatever move is made, as long as only calls of some kind
look at the connection state. -/
structure Law (K : Call → Prop) (I : List Happening → Device → Prop) : Prop
    extends CallLaw K I where
  /-- A call reaches its deadline. -/
  expired : ∀ {past d} id, I past d → I (past ++ d.endedAt id) (d.leftBy id)

variable {K : Call → Prop} {I : List Happening → Device → Prop} {past : List Happening} {d : Device}

theorem QuietLaw.connectionChanged (law : QuietLaw I) (value : Bool) (h : I past d) :
    I (past ++ (d.connectionChanged value).2.course) (d.connectionChanged value).1 := by
  rw [connectionChanged_fst, connectionChanged_course]
  exact law.connection value h

theorem QuietLaw.resolutionChanged (law : QuietLaw I) (value : Bool) (h : I past d) :
    I (past ++ (d.resolutionChanged value).2.course) (d.resolutionChanged value).1 := by
  cases value with
  | true =>
    rw [resolutionChanged_true_fst, resolutionChanged_true_course]
    exact law.resolved h
  | false =>
    rw [resolutionChanged_false_fst, resolutionChanged_false_course]
    exact law.unresolved h

theorem driven_induction (hchange : ∀ {past d} b, I past d → I (past ++ (change d b).2.course)
    (change d b).1) (truth : Option Bool) (h : I past d) :
    I (past ++ (driven change d truth).2) (driven change d truth).1 := by
  cases truth with
  | none => rwa [driven, List.append_nil]
  | some b => exact hchange b h

theorem QuietLaw.update (law : QuietLaw I) (changes : Changes) (h : I past d) :
    I (past ++ (d.update changes).2.course) (d.update changes).1 := by
  obtain ⟨hdevice, hcourse⟩ := update_eq_driven d changes
  rw [hdevice, hcourse, List.cons_append, List.append_cons, ← List.append_assoc]
  exact driven_induction law.resolutionChanged _
    (driven_induction law.connectionChanged _ (law.merged changes h))

theorem QuietLaw.make (law : QuietLaw I) {move : Move} (hquiet : move.isQuiet = true)
    (h : I past d) : I (past ++ (d.make move).2) (d.make move).1 := by
  cases move with
  | update changes => exact law.update changes h
  | announce a => exact law.announced a h
  | _ => exact nomatch hquiet

/-- **A law of quiet moves holds in every quiet replay.** -/
theorem QuietLaw.replay (law : QuietLaw I) {moves : List Move}
    (hquiet : ∀ move ∈ moves, move.isQuiet = true) (h : I past d) :
    I (past ++ (d.replay moves).2) (d.replay moves).1 := by
  induction moves generalizing past d with
  | nil => rwa [Device.replay, List.append_nil]
  | cons move moves ih =>
    rw [replay_cons, ← List.append_assoc]
    exact ih (fun move' hmove ↦ hquiet move' (List.mem_cons_of_mem _ hmove))
      (law.make (hquiet move List.mem_cons_self) h)

theorem CallLaw.make (law : CallLaw K I) {move : Move} (hmove : ∀ c, .call c = move → K c)
    (htimely : ∀ id, .deadline id ≠ move) (h : I past d) :
    I (past ++ (d.make move).2) (d.make move).1 := by
  cases move with
  | update changes => exact law.update changes h
  | announce a => exact law.announced a h
  | close id failure journal => exact law.closed id failure journal h
  | deadline id => exact absurd rfl (htimely id)
  | call c =>
    rw [Device.make]
    cases hreact : (waiter c).react d.state with
    | some woken => exact law.answered h (hmove c rfl) hreact
    | none =>
      rw [List.append_nil]
      exact law.joined h (hmove c rfl) hreact

/-- **A law of calls holds in every replay without a deadline.** -/
theorem CallLaw.replay (law : CallLaw K I) {moves : List Move}
    (hmoves : ∀ c, .call c ∈ moves → K c) (htimely : ∀ id, .deadline id ∉ moves)
    (h : I past d) : I (past ++ (d.replay moves).2) (d.replay moves).1 := by
  induction moves generalizing past d with
  | nil => rwa [Device.replay, List.append_nil]
  | cons move moves ih =>
    rw [replay_cons, ← List.append_assoc]
    exact ih (fun c hc ↦ hmoves c (List.mem_cons_of_mem _ hc))
      (fun id hid ↦ htimely id (List.mem_cons_of_mem _ hid))
      (law.make (fun c hc ↦ hmoves c (hc ▸ List.mem_cons_self))
        (fun id hid ↦ htimely id (hid ▸ List.mem_cons_self)) h)

theorem Law.make (law : Law K I) {move : Move} (hmove : ∀ c, .call c = move → K c)
    (h : I past d) : I (past ++ (d.make move).2) (d.make move).1 := by
  cases move with
  | deadline id =>
    rw [Device.make, reachDeadline_eq]
    exact law.expired id h
  | _ => exact law.toCallLaw.make hmove nofun h

/-- **A law holds in every replay.** -/
theorem Law.replay (law : Law K I) {moves : List Move} (hmoves : ∀ c, .call c ∈ moves → K c)
    (h : I past d) : I (past ++ (d.replay moves).2) (d.replay moves).1 := by
  induction moves generalizing past d with
  | nil => rwa [Device.replay, List.append_nil]
  | cons move moves ih =>
    rw [replay_cons, ← List.append_assoc]
    exact ih (fun c hc ↦ hmoves c (List.mem_cons_of_mem _ hc))
      (law.make (fun c hc ↦ hmoves c (hc ▸ List.mem_cons_self)) h)

theorem law_path (path : String) : Law (fun _ ↦ True) fun _ d ↦ d.path = path where
  merged _ h := h
  connection _ h := h
  resolved h := h
  unresolved h := h
  announced _ h := h
  joined h _ _ := h
  answered h _ _ := h
  closed _ _ _ h := h
  expired _ h := h

@[simp] theorem path_update (d : Device) (changes : Changes) : (d.update changes).1.path = d.path :=
  @QuietLaw.update _ [] d (law_path d.path).toQuietLaw changes rfl

@[simp] theorem path_announce (d : Device) (path uuid : String) (flags : PropertyFlags) :
    (d.announce path uuid flags).1.path = d.path := by
  rcases announce_cases d path uuid flags with ⟨a, hdevice, -⟩ | ⟨failure, hdevice, -⟩
  · rw [hdevice]
    rfl
  · rw [hdevice]

@[simp] theorem path_replay (d : Device) (moves : List Move) : (d.replay moves).1.path = d.path :=
  @Law.replay _ _ [] d (law_path d.path) moves (fun _ _ ↦ trivial) rfl

theorem law_address (address : String) : Law (fun _ ↦ True) fun _ d ↦ d.address = address where
  merged _ h := h
  connection _ h := h
  resolved h := h
  unresolved h := h
  announced _ h := h
  joined h _ _ := h
  answered h _ _ := h
  closed _ _ _ h := h
  expired _ h := h

@[simp] theorem address_update (d : Device) (changes : Changes) :
    (d.update changes).1.address = d.address :=
  @QuietLaw.update _ [] d (law_address d.address).toQuietLaw changes rfl

@[simp] theorem address_replay (d : Device) (moves : List Move) :
    (d.replay moves).1.address = d.address :=
  @Law.replay _ _ [] d (law_address d.address) moves (fun _ _ ↦ trivial) rfl

/-! ## Batches announce nothing -/

@[simp] theorem announcements_update (d : Device) (changes : Changes) :
    (d.update changes).1.attributes.announcements = d.attributes.announcements := by
  have hdriven {change : Device → Bool → Device × Effects} (d : Device) (truth : Option Bool)
      (hchange : ∀ value, (change d value).1.attributes.announcements
        = d.attributes.announcements) :
      (driven change d truth).1.attributes.announcements = d.attributes.announcements := by
    cases truth with
    | none => rfl
    | some value => exact hchange value
  obtain ⟨hdevice, -⟩ := update_eq_driven d changes
  rw [hdevice, hdriven, hdriven]
  · rfl
  · intro value
    rw [connectionChanged_fst]
    rfl
  · intro value
    cases value with
    | true =>
      rw [resolutionChanged_true_fst]
      rfl
    | false =>
      rw [resolutionChanged_false_fst]
      rfl

@[simp] theorem announcements_replay (d : Device) (batches : List Changes) :
    (d.replay (batches.map .update)).1.attributes.announcements = d.attributes.announcements := by
  induction batches generalizing d with
  | nil => rfl
  | cons changes batches ih => exact (ih _).trans (announcements_update d changes)

end Device

end GattPeer
