import GattPeer.Proofs.Device.Replay
import Mathlib.Data.List.Induction

/-!
# The stage of a connection after a run

Each batch of the device itself brings news: of the connection first, then of the services, as far
as it has these properties and they have the right shape. The connection state after a run is a
function of the news alone, and only what came since the connection was dropped for the last time
counts: the services are known if that was said since then, and otherwise there is a connection if
that was said since then.

## The argument

The state after a run folds `ConnectionState.upon` over the news. A drop sets the state back
whatever it was, which is why nothing before the last drop matters; between drops the state only
rises, and news that it has followed once leave it as it is.
-/

namespace GattPeer

/-! ## News -/

/-- The news that a batch brings, in the order in which they are handled. -/
def Changes.news (changes : Changes) : List News :=
  ((changes.truth? "Connected").map News.connection).toList
    ++ ((changes.truth? "ServicesResolved").map News.resolution).toList

/-- The state upon some news. -/
def ConnectionState.upon (state : ConnectionState) : News → ConnectionState
  | .connection true => if state = .notConnected then .connected else state
  | .connection false => .notConnected
  | .resolution true => .servicesResolved
  | .resolution false | .stored => state

/-- The state after news that come to a device without a connection. -/
def ConnectionState.after (news : List News) : ConnectionState :=
  news.foldl ConnectionState.upon .notConnected

/-- Some news came, and the connection was not dropped since. -/
def SinceDrop (e : News) (news : List News) : Prop :=
  ∃ early late, news = early ++ e :: late ∧ .connection false ∉ late

/-- Whether news take back others: a drop takes back that there is a connection and that the
services are resolved, and each of these takes back a drop. -/
def News.opposes : News → News → Bool
  | .connection a, .connection b => a != b
  | .connection false, .resolution true | .resolution true, .connection false => true
  | _, _ => false

/-- Some news came, and nothing took them back since. -/
def Stands (e : News) (news : List News) : Prop :=
  ∃ early late, news = early ++ e :: late ∧ ∀ x ∈ late, x.opposes e = false

theorem not_sinceDrop_nil (e : News) : ¬SinceDrop e [] := by
  rintro ⟨early, late, hsplit, -⟩
  exact absurd hsplit.symm (List.append_ne_nil_of_right_ne_nil _ (List.cons_ne_nil _ _))

theorem sinceDrop_append_singleton {e x : News} {news : List News} :
    SinceDrop e (news ++ [x]) ↔ e = x ∨ x ≠ .connection false ∧ SinceDrop e news := by
  constructor
  · rintro ⟨early, late, hsplit, hlate⟩
    rcases List.eq_nil_or_concat late with rfl | ⟨late, y, rfl⟩
    · exact .inl (List.append_singleton_inj.mp hsplit).2.symm
    · rw [List.concat_eq_append, ← List.cons_append, ← List.append_assoc] at hsplit
      obtain ⟨hnews, rfl⟩ := List.append_singleton_inj.mp hsplit
      rw [List.concat_eq_append, List.mem_append, List.mem_singleton, not_or] at hlate
      exact .inr ⟨Ne.symm hlate.2, early, late, hnews, hlate.1⟩
  · rintro (rfl | ⟨hx, early, late, rfl, hlate⟩)
    · exact ⟨news, [], rfl, List.not_mem_nil⟩
    · refine ⟨early, late ++ [x], by rw [List.append_assoc, List.cons_append], ?_⟩
      rw [List.mem_append, List.mem_singleton, not_or]
      exact ⟨hlate, Ne.symm hx⟩

namespace ConnectionState

@[simp] theorem after_append_singleton (news : List News) (e : News) :
    after (news ++ [e]) = (after news).upon e := List.foldl_append

/-! ## The closed form -/

/-- **The state after news**: services are known if that was said since the last drop, and otherwise
there is a connection if that was said since then. -/
theorem after_eq_iff (news : List News) :
    (after news = .servicesResolved ↔ SinceDrop (.resolution true) news) ∧
      (after news = .connected ↔
        ¬SinceDrop (.resolution true) news ∧ SinceDrop (.connection true) news) := by
  induction news using List.reverseRecOn with
  | nil =>
    have hresolved := not_sinceDrop_nil (.resolution true)
    have hconnected := not_sinceDrop_nil (.connection true)
    exact ⟨⟨nofun, fun h ↦ absurd h hresolved⟩, ⟨nofun, fun h ↦ absurd h.2 hconnected⟩⟩
  | append_singleton news e ih =>
    obtain ⟨hresolved, hconnected⟩ := ih
    rw [after_append_singleton, sinceDrop_append_singleton, sinceDrop_append_singleton,
      ← hresolved]
    -- Where the connection property is true, the state tells whether it was so before.
    have hsince : after news = .notConnected → ¬SinceDrop (.connection true) news := by
      intro hstate hsince
      have hunresolved : ¬SinceDrop (.resolution true) news := by
        rw [← hresolved, hstate]
        nofun
      exact nomatch hstate.symm.trans (hconnected.mpr ⟨hunresolved, hsince⟩)
    rw [← hresolved] at hconnected
    cases e with
    | stored => simp [upon, hconnected]
    | resolution value =>
      cases value with
      | true => simp [upon]
      | false => simp [upon, hconnected]
    | connection value =>
      cases value with
      | false => simp [upon]
      | true => cases hstate : after news <;> simp [upon]

/-! ## News that change nothing -/

@[simp] theorem upon_upon_self (state : ConnectionState) (e : News) :
    (state.upon e).upon e = state.upon e := by
  cases state <;> cases e with
  | stored => rfl
  | connection value => cases value <;> rfl
  | resolution value => cases value <;> rfl

/-- News that a state has followed leave it as it is until others take them back. -/
theorem upon_upon_of_not_opposes {state : ConnectionState} {e x : News}
    (h : state.upon e = state) (hx : x.opposes e = false) :
    (state.upon x).upon e = state.upon x := by
  revert h hx
  cases x with
  | stored => exact fun h _ ↦ h
  | connection a =>
    cases e with
    | stored => exact fun _ _ ↦ rfl
    | connection b => cases state <;> cases a <;> cases b <;> decide
    | resolution b => cases state <;> cases a <;> cases b <;> decide
  | resolution a =>
    cases e with
    | stored => exact fun _ _ ↦ rfl
    | connection b => cases state <;> cases a <;> cases b <;> decide
    | resolution b => cases state <;> cases a <;> cases b <;> decide

theorem after_upon_of_stands {e : News} {news : List News} (h : Stands e news) :
    (after news).upon e = after news := by
  obtain ⟨early, late, rfl, hlate⟩ := h
  induction late using List.reverseRecOn with
  | nil =>
    rw [after_append_singleton]
    exact upon_upon_self _ _
  | append_singleton late x ih =>
    rw [← List.cons_append, ← List.append_assoc, after_append_singleton]
    refine upon_upon_of_not_opposes (ih fun y hy ↦ ?_) ?_
    · exact hlate y (List.mem_append_left _ hy)
    · exact hlate x (List.mem_append_right _ (List.mem_singleton_self x))

theorem foldl_upon_eq_self {state : ConnectionState} {news : List News}
    (h : ∀ e ∈ news, state.upon e = state) : news.foldl upon state = state := by
  induction news with
  | nil => rfl
  | cons e news ih =>
    rw [List.foldl_cons, h e List.mem_cons_self]
    exact ih fun x hx ↦ h x (List.mem_cons_of_mem _ hx)

end ConnectionState

namespace Device

/-! ## Runs -/

/-- The news that an operation brings: a batch about another device or about an attribute brings
none. -/
def newsOf (d : Device) : Operation → List News
  | .update changes => changes.news
  | .receive batch => if d.subject batch.path = .device then batch.changes.news else []
  | .setState _ | .announce .. => []

theorem state_driven {change : Device → Bool → Device × Effects} {news : Bool → News}
    (hchange : ∀ d b, (change d b).1.state = d.state.upon (news b)) (d : Device)
    (truth : Option Bool) :
    (driven change d truth).1.state
      = ((truth.map news).toList).foldl ConnectionState.upon d.state := by
  cases truth with
  | none => rfl
  | some b => exact hchange d b

theorem state_connectionChanged (d : Device) (value : Bool) :
    (d.connectionChanged value).1.state = d.state.upon (.connection value) := by
  rw [connectionChanged_fst]
  cases value <;> rfl

theorem state_resolutionChanged (d : Device) (value : Bool) :
    (d.resolutionChanged value).1.state = d.state.upon (.resolution value) := by
  cases value with
  | true =>
    rw [resolutionChanged_true_fst]
    rfl
  | false =>
    rw [resolutionChanged_false_fst]
    rfl

/-- **A batch takes the state through its news.** -/
theorem state_update (d : Device) (changes : Changes) :
    (d.update changes).1.state = changes.news.foldl ConnectionState.upon d.state := by
  rw [(update_eq_driven d changes).1, state_driven state_resolutionChanged,
    state_driven state_connectionChanged, Changes.news, List.foldl_append]
  rfl

/-- **An operation takes the state through its news**, unless it stores a state, and the device
stays where it is. -/
theorem state_and_path_step (d : Device) {operation : Operation}
    (h : ∀ state, operation ≠ .setState state) :
    (d.step operation).1.state = (d.newsOf operation).foldl ConnectionState.upon d.state ∧
      (d.step operation).1.path = d.path := by
  cases operation with
  | update changes => exact ⟨state_update d changes, path_update d changes⟩
  | setState state => exact absurd rfl (h state)
  | announce path uuid flags =>
    rcases announce_cases d path uuid flags with ⟨a, hdevice, -⟩ | ⟨failure, hdevice, -⟩
    · rw [step, hdevice]
      exact ⟨rfl, rfl⟩
    · rw [step, hdevice]
      exact ⟨rfl, rfl⟩
  | receive batch =>
    rw [step, newsOf]
    cases hreceive : d.receive batch with
    | error failure =>
      rw [if_neg (subject_ne_of_receive_eq_error hreceive)]
      exact ⟨rfl, rfl⟩
    | ok result =>
      rcases receive_eq_ok hreceive with ⟨hsubject, hdevice, -⟩ | ⟨hsubject, hdevice, -⟩
      · rw [if_pos hsubject, hdevice]
        exact ⟨state_update d batch.changes, path_update d batch.changes⟩
      · rw [if_neg hsubject, hdevice]
        exact ⟨rfl, rfl⟩

theorem newsOf_eq_of_path {d d' : Device} (h : d'.path = d.path) : d'.newsOf = d.newsOf := by
  funext operation
  cases operation with
  | receive batch => rw [newsOf, newsOf, subject_eq_of_path h]
  | _ => rfl

/-- **A run takes the state through the news of its operations.** -/
theorem state_run (d : Device) {operations : List Operation}
    (h : ∀ state, .setState state ∉ operations) :
    (d.run operations).state
      = (operations.flatMap d.newsOf).foldl ConnectionState.upon d.state := by
  induction operations generalizing d with
  | nil => rfl
  | cons operation operations ih =>
    have hfirst : ∀ state, operation ≠ .setState state := by
      rintro state rfl
      exact h state List.mem_cons_self
    have hrest : ∀ state, .setState state ∉ operations :=
      fun state hmem ↦ h state (List.mem_cons_of_mem _ hmem)
    obtain ⟨hstate, hpath⟩ := state_and_path_step d hfirst
    have hrun : d.run (operation :: operations) = (d.step operation).1.run operations := rfl
    rw [hrun, ih (d.step operation).1 hrest, newsOf_eq_of_path hpath, hstate,
      List.flatMap_cons, List.foldl_append]

/-- **The connection state after a run of batches** is that of the news since the last drop, or
since the beginning if there was none: the services count as resolved exactly if that was said since
then; there is a connection, without known services, exactly if only that was said; and there is
none otherwise. The news that the services are not resolved change nothing, and neither do those
that were there before and that nothing took back since. -/
theorem state_follows_news_since_drop (path address : String) (operations : List Operation)
    (hbatches : ∀ state, .setState state ∉ operations) :
    let start := initial path address .notConnected
    let d := start.run operations
    let news := operations.flatMap start.newsOf
    (d.state = .servicesResolved ↔ SinceDrop (.resolution true) news) ∧
    (d.state = .connected ↔
      ¬SinceDrop (.resolution true) news ∧ SinceDrop (.connection true) news) ∧
    (d.state = .notConnected ↔
      ¬SinceDrop (.resolution true) news ∧ ¬SinceDrop (.connection true) news) ∧
    ∀ changes : Changes, (∀ e ∈ changes.news, e = .resolution false ∨ Stands e news) →
      (d.update changes).1.state = d.state := by
  intro start d news
  have hstate : d.state = .after news := state_run start hbatches
  obtain ⟨hresolved, hconnected⟩ := ConnectionState.after_eq_iff news
  rw [← hstate] at hresolved hconnected
  refine ⟨hresolved, hconnected, ?_, fun changes hchanges ↦ ?_⟩
  · rw [← hresolved]
    rw [← hresolved] at hconnected
    cases hcases : d.state with
    | notConnected =>
      rw [hcases] at hconnected
      exact ⟨fun _ ↦ ⟨nofun, fun h ↦ nomatch hconnected.mpr ⟨nofun, h⟩⟩, fun _ ↦ rfl⟩
    | connected => exact ⟨nofun, fun h ↦ absurd (hconnected.mp hcases).2 h.2⟩
    | servicesResolved => exact ⟨nofun, fun h ↦ absurd rfl h.1⟩
  · rw [state_update]
    refine ConnectionState.foldl_upon_eq_self fun e he ↦ ?_
    rcases hchanges e he with rfl | hstands
    · rfl
    · rw [hstate]
      exact ConnectionState.after_upon_of_stands hstands

/-- After a drop only the connection was heard of again, so that the services, which were resolved
before, do not count as such; a resolution of the wrong shape does not matter. -/
theorem reconnection_is_not_resolution :
    let operations : List Operation := [
      .update [("Connected", .variant "b" (.bool true)), ("ServicesResolved", .int 1)],
      .update [("Connected", .bool false)],
      .receive ⟨"/dev", [("ServicesResolved", .text "yes"), ("Connected", .bool true)], []⟩,
      .receive ⟨"/other", [("ServicesResolved", .bool true)], []⟩]
    (∀ state, .setState state ∉ operations) ∧
      ((initial "/dev" "" .notConnected).run operations).state = .connected := by
  intro operations
  have hbatches : ∀ state, .setState state ∉ operations := by
    intro state hmem
    simp [operations] at hmem
  have hnews : operations.flatMap (initial "/dev" "" .notConnected).newsOf
      = [.connection true, .resolution true, .connection false, .connection true] := by
    decide +kernel
  obtain ⟨-, hconnected, -⟩ := state_follows_news_since_drop "/dev" "" operations hbatches
  rw [hnews] at hconnected
  refine ⟨hbatches, hconnected.mpr ⟨?_, ?_⟩⟩
  · rw [← (ConnectionState.after_eq_iff _).1]
    decide
  · exact ⟨[.connection true, .resolution true, .connection false], [], rfl, List.not_mem_nil⟩

end Device

end GattPeer
