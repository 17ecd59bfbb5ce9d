import GattPeer.Proofs.Device.Batch
import GattPeer.Proofs.Device.Malformed
import GattPeer.Proofs.Device.Stages

/-!
# What is known about a device

Beside those who wait for it, a device is what is known about it: the connection state, the
advertised properties, the announcements and the published ranges. Of all that happens to a device,
only a batch that is merged and an announcement that is stored add to that knowledge; who waits, and
how calls end, is told by it but does not change it. So the knowledge can be read off the history.
-/

namespace GattPeer

namespace Device

/-- What is known about a device. -/
structure Knowledge where
  /-- The connection state. -/
  state : ConnectionState
  /-- The advertised properties. -/
  advertisement : Advertisement
  /-- The announcements and the published ranges. -/
  attributes : AttributeTable

def knowledge (d : Device) : Knowledge := ⟨d.state, d.advertisement, d.attributes⟩

namespace Knowledge

/-- What is known after a batch. The ranges are published if it resolves the services. -/
def merging (k : Knowledge) (changes : Changes) : Knowledge where
  state := changes.news.foldl ConnectionState.upon k.state
  advertisement := k.advertisement.merge changes
  attributes :=
    if changes.truth? "ServicesResolved" = some true then k.attributes.publish.1 else k.attributes

def storing (k : Knowledge) (a : Announcement) : Knowledge :=
  { k with attributes :=
    { k.attributes with announcements := AttributeTable.store a k.attributes.announcements } }

def upon (k : Knowledge) : Happening → Knowledge
  | .merged changes => k.merging changes
  | .announced a => k.storing a
  | .notified .. | .ended _ => k

end Knowledge

end Device

/-- Whether something that happens adds to what is known: a batch and an announcement do. -/
def Happening.informs : Happening → Bool
  | .merged _ | .announced _ => true
  | .notified .. | .ended _ => false

namespace Device

theorem Knowledge.foldl_upon_eq_self (k : Knowledge) {course : List Happening}
    (h : ∀ x ∈ course, x.informs = false) : course.foldl Knowledge.upon k = k := by
  induction course with
  | nil => rfl
  | cons x course ih =>
    have hx : k.upon x = k := by
      cases x with
      | notified news state => rfl
      | ended e => rfl
      | _ => exact nomatch h _ List.mem_cons_self
    rw [List.foldl_cons, hx]
    exact ih fun y hy ↦ h y (List.mem_cons_of_mem _ hy)

/-! ## Batches -/

theorem attributes_connectionChanged (d : Device) (value : Bool) :
    (d.connectionChanged value).1.attributes = d.attributes := by
  rw [connectionChanged_fst]
  rfl

theorem attributes_resolutionChanged (d : Device) (value : Bool) :
    (d.resolutionChanged value).1.attributes
      = if value then d.attributes.publish.1 else d.attributes := by
  cases value with
  | true =>
    rw [resolutionChanged_true_fst]
    rfl
  | false =>
    rw [resolutionChanged_false_fst]
    rfl

theorem attributes_update (d : Device) (changes : Changes) :
    (d.update changes).1.attributes
      = if changes.truth? "ServicesResolved" = some true then d.attributes.publish.1
        else d.attributes := by
  have hconnected (d : Device) (truth : Option Bool) :
      (driven connectionChanged d truth).1.attributes = d.attributes := by
    cases truth with
    | none => rfl
    | some value => exact attributes_connectionChanged d value
  have hresolved (d : Device) (truth : Option Bool) :
      (driven resolutionChanged d truth).1.attributes
        = if truth = some true then d.attributes.publish.1 else d.attributes := by
    cases truth with
    | none => rfl
    | some value =>
      rw [driven, attributes_resolutionChanged]
      cases value <;> rfl
  rw [(update_eq_driven d changes).1, hresolved, hconnected]
  rfl

/-- **What a batch adds to what is known** does not depend on who waits. -/
theorem knowledge_update (d : Device) (changes : Changes) :
    (d.update changes).1.knowledge = d.knowledge.merging changes := by
  rw [knowledge, state_update, advertisement_update, attributes_update]
  rfl

/-! ## Moves -/

theorem informs_of_belongs {h : Happening} (hbelongs : h.belongs = true) : h.informs = false := by
  cases h with
  | notified news state => rfl
  | ended e => rfl
  | _ => exact nomatch hbelongs

theorem knowledge_make (d : Device) (move : Move) :
    (d.make move).1.knowledge = (d.make move).2.foldl Knowledge.upon d.knowledge := by
  cases move with
  | update changes =>
    obtain ⟨rest, hcourse⟩ := exists_rest_of_update d changes
    -- The merge comes first, and all it leads to are notifications and ends of calls.
    have hrest : ∀ x ∈ rest, x.informs = false :=
      fun x hx ↦ informs_of_belongs (belongs_of_update hcourse x hx)
    rw [make, hcourse, List.foldl_cons, Knowledge.foldl_upon_eq_self _ hrest]
    exact knowledge_update d changes
  | announce a => rfl
  | close id failure journal => rfl
  | deadline id =>
    rw [make, reachDeadline_eq, Knowledge.foldl_upon_eq_self _ fun x hx ↦
      informs_of_belongs (belongs_of_isEnd (isEnd_of_mem_endedAt hx))]
    rfl
  | call c =>
    rw [make]
    cases (waiter c).react d.state with
    | some woken => rfl
    | none => rfl

/-- **What is known can be read off the history**, whatever moves are made. -/
theorem knowledge_replay (d : Device) (moves : List Move) :
    (d.replay moves).1.knowledge = (d.replay moves).2.foldl Knowledge.upon d.knowledge := by
  induction moves generalizing d with
  | nil => rfl
  | cons move moves ih => rw [replay_cons, ih, List.foldl_append, knowledge_make]

end Device

end GattPeer
