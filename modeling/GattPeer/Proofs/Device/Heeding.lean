import GattPeer.Proofs.Device.Reports
import GattPeer.Proofs.FallibleSort.Comparable

/-!
# What a device heeds

A device heeds the batches on its own path and on the paths below it, if they are not paths of
attributes. Of all other batches, and of the names that a batch says are no longer valid, nothing is
left but a notice.

So a device may be *pared*: the notices of what was disregarded are struck out of the journals of
the calls that wait. A pared device makes the same of the same batches, in which nothing is said to
be invalid. It is pared afterwards, and so is all that happened to it.
-/

namespace GattPeer

/-! ## What is heeded -/

/-- Whether a device heeds what happens on a path: the path lies within its own, and it is not the
path of an attribute. -/
def Device.heeds (own path : String) : Bool :=
  ObjectPath.isWithin path own && !(Handle.ofPath path).isOk

/-- A batch that says nothing is invalid. -/
def Batch.pared (batch : Batch) : Batch := { batch with invalidated := [] }

/-- What is heeded of some batches. -/
def Batch.paredAll (own : String) (batches : List Batch) : List Batch :=
  (batches.filter fun batch ↦ Device.heeds own batch.path).map pared

/-- The names of the changed properties in a batch are texts. -/
def Batch.HasTextKeys (batch : Batch) : Prop :=
  ∀ key ∈ batch.changes.map (·.1), ∃ text, key = .text text

/-- Whether a notice is about something that a device disregards: a batch, or what is invalid in
one, or the failure of someone who was told of a batch that the device disregards. -/
def Notice.disregards (own : String) : Notice → Bool
  | .foreignBatch .. | .attributeBatch .. | .invalidated .. => true
  | .callbackFailed path => !Device.heeds own path
  | _ => false

/-- Notices without those about something that is disregarded. -/
def Notice.pared (own : String) (notices : List Notice) : List Notice :=
  notices.filter fun n ↦ !n.disregards own

def Call.pared (own : String) (c : Call) : Call := { c with journal := Notice.pared own c.journal }

def EndedCall.pared (own : String) (e : EndedCall) : EndedCall :=
  { e with journal := Notice.pared own e.journal }

def Happening.pared (own : String) : Happening → Happening
  | .ended e => .ended (e.pared own)
  | h => h

def Effects.pared (own : String) (effects : Effects) : Effects :=
  ⟨Notice.pared own effects.notices, effects.course.map (Happening.pared own)⟩

/-- Of all notices, those are kept that are about nothing disregarded. -/
def Sieve.heeding (own : String) : Sieve where
  keeps n := !n.disregards own
  keeps_device n h := by cases n <;> first | rfl | cases h

theorem Happening.pared_eq_sifted (own : String) :
    Happening.pared own = Happening.sifted (.heeding own) := by
  funext h
  cases h <;> rfl

@[simp] theorem Notice.pared_append (own : String) (xs ys : List Notice) :
    Notice.pared own (xs ++ ys) = Notice.pared own xs ++ Notice.pared own ys :=
  List.filter_append ..

theorem Notice.pared_eq_self {own : String} {notices : List Notice}
    (h : ∀ n ∈ notices, n.disregards own = false) : Notice.pared own notices = notices := by
  refine List.filter_eq_self.mpr fun n hn ↦ ?_
  rw [h n hn]
  rfl

namespace Device

variable (own : String) (d : Device)

def pared : Device := { d with monitor := d.monitor.relabel (Call.pared own) }

theorem subject_eq_device_iff {d : Device} {path : String} :
    d.subject path = .device ↔ heeds d.path path = true := by
  rw [subject, heeds]
  cases ObjectPath.isWithin path d.path with
  | false => simp
  | true => cases Handle.ofPath path <;> simp [Except.isOk, Except.toBool]

/-! ## Batches -/

def paredWith (result : Device × Effects) : Device × Effects :=
  (result.1.pared own, result.2.pared own)

theorem disregards_of_isOfMerge {n : Notice} (h : n.isOfMerge = true) :
    n.disregards own = false := by
  cases n <;> simp_all [Notice.isOfMerge, Notice.disregards]

/-- **A batch for the device does the same to a pared device.** -/
@[simp] theorem update_pared (changes : Changes) :
    (d.pared own).update changes = paredWith own (d.update changes) := by
  have hnotices : Notice.pared own (d.update changes).2.notices = (d.update changes).2.notices :=
    Notice.pared_eq_self fun n hn ↦
      disregards_of_isOfMerge own (isOfMerge_update d changes n hn)
  rw [paredWith, Effects.pared, hnotices, Happening.pared_eq_sifted]
  exact d.update_sifted (.heeding own) changes

/-- **What a device heeds, a pared device heeds**, and it makes the same of it. -/
theorem receive_pared {d : Device} {batch : Batch} (h : heeds d.path batch.path = true) :
    (d.pared own).receive batch.pared = (d.receive batch).map (paredWith own) := by
  have hsubject : d.subject batch.path = .device := subject_eq_device_iff.mpr h
  have hsubject' : (d.pared own).subject batch.pared.path = .device := hsubject
  have hchanges : batch.pared.changes = batch.changes := rfl
  have hinvalidated : Notice.pared own
      (if batch.invalidated.isEmpty then [] else [.invalidated d.address batch.invalidated])
        = [] := by
    split <;> rfl
  rw [receive, receive, hsubject, hsubject', hchanges, update_pared]
  simp only [paredWith, Effects.pared, Except.map, Notice.pared_append, hinvalidated]
  rfl

/-- **What a device disregards leaves nothing but a notice**, if it is received. It always is if the
names of the changed properties are texts. -/
theorem receive_of_not_heeds {d : Device} {batch : Batch} (h : heeds d.path batch.path = false) :
    (∃ n, d.receive batch = .ok (d, ⟨[n], []⟩) ∧ n.disregards own = true) ∨
      ¬batch.HasTextKeys ∧ ∃ failure, d.receive batch = .error failure := by
  rw [receive]
  split
  · exact .inl ⟨_, rfl, rfl⟩
  · cases hnames : Value.sortKeys (batch.changes.map (·.1)) with
    | ok names => exact .inl ⟨_, rfl, rfl⟩
    | error failure =>
      refine .inr ⟨fun hkeys ↦ ?_, failure, rfl⟩
      obtain ⟨names, hsorted, -⟩ := Value.exists_sortKeys hkeys
      cases hnames.symm.trans hsorted
  · next hsubject =>
    exact absurd (h.symm.trans (subject_eq_device_iff.mp hsubject)) Bool.false_ne_true

theorem announce_pared (path uuid : String) (flags : PropertyFlags) :
    (d.pared own).announce path uuid flags = ((d.announce path uuid flags).1.pared own,
      (d.announce path uuid flags).2) := d.announce_sifted (.heeding own) path uuid flags

theorem pared_notices_announce (path uuid : String) (flags : PropertyFlags) :
    Notice.pared own (d.announce path uuid flags).2.1 = (d.announce path uuid flags).2.1 := by
  refine Notice.pared_eq_self ?_
  unfold announce AttributeTable.announce
  generalize Announcement.read path uuid flags = read
  cases read with
  | error failure => simp [Notice.disregards]
  | ok a =>
    intro n hn
    rcases List.mem_cons.mp hn with rfl | hn
    · rfl
    · split at hn
      · rw [List.mem_singleton.mp hn]
        rfl
      · exact absurd hn List.not_mem_nil

end Device

end GattPeer
