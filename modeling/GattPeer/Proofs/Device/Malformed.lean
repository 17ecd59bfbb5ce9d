import GattPeer.Proofs.Device.Replay

/-!
# Values of the wrong shape

A batch may give a property a value that its reader rejects. Such a value keeps nothing else of the
batch from being merged: the batch does what it does without the property, but for one field. A name
or a signal strength of the wrong shape clears its field, so that an earlier reading is lost;
manufacturer data, the connection and the resolution of the services stay what they were.

## The argument

What a batch does to the connection and to the attributes does not depend on the advertised
properties but for the address, which no batch changes. So the advertised properties can be taken
out of the comparison, and they are merged property by property.
-/

namespace GattPeer

/-! ## Properties with a shape -/

/-- A property that is read from values of one shape only. -/
inductive ShapedProperty where
  /-- The name of the device, a text. -/
  | localName
  /-- The manufacturer data, a mapping. -/
  | manufacturerData
  /-- The signal strength, an integer. -/
  | signalStrength
  /-- Whether there is a connection, a truth value. -/
  | connection
  /-- Whether the services are resolved, a truth value. -/
  | resolution
  deriving DecidableEq, Repr

namespace ShapedProperty

def key : ShapedProperty → String
  | .localName => "Name"
  | .manufacturerData => "ManufacturerData"
  | .signalStrength => "RSSI"
  | .connection => "Connected"
  | .resolution => "ServicesResolved"

def rejects : ShapedProperty → Value → Bool
  | .localName, value => (Decode.text? value).isNone
  | .manufacturerData, value => (Decode.manufacturerData? value).isNone
  | .signalStrength, value => (Decode.signalStrength? value).isNone
  | .connection, value | .resolution, value => (Decode.truth? value).isNone

/-- What a rejected value of a property leaves of the advertised properties. -/
def clear : ShapedProperty → Advertisement → Advertisement
  | .localName, a => { a with localName := none }
  | .signalStrength, a => { a with signalStrength := none }
  | .manufacturerData, a | .connection, a | .resolution, a => a

theorem key_injective {p q : ShapedProperty} (h : p.key = q.key) : p = q := by
  revert h
  cases p <;> cases q <;> decide

end ShapedProperty

/-! ## Batches without a property -/

namespace Changes

def without (changes : Changes) (name : String) : Changes :=
  changes.filter fun entry ↦ !entry.1.isText name

theorem isText_of_isText {value : Value} {name other : String} (h : value.isText name = true)
    (hne : name ≠ other) : value.isText other = false := by
  cases value with
  | text t =>
    have ht : t = name := eq_of_beq h
    rw [Value.isText, ht, beq_eq_false_iff_ne]
    exact hne
  | _ => rfl

@[simp] theorem value?_without (changes : Changes) (name other : String) :
    (changes.without other).value? name = if name = other then none else changes.value? name := by
  rw [value?, value?, without, List.find?_filter]
  by_cases h : name = other
  · rw [if_pos h, Option.map_eq_none_iff, List.find?_eq_none]
    intro entry _
    simp [h]
  · rw [if_neg h]
    congr 2
    funext entry
    cases hentry : entry.1.isText name with
    | true => simp [isText_of_isText hentry h]
    | false => simp

end Changes

namespace Advertisement

theorem merge_of_rejects (a : Advertisement) {changes : Changes} {p : ShapedProperty}
    {value : Value} (hvalue : changes.value? p.key = some value)
    (hrejects : p.rejects value = true) :
    a.merge changes = p.clear (a.merge (changes.without p.key)) := by
  cases p with
  | localName =>
    have hname : changes.value? "Name" = some value := hvalue
    have hread : Decode.text? value = none := Option.isNone_iff_eq_none.mp hrejects
    simp [merge, ShapedProperty.clear, ShapedProperty.key, hname, hread]
  | manufacturerData =>
    have hdata : changes.value? "ManufacturerData" = some value := hvalue
    have hread : Decode.manufacturerData? value = none := Option.isNone_iff_eq_none.mp hrejects
    simp [merge, ShapedProperty.clear, ShapedProperty.key, hdata, hread]
  | signalStrength =>
    have hstrength : changes.value? "RSSI" = some value := hvalue
    have hread : Decode.signalStrength? value = none := Option.isNone_iff_eq_none.mp hrejects
    simp [merge, ShapedProperty.clear, ShapedProperty.key, hstrength, hread]
  | connection =>
    simp [merge, ShapedProperty.clear, ShapedProperty.key]
  | resolution =>
    simp [merge, ShapedProperty.clear, ShapedProperty.key]

theorem clear_merge_without_eq_iff (a : Advertisement) (changes : Changes) (p : ShapedProperty) :
    p.clear (a.merge (changes.without p.key)) = a.merge (changes.without p.key) ↔
      (p = .localName → a.localName = none) ∧
        (p = .signalStrength → a.signalStrength = none) := by
  cases p with
  | localName =>
    have hfield : (a.merge (changes.without "Name")).localName = a.localName := by
      simp [merge]
    constructor
    · intro h
      refine ⟨fun _ ↦ ?_, nofun⟩
      rw [← hfield, ← ShapedProperty.key, ← h]
      rfl
    · rintro ⟨hname, -⟩
      rw [← hfield] at hname
      rw [ShapedProperty.clear, ← hname rfl]
      rfl
  | signalStrength =>
    have hfield : (a.merge (changes.without "RSSI")).signalStrength = a.signalStrength := by
      simp [merge]
    constructor
    · intro h
      refine ⟨nofun, fun _ ↦ ?_⟩
      rw [← hfield, ← ShapedProperty.key, ← h]
      rfl
    · rintro ⟨-, hstrength⟩
      rw [← hfield] at hstrength
      rw [ShapedProperty.clear, ← hstrength rfl]
      rfl
  | manufacturerData => exact ⟨fun _ ↦ ⟨nofun, nofun⟩, fun _ ↦ rfl⟩
  | connection => exact ⟨fun _ ↦ ⟨nofun, nofun⟩, fun _ ↦ rfl⟩
  | resolution => exact ⟨fun _ ↦ ⟨nofun, nofun⟩, fun _ ↦ rfl⟩

end Advertisement

namespace Device

/-! ## What a batch does beside the advertised properties -/

/-- The device with what a rejected value of a property leaves of its advertised properties. -/
def clearing (p : ShapedProperty) (d : Device) : Device :=
  { d with advertisement := p.clear d.advertisement }

variable (p : ShapedProperty)

theorem clearing_eq_self_iff (d : Device) :
    d.clearing p = d ↔ p.clear d.advertisement = d.advertisement := by
  constructor
  · exact fun h ↦ congrArg (·.advertisement) h
  · intro h
    rw [clearing, h]

@[simp] theorem address_clearing (d : Device) : (d.clearing p).address = d.address := by
  cases p <;> rfl

@[simp] theorem finish_clearing (d : Device) : (d.clearing p).finish = d.finish := by
  have hresult : (d.clearing p).result = d.result := by
    funext purpose state
    cases purpose with
    | connect budget left => rw [result, result, address_clearing]
    | discover first last =>
      rw [result, result, address_clearing]
      rfl
  funext w
  rw [finish, finish, hresult]

@[simp] theorem endedBy_clearing (d : Device) (state : ConnectionState) :
    (d.clearing p).endedBy state = d.endedBy state := by
  rw [endedBy, endedBy, finish_clearing]
  rfl

theorem driven_clearing {change : Device → Bool → Device × Effects}
    (hchange : ∀ d b, (change (d.clearing p) b).1 = (change d b).1.clearing p ∧
      (change (d.clearing p) b).2.course = (change d b).2.course)
    (d : Device) (truth : Option Bool) :
    driven change (d.clearing p) truth
      = ((driven change d truth).1.clearing p, (driven change d truth).2) := by
  cases truth with
  | none => rfl
  | some b => exact Prod.ext (hchange d b).1 (hchange d b).2

theorem connectionChanged_clearing (d : Device) (value : Bool) :
    ((d.clearing p).connectionChanged value).1 = (d.connectionChanged value).1.clearing p ∧
      ((d.clearing p).connectionChanged value).2.course
        = (d.connectionChanged value).2.course := by
  rw [connectionChanged_fst, connectionChanged_fst, connectionChanged_course,
    connectionChanged_course, endedBy_clearing]
  exact ⟨rfl, rfl⟩

theorem resolutionChanged_clearing (d : Device) (value : Bool) :
    ((d.clearing p).resolutionChanged value).1 = (d.resolutionChanged value).1.clearing p ∧
      ((d.clearing p).resolutionChanged value).2.course
        = (d.resolutionChanged value).2.course := by
  cases value with
  | true =>
    rw [resolutionChanged_true_fst, resolutionChanged_true_fst, resolutionChanged_true_course,
      resolutionChanged_true_course]
    exact ⟨rfl, congrArg _ (endedBy_clearing p d.republished _)⟩
  | false =>
    rw [resolutionChanged_false_fst, resolutionChanged_false_fst, resolutionChanged_false_course,
      resolutionChanged_false_course, endedBy_clearing]
    exact ⟨rfl, rfl⟩

theorem advertisement_driven {change : Device → Bool → Device × Effects}
    (hchange : ∀ d b, (change d b).1.advertisement = d.advertisement) (d : Device)
    (truth : Option Bool) : (driven change d truth).1.advertisement = d.advertisement := by
  cases truth with
  | none => rfl
  | some b => exact hchange d b

@[simp] theorem advertisement_update (d : Device) (changes : Changes) :
    (d.update changes).1.advertisement = d.advertisement.merge changes := by
  rw [(update_eq_driven d changes).1, advertisement_driven, advertisement_driven]
  · rfl
  · intro d value
    rw [connectionChanged_fst]
    rfl
  · intro d value
    cases value with
    | true =>
      rw [resolutionChanged_true_fst]
      rfl
    | false =>
      rw [resolutionChanged_false_fst]
      rfl

variable {p}

theorem truth?_without {changes : Changes} {value : Value}
    (hvalue : changes.value? p.key = some value) (hrejects : p.rejects value = true)
    (q : ShapedProperty) (hq : q = .connection ∨ q = .resolution) :
    changes.truth? q.key = (changes.without p.key).truth? q.key := by
  rw [Changes.truth?, Changes.truth?, Changes.value?_without]
  by_cases h : q.key = p.key
  · obtain rfl := ShapedProperty.key_injective h
    have hread : Decode.truth? value = none := by
      rcases hq with rfl | rfl
      · exact Option.isNone_iff_eq_none.mp hrejects
      · exact Option.isNone_iff_eq_none.mp hrejects
    rw [if_pos rfl, hvalue, Option.bind_some, hread]
    rfl
  · rw [if_neg h]

/-- **A batch with a rejected value** does what it does without it, but for one field. -/
theorem update_of_rejects (d : Device) {changes : Changes} {value : Value}
    (hvalue : changes.value? p.key = some value) (hrejects : p.rejects value = true) :
    (d.update changes).1 = (d.update (changes.without p.key)).1.clearing p ∧
      (d.update changes).2.course.tail = (d.update (changes.without p.key)).2.course.tail := by
  obtain ⟨hdevice, hcourse⟩ := update_eq_driven d changes
  obtain ⟨hdevice', hcourse'⟩ := update_eq_driven d (changes.without p.key)
  have hmerging : d.merging changes = (d.merging (changes.without p.key)).clearing p := by
    rw [merging, d.advertisement.merge_of_rejects hvalue hrejects]
    rfl
  have hconnected : changes.truth? "Connected" = (changes.without p.key).truth? "Connected" :=
    truth?_without hvalue hrejects .connection (.inl rfl)
  have hresolved : changes.truth? "ServicesResolved"
      = (changes.without p.key).truth? "ServicesResolved" :=
    truth?_without hvalue hrejects .resolution (.inr rfl)
  rw [hmerging, hconnected, hresolved, driven_clearing p (connectionChanged_clearing p),
    driven_clearing p (resolutionChanged_clearing p)] at hdevice hcourse
  rw [hdevice, hcourse, hdevice', hcourse']
  exact ⟨rfl, rfl⟩

/-- **A value of the wrong shape clears a name or a signal strength, and does nothing else.** A
batch with such a value takes the device where it comes without it, and lets the same happen on the
way, but for the name or the signal strength if it is theirs. So the value is skipped exactly if the
field that it would clear is empty already. -/
theorem rejected_value_clears_only_name_or_strength (d : Device) {changes : Changes} {value : Value}
    (hvalue : changes.value? p.key = some value) (hrejects : p.rejects value = true) :
    let skipping := d.update (changes.without p.key)
    (d.update changes).1 = skipping.1.clearing p ∧
    (d.update changes).2.course.tail = skipping.2.course.tail ∧
    ((d.update changes).1 = skipping.1 ↔
      (p = .localName → d.advertisement.localName = none) ∧
        (p = .signalStrength → d.advertisement.signalStrength = none)) := by
  intro skipping
  obtain ⟨hdevice, hcourse⟩ := d.update_of_rejects hvalue hrejects
  refine ⟨hdevice, hcourse, ?_⟩
  rw [hdevice, clearing_eq_self_iff, advertisement_update,
    Advertisement.clear_merge_without_eq_iff]

/-- A connection of the wrong shape is skipped, while the name beside it is merged. -/
theorem malformed_connection_is_skipped :
    let d := initial "/dev" "" .notConnected
    let changes : Changes := [("Connected", .text "yes"), ("Name", .text "Sensor")]
    changes.value? "Connected" = some (.text "yes") ∧ Decode.truth? (.text "yes") = none ∧
      (d.update changes).1 = (d.update [("Name", .text "Sensor")]).1 := by
  intro d changes
  have hvalue : changes.value? "Connected" = some (.text "yes") := rfl
  obtain ⟨-, -, hskipped⟩ :=
    @rejected_value_clears_only_name_or_strength .connection d changes _ hvalue rfl
  exact ⟨hvalue, rfl, hskipped.mpr ⟨nofun, nofun⟩⟩

/-- A name of the wrong shape is not skipped: the name that the device had is lost. -/
theorem malformed_name_is_not_skipped :
    let d := (initial "/dev" "" .notConnected).run [.update [("Name", .text "Sensor")]]
    let changes : Changes := [("Name", .int 42)]
    Decode.text? (.int 42) = none ∧ changes.without "Name" = [] ∧
      (d.update (changes.without "Name")).1.advertisement.localName = some "Sensor" ∧
      (d.update changes).1.advertisement.localName = none := by
  decide

end Device

end GattPeer
