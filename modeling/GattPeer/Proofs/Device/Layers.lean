import GattPeer.Proofs.Decode.Layers
import GattPeer.Proofs.Device.Malformed

/-!
# Layers make no difference to a device

A batch may label its values with type signatures, around a value or anywhere inside it, as often as
it likes. A device that merges the batch comes to the same whatever the labels are: the same
properties, the same connection state, the same characteristics and the same calls that wait or end.
It rejects the same values too, and in its reports of them the labels are all that differs.

## The argument

The readers ignore layers, and a batch is merged, followed and reported through them alone. So what
a batch comes to is compared with what another one comes to, reader by reader; only a report shows a
value as it came.
-/

namespace GattPeer

open Decode

theorem ShapedProperty.ignoresLayers_rejects (p : ShapedProperty) : IgnoresLayers p.rejects := by
  cases p with
  | localName => exact ignoresLayers_text?.comp Option.isNone
  | manufacturerData => exact ignoresLayers_manufacturerData?.comp Option.isNone
  | signalStrength => exact ignoresLayers_signalStrength?.comp Option.isNone
  | connection => exact ignoresLayers_truth?.comp Option.isNone
  | resolution => exact ignoresLayers_truth?.comp Option.isNone

/-! ## Batches that differ in layers -/

namespace Changes

/-- Two batches give the same properties, with values that differ in nothing but their layers. -/
def SameBeneath (changes changes' : Changes) : Prop :=
  ∀ name, (changes.value? name).map Value.bare = (changes'.value? name).map Value.bare

variable {changes changes' : Changes}

/-- Batches under the same keys, with values that are the same without their layers. -/
theorem sameBeneath_of_map_eq (h : changes.map (Prod.map id Value.bare)
    = changes'.map (Prod.map id Value.bare)) : changes.SameBeneath changes' := by
  have hfind (c : Changes) (name : String) : (c.value? name).map Value.bare
      = ((c.map (Prod.map id Value.bare)).find? fun entry ↦ entry.1.isText name).map (·.2) := by
    rw [value?, List.find?_map, Option.map_map, Option.map_map]
    rfl
  intro name
  rw [hfind, hfind, h]

theorem SameBeneath.merge_eq (h : SameBeneath changes changes') (a : Advertisement) :
    a.merge changes = a.merge changes' := by
  have hfields (c : Changes) : a.merge c = ⟨a.address,
      (c.value? "AddressType").elim a.addressType fun value ↦ .ofText? (text? value),
      (c.value? "Name").elim a.localName text?,
      (c.value? "RSSI").elim a.signalStrength signalStrength?,
      (c.value? "ManufacturerData").elim a.manufacturerData
        fun value ↦ (manufacturerData? value).or a.manufacturerData,
      a.updates + 1⟩ := by
    simp only [Advertisement.merge, Advertisement.mk.injEq, true_and, and_true]
    refine ⟨?_, ?_, ?_, ?_⟩
    · cases c.value? "AddressType" <;> rfl
    · cases c.value? "Name" <;> rfl
    · cases c.value? "RSSI" <;> rfl
    · cases c.value? "ManufacturerData" <;> rfl
  rw [hfields, hfields, (ignoresLayers_text?.comp AddressType.ofText?).elim_eq (h _),
    ignoresLayers_text?.elim_eq (h _), ignoresLayers_signalStrength?.elim_eq (h _),
    (ignoresLayers_manufacturerData?.comp (·.or a.manufacturerData)).elim_eq (h _)]

theorem SameBeneath.map_bare_elim (h : SameBeneath changes changes') {report : Value → List Notice}
    (hreport : IgnoresLayers fun value ↦ (report value).map Notice.bare) (name : String) :
    ((changes.value? name).elim [] report).map Notice.bare
      = ((changes'.value? name).elim [] report).map Notice.bare := by
  have hmap (value : Option Value) : (value.elim [] report).map Notice.bare
      = value.elim [] fun value ↦ (report value).map Notice.bare := by cases value <;> rfl
  rw [hmap, hmap, hreport.elim_eq (h name)]

theorem SameBeneath.map_bare_mergeNotices (h : SameBeneath changes changes') (owner : String) :
    (Advertisement.mergeNotices owner changes).map Notice.bare
      = (Advertisement.mergeNotices owner changes').map Notice.bare := by
  have hname : IgnoresLayers fun value ↦ [Notice.localName owner (text? value)].map Notice.bare :=
    ignoresLayers_text?.comp fun name ↦ [Notice.localName owner name].map Notice.bare
  have htype : IgnoresLayers fun value ↦
      [Notice.addressType owner (AddressType.ofText? (text? value)).name].map Notice.bare :=
    ignoresLayers_text?.comp fun name ↦
      [Notice.addressType owner (AddressType.ofText? name).name].map Notice.bare
  have hstrength : IgnoresLayers fun value ↦
      [Notice.signalStrength owner (signalStrength? value)].map Notice.bare :=
    ignoresLayers_signalStrength?.comp fun strength ↦
      [Notice.signalStrength owner strength].map Notice.bare
  have hdata : IgnoresLayers fun value ↦
      (Advertisement.manufacturerNotices owner value).map Notice.bare := by
    intro value
    simp only [Advertisement.manufacturerNotices, ignoresLayers_manufacturerData? value]
    cases manufacturerData? value with
    | none => simp only [List.map_cons, Notice.bare, Value.bare_bare, List.map_nil]
    | some data =>
      have hentries := ignoresLayers_manufacturerNotices value
      simp only [List.map_append, hentries]
  simp only [Advertisement.mergeNotices, List.map_cons, List.map_append]
  rw [h.map_bare_elim hname, h.map_bare_elim hdata, h.map_bare_elim htype,
    h.map_bare_elim hstrength]

end Changes

/-! ## Devices -/

namespace Device

variable {changes changes' : Changes}

theorem follow_of_sameBeneath (h : changes.SameBeneath changes') (name : String)
    {report : Value → Notice} (hreport : IgnoresLayers fun value ↦ (report value).bare)
    (change : Device → Bool → Device × Effects) (d : Device) :
    let once := d.follow (changes.value? name) report change
    let again := d.follow (changes'.value? name) report change
    once.1 = again.1 ∧ once.2.course = again.2.course ∧
      once.2.notices.map Notice.bare = again.2.notices.map Notice.bare := by
  intro once again
  -- What is compared is one reading of the value, and `helim` covers the batches without it.
  have hfollow : IgnoresLayers fun value ↦
      let followed := d.follow (some value) report change
      (followed.1, followed.2.course, followed.2.notices.map Notice.bare) := by
    intro value
    simp only [follow, ignoresLayers_truth? value]
    cases truth? value with
    | none => simp only [List.map_cons, hreport value, List.map_nil]
    | some b => rfl
  have helim (c : Changes) : (c.value? name).elim (d, [], []) (fun value ↦
        let followed := d.follow (some value) report change
        (followed.1, followed.2.course, followed.2.notices.map Notice.bare))
      = ((d.follow (c.value? name) report change).1,
        (d.follow (c.value? name) report change).2.course,
        (d.follow (c.value? name) report change).2.notices.map Notice.bare) := by
    cases c.value? name <;> rfl
  have hsame := hfollow.elim_eq (h name) (d, [], [])
  rw [helim, helim] at hsame
  simpa only [Prod.mk.injEq] using hsame

theorem update_of_sameBeneath (h : changes.SameBeneath changes') (d : Device) :
    (d.update changes).1 = (d.update changes').1 ∧
      (∃ rest, (d.update changes).2.course = .merged changes :: rest ∧
        (d.update changes').2.course = .merged changes' :: rest) ∧
      (d.update changes).2.notices.map Notice.bare
        = (d.update changes').2.notices.map Notice.bare := by
  have hconnected : IgnoresLayers fun value ↦ (Notice.badConnected d.address value).bare :=
    fun value ↦ congrArg (Notice.badConnected d.address) value.bare_bare
  have hresolved : IgnoresLayers fun value ↦ (Notice.badResolved d.address value).bare :=
    fun value ↦ congrArg (Notice.badResolved d.address) value.bare_bare
  have hmerging : d.merging changes' = d.merging changes := by
    rw [merging, merging, h.merge_eq]
  -- The second property is followed from where the first one led, which is the same place.
  obtain ⟨hd₁, hcourse₁, hnotices₁⟩ := follow_of_sameBeneath h "Connected" hconnected
    connectionChanged (d.merging changes)
  obtain ⟨hd₂, hcourse₂, hnotices₂⟩ := follow_of_sameBeneath h "ServicesResolved" hresolved
    resolutionChanged ((d.merging changes).follow (changes.value? "Connected")
      (.badConnected d.address) connectionChanged).1
  rw [hd₁] at hd₂ hcourse₂ hnotices₂
  rw [update_eq_follow d changes, update_eq_follow d changes', hmerging, hd₁]
  refine ⟨hd₂, ⟨_, rfl, ?_⟩, ?_⟩
  · rw [hcourse₁, hcourse₂]
    rfl
  · rw [List.map_append, List.map_append, List.map_append, List.map_append,
      h.map_bare_mergeNotices, hnotices₁, hnotices₂]

/-- **Layers make no difference to a batch.** Two batches that give the same properties, with values
that differ in nothing but their layers, take a device to the same place: its properties, its state,
its characteristics and the calls that wait are the same, and so is all that happens to it after the
merge, the calls that end included. A value is rejected in one batch exactly if it is in the other,
as a whole or in its entries, and the device reports the same of both. -/
theorem variant_layers_make_no_difference (d : Device) (h : changes.SameBeneath changes') :
    (d.update changes).1 = (d.update changes').1 ∧
    (∃ rest, (d.update changes).2.course = .merged changes :: rest ∧
      (d.update changes').2.course = .merged changes' :: rest) ∧
    (∀ p : ShapedProperty,
      (changes.value? p.key).map p.rejects = (changes'.value? p.key).map p.rejects) ∧
    (changes.value? "AddressType").map text? = (changes'.value? "AddressType").map text? ∧
    (d.update changes).2.notices.map Notice.bare
      = (d.update changes').2.notices.map Notice.bare := by
  obtain ⟨hdevice, hcourse, hnotices⟩ := update_of_sameBeneath h d
  exact ⟨hdevice, hcourse, fun p ↦ p.ignoresLayers_rejects.map_eq (h p.key),
    ignoresLayers_text?.map_eq (h "AddressType"), hnotices⟩

/-- Layers around a property, around a number, a payload and an item of manufacturer data, once with
one signature and once with another; the truth value that stands for a number is rejected each time.
-/
theorem layered_batch_makes_no_difference :
    let d := initial "/dev" "" .notConnected
    let changes : Changes :=
      [("Connected", .variant "b" (.bool true)),
        ("ManufacturerData", .pairs [(.variant "q" (.int 7), .list [.variant "y" (.int 1)]),
          (.bool true, .variant "ay" (.bytes [2]))])]
    let changes' : Changes :=
      [("Connected", .bool true),
        ("ManufacturerData", .variant "v" (.variant "a\x7bqv\x7d"
          (.pairs [(.int 7, .variant "av" (.list [.variant "v" (.variant "u" (.int 1))])),
            (.variant "b" (.bool true), .bytes [2])])))]
    changes.SameBeneath changes' ∧
      (d.update changes).1 = (d.update changes').1 ∧
      (d.update changes').1.state = .connected ∧
      (d.update changes').1.advertisement.manufacturerData = some [7, 0, 1] := by
  intro d changes changes'
  have hbeneath : changes.SameBeneath changes' := Changes.sameBeneath_of_map_eq rfl
  obtain ⟨hdevice, -⟩ := variant_layers_make_no_difference d hbeneath
  exact ⟨hbeneath, hdevice, rfl, rfl⟩

end Device

end GattPeer
