import GattPeer.Proofs.Decode.Flattened
import GattPeer.Proofs.Device.Malformed
import Mathlib.Data.List.Basic
import Mathlib.Data.List.Forall2
import Mathlib.Data.List.Induction
import Mathlib.Data.List.Nodup

/-!
# Advertised properties after a run

The advertised properties are last-writer registers, one for each property: a field is what the last
batch with its property says, whatever the batches before and after it say of other properties. A
batch is looked up by names only, so neither the order of its entries nor any entry with another
name matters.

## The argument

The properties after a run fold `Advertisement.merge` over the batches that the device accepted. A
fold of merges is projected to one field at a time, where it becomes a fold that forgets what it had
whenever a batch has the property. The manufacturer data is the one field that a rejected value
leaves as it was, so for it alone the fold is of this kind only because no value is rejected.
-/

namespace GattPeer

/-! ## The last value of a property -/

namespace Changes

/-- The value of a property in the last batch that has it. -/
def last? (batches : List Changes) (name : String) : Option Value :=
  (batches.filterMap (·.value? name)).getLast?

@[simp]
theorem last?_append_singleton (batches : List Changes) (changes : Changes) (name : String) :
    last? (batches ++ [changes]) name = (changes.value? name).or (last? batches name) := by
  rw [last?, last?, List.filterMap_append]
  cases h : changes.value? name with
  | none => simp [h]
  | some value => simp [h]

theorem exists_of_last?_eq_some {batches : List Changes} {name : String} {value : Value}
    (h : last? batches name = some value) :
    ∃ changes ∈ batches, changes.value? name = some value :=
  List.mem_filterMap.mp (List.mem_of_getLast? h)

/-- **The last writer wins**: what forgets all it had whenever a batch has a property is read off
the last value of that property. -/
theorem foldl_elim_eq_last? {α : Type} (name : String) (read : Value → α) (batches : List Changes)
    (a : α) :
    batches.foldl (fun a changes ↦ (changes.value? name).elim a read) a
      = (last? batches name).elim a read := by
  induction batches using List.reverseRecOn with
  | nil => rfl
  | append_singleton batches changes ih =>
    rw [List.foldl_append, last?_append_singleton, ih]
    cases h : changes.value? name with
    | none => simp [h]
    | some value => simp [h]

end Changes

/-! ## Fields after a fold of merges -/

namespace Advertisement

variable (a : Advertisement) (batches : List Changes)

@[simp] theorem localName_foldl_merge :
    (batches.foldl merge a).localName
      = (Changes.last? batches "Name").elim a.localName Decode.text? := by
  rw [← Changes.foldl_elim_eq_last?]
  refine (List.foldl_hom localName fun a changes ↦ ?_).symm
  rw [merge]
  cases changes.value? "Name" <;> rfl

@[simp] theorem signalStrength_foldl_merge :
    (batches.foldl merge a).signalStrength
      = (Changes.last? batches "RSSI").elim a.signalStrength Decode.signalStrength? := by
  rw [← Changes.foldl_elim_eq_last?]
  refine (List.foldl_hom signalStrength fun a changes ↦ ?_).symm
  rw [merge]
  cases changes.value? "RSSI" <;> rfl

@[simp] theorem addressType_foldl_merge :
    (batches.foldl merge a).addressType
      = (Changes.last? batches "AddressType").elim a.addressType
          fun value ↦ .ofText? (Decode.text? value) := by
  rw [← Changes.foldl_elim_eq_last?]
  refine (List.foldl_hom addressType fun a changes ↦ ?_).symm
  rw [merge]
  cases changes.value? "AddressType" <;> rfl

@[simp] theorem address_foldl_merge : (batches.foldl merge a).address = a.address := by
  induction batches generalizing a with
  | nil => rfl
  | cons changes batches ih => exact ih (a.merge changes)

@[simp]
theorem updates_foldl_merge : (batches.foldl merge a).updates = a.updates + batches.length := by
  induction batches generalizing a with
  | nil => rfl
  | cons changes batches ih =>
    have hmerge : (a.merge changes).updates = a.updates + 1 := rfl
    rw [List.foldl_cons, ih, hmerge, List.length_cons]
    omega

variable {a batches}

theorem manufacturerData_foldl_merge
    (hshaped : ∀ changes ∈ batches, ∀ value, changes.value? "ManufacturerData" = some value →
      (Decode.manufacturerData? value).isNone = false) :
    (batches.foldl merge a).manufacturerData
      = (Changes.last? batches "ManufacturerData").elim a.manufacturerData
          Decode.manufacturerData? := by
  have hread : (batches.foldl merge a).manufacturerData
      = batches.foldl (fun data changes ↦ (changes.value? "ManufacturerData").elim data
          fun value ↦ (Decode.manufacturerData? value).or data) a.manufacturerData := by
    refine (List.foldl_hom manufacturerData fun a changes ↦ ?_).symm
    rw [merge]
    cases changes.value? "ManufacturerData" <;> rfl
  rw [hread, ← Changes.foldl_elim_eq_last?]
  -- Only a rejected value would let the earlier data through, and no value is rejected.
  refine List.foldl_ext _ _ _ fun data changes hmem ↦ ?_
  cases hvalue : changes.value? "ManufacturerData" with
  | none => rfl
  | some value =>
    obtain ⟨bytes, hbytes⟩ := Option.isSome_iff_exists.mp
      (Option.isNone_eq_false_iff.mp (hshaped changes hmem value hvalue))
    rw [Option.elim_some, Option.elim_some, hbytes, Option.some_or]

end Advertisement

/-! ## What a batch says of the advertised properties -/

namespace Changes

def advertisedNames : List String := ["Name", "ManufacturerData", "AddressType", "RSSI"]

/-- The entries of a batch that concern the advertised properties. -/
def advertised (changes : Changes) : Changes :=
  changes.filter fun entry ↦ advertisedNames.any entry.1.isText

/-- Two batches, of which none gives a property two values, say the same of the advertised
properties, in any order; of other properties they may say anything. -/
structure SayAlike (changes changes' : Changes) : Prop where
  nodup : (changes.advertised.map (·.1)).Nodup
  perm : changes.advertised.Perm changes'.advertised

@[simp] theorem isText_iff {value : Value} {name : String} :
    value.isText name = true ↔ value = .text name := by
  cases value with
  | text t => simp [Value.isText]
  | _ => simp [Value.isText]

theorem value?_advertised (changes : Changes) {name : String} (h : name ∈ advertisedNames) :
    changes.advertised.value? name = changes.value? name := by
  rw [value?, value?, advertised, List.find?_filter]
  congr 2
  funext entry
  cases hentry : entry.1.isText name with
  | false => simp
  | true => simpa using ⟨name, h, isText_iff.mp hentry⟩

theorem value?_eq_some_iff {changes : Changes} (h : (changes.map (·.1)).Nodup) {name : String}
    {value : Value} : changes.value? name = some value ↔ (.text name, value) ∈ changes := by
  rw [value?, Option.map_eq_some_iff]
  constructor
  · rintro ⟨⟨key, value⟩, hfind, rfl⟩
    have hkey := List.find?_some hfind
    rw [← isText_iff.mp hkey]
    exact List.mem_of_find?_eq_some hfind
  · intro hmem
    refine ⟨(.text name, value), ?_, rfl⟩
    cases hfind : changes.find? fun entry ↦ entry.1.isText name with
    | none =>
      have habsent := List.find?_eq_none.mp hfind _ hmem
      exact absurd (isText_iff.mpr rfl) habsent
    | some entry =>
      have hkey := List.find?_some hfind
      exact congrArg some (List.inj_on_of_nodup_map h (List.mem_of_find?_eq_some hfind) hmem
        (isText_iff.mp hkey))

theorem SayAlike.value?_eq {changes changes' : Changes} (h : changes.SayAlike changes')
    (name : String) (hname : name ∈ advertisedNames) :
    changes.value? name = changes'.value? name := by
  have hnodup' : (changes'.advertised.map (·.1)).Nodup := (h.perm.map _).nodup_iff.mp h.nodup
  rw [← value?_advertised changes hname, ← value?_advertised changes' hname]
  refine Option.ext fun value ↦ ?_
  rw [value?_eq_some_iff h.nodup, value?_eq_some_iff hnodup']
  exact h.perm.mem_iff

theorem SayAlike.merge_eq {changes changes' : Changes} (h : changes.SayAlike changes')
    (a : Advertisement) : a.merge changes = a.merge changes' := by
  have hname := h.value?_eq "Name" (by decide)
  have hdata := h.value?_eq "ManufacturerData" (by decide)
  have htype := h.value?_eq "AddressType" (by decide)
  have hstrength := h.value?_eq "RSSI" (by decide)
  rw [Advertisement.merge, Advertisement.merge, hname, hdata, htype, hstrength]

theorem foldl_merge_eq_of_sayAlike {batches batches' : List Changes}
    (h : List.Forall₂ SayAlike batches batches') (a : Advertisement) :
    batches.foldl Advertisement.merge a = batches'.foldl Advertisement.merge a := by
  induction h generalizing a with
  | nil => rfl
  | cons hfirst _ ih => rw [List.foldl_cons, List.foldl_cons, hfirst.merge_eq, ih]

end Changes

/-! ## Runs -/

namespace Device

/-- The batch that an operation lets a device merge, if any. -/
def accepted? (d : Device) : Operation → Option Changes
  | .update changes => some changes
  | .receive batch => if d.subject batch.path = .device then some batch.changes else none
  | .setState _ | .announce .. => none

theorem advertisement_and_path_step (d : Device) (operation : Operation) :
    (d.step operation).1.advertisement
        = (d.accepted? operation).toList.foldl Advertisement.merge d.advertisement ∧
      (d.step operation).1.path = d.path := by
  cases operation with
  | update changes => exact ⟨advertisement_update d changes, path_update d changes⟩
  | setState state =>
    rw [step, transition_fst]
    exact ⟨rfl, rfl⟩
  | announce path uuid flags =>
    rcases announce_cases d path uuid flags with ⟨a, hdevice, -⟩ | ⟨failure, hdevice, -⟩
    · rw [step, hdevice]
      exact ⟨rfl, rfl⟩
    · rw [step, hdevice]
      exact ⟨rfl, rfl⟩
  | receive batch =>
    rw [step, accepted?]
    cases hreceive : d.receive batch with
    | error failure =>
      rw [if_neg (subject_ne_of_receive_eq_error hreceive)]
      exact ⟨rfl, rfl⟩
    | ok result =>
      rcases receive_eq_ok hreceive with ⟨hsubject, hdevice, -⟩ | ⟨hsubject, hdevice, -⟩
      · rw [if_pos hsubject, hdevice]
        exact ⟨advertisement_update d batch.changes, path_update d batch.changes⟩
      · rw [if_neg hsubject, hdevice]
        exact ⟨rfl, rfl⟩

theorem accepted?_eq_of_path {d d' : Device} (h : d'.path = d.path) :
    d'.accepted? = d.accepted? := by
  funext operation
  cases operation with
  | receive batch => rw [accepted?, accepted?, subject_eq_of_path h]
  | _ => rfl

/-- **A run merges the batches that the device accepts**, one after the other. -/
theorem advertisement_run (d : Device) (operations : List Operation) :
    (d.run operations).advertisement
      = (operations.filterMap d.accepted?).foldl Advertisement.merge d.advertisement := by
  induction operations generalizing d with
  | nil => rfl
  | cons operation operations ih =>
    obtain ⟨hadvertisement, hpath⟩ := advertisement_and_path_step d operation
    have hrun : d.run (operation :: operations) = (d.step operation).1.run operations := rfl
    rw [hrun, ih, accepted?_eq_of_path hpath, hadvertisement, List.filterMap_cons]
    cases d.accepted? operation <;> rfl

end Device

/-! ## What is read -/

namespace Decode

theorem unwrap_eq_of_text? {value : Value} {s : String} (h : text? value = some s) :
    value.unwrap = .text s := by
  unfold text? at h
  split at h
  · next t ht => rw [ht, Option.some.inj h]
  · exact nomatch h

/-- **A signal strength is narrowed to eight bits**: it is the only integer from -128 to 127 that is
congruent to what was read, however large that is. -/
theorem exists_of_signalStrength? {value : Value} {x : Int} (h : signalStrength? value = some x) :
    ∃ n, value.unwrap = .int n ∧
      ∀ y : Int, (-128 ≤ y ∧ y ≤ 127) ∧ y % 256 = n % 256 ↔ y = x := by
  unfold signalStrength? at h
  split at h
  · next n hn =>
    refine ⟨n, hn, fun y ↦ ?_⟩
    have hnarrow : n.bmod 256 = y ↔ _ := Int.bmod_eq_iff (by decide)
    rw [← Option.some.inj h, eq_comm (a := y), hnarrow]
    omega
  · exact nomatch h

theorem exists_of_manufacturerData? {value : Value} {data : List UInt8}
    (h : manufacturerData? value = some data) :
    ∃ entries, IsMapping value entries ∧ Flattens entries data := by
  obtain ⟨entries, hentries, rfl⟩ := Option.map_eq_some_iff.mp h
  exact ⟨entries, entries?_eq_some_iff.mp hentries, flattens_manufacturerBytes entries⟩

end Decode

@[simp] theorem AddressType.ofText_eq_random_iff {s : String} :
    ofText s = .random ↔ s.toLower = "random" := by
  have hlower : s.toLower = s.map Char.toLower := rfl
  rw [ofText, hlower, ← String.toList_inj, String.toList_map]
  by_cases h : s.toList.map Char.toLower = "random".toList
  · rw [if_pos h]
    exact iff_of_true rfl h
  · rw [if_neg h]
    exact iff_of_false (by decide) h

theorem AddressType.ofText?_eq_random_iff {value : Value} :
    ofText? (Decode.text? value) = .random
      ↔ ∃ s, value.unwrap = .text s ∧ s.toLower = "random" := by
  constructor
  · intro h
    cases htext : Decode.text? value with
    | none =>
      rw [htext] at h
      exact nomatch h
    | some s =>
      rw [htext] at h
      exact ⟨s, Decode.unwrap_eq_of_text? htext, ofText_eq_random_iff.mp h⟩
  · rintro ⟨s, hunwrap, hlower⟩
    rw [Decode.text?, hunwrap]
    exact ofText_eq_random_iff.mpr hlower

/-! ## The law -/

namespace Device

/-- A field follows a property: it is empty until the property has a value, and from then on it is
what the last value reads as. -/
def Follows {α : Type} (reads : Value → α → Prop) (last : Option Value) (field : Option α) : Prop :=
  match last with
  | none => field = none
  | some value => ∃ a, field = some a ∧ reads value a

theorem Follows.of_elim {α : Type} {reads : Value → α → Prop} {read : Value → Option α}
    {last : Option Value} (hread : ∀ value a, read value = some a → reads value a)
    (hlast : ∀ value, last = some value → (read value).isNone = false) :
    Follows reads last (last.elim none read) := by
  cases last with
  | none => rfl
  | some value =>
    obtain ⟨a, ha⟩ := Option.isSome_iff_exists.mp
      (Option.isNone_eq_false_iff.mp (hlast value rfl))
    exact ⟨a, ha, hread value a ha⟩

/-- The advertised properties that are read from values of one shape only. -/
def shaped : List ShapedProperty := [.localName, .manufacturerData, .signalStrength]

/-- No name, manufacturer data or signal strength in a batch is rejected by its reader. -/
def WellShaped (changes : Changes) : Prop :=
  ∀ p ∈ shaped, ∀ value,
    changes.value? p.key = some value → p.rejects value = false

theorem not_rejects_of_wellShaped {batches : List Changes}
    (hshaped : ∀ changes ∈ batches, WellShaped changes) {p : ShapedProperty}
    (hp : p ∈ shaped) {value : Value}
    (hlast : Changes.last? batches p.key = some value) : p.rejects value = false := by
  obtain ⟨changes, hmem, hvalue⟩ := Changes.exists_of_last?_eq_some hlast
  exact hshaped changes hmem p hp value hvalue

/-- **The advertised properties follow the last values.** After any run from the beginning, the
name, the manufacturer data and the signal strength are, each on its own, what the last batch with
the property says, if no value of these is rejected, and empty if there was none: the name is the
text, the manufacturer data are the flattened entries of the mapping, and the signal strength is the
only integer from -128 to 127 that is congruent to the given one. The address type is random exactly
if the last one is a text that spells so in letters of any case. The address stays, and every
accepted batch is counted. A run whose accepted batches say the same of these properties, each in
any order and beside anything else, comes to the same. -/
theorem advertisement_follows_last_values (path address : String) (state : ConnectionState)
    (operations : List Operation) :
    let start := initial path address state
    let accepted := operations.filterMap start.accepted?
    let a := (start.run operations).advertisement
    (∀ changes ∈ accepted, WellShaped changes) →
    Follows (fun value name ↦ value.unwrap = .text name) (Changes.last? accepted "Name")
      a.localName ∧
    Follows (fun value data ↦ ∃ entries,
        Decode.IsMapping value entries ∧ Decode.Flattens entries data)
      (Changes.last? accepted "ManufacturerData") a.manufacturerData ∧
    Follows (fun value strength ↦ ∃ n, value.unwrap = .int n ∧
        ∀ x : Int, (-128 ≤ x ∧ x ≤ 127) ∧ x % 256 = n % 256 ↔ x = strength)
      (Changes.last? accepted "RSSI") a.signalStrength ∧
    (a.addressType = .random ↔ ∃ value name, Changes.last? accepted "AddressType" = some value ∧
      value.unwrap = .text name ∧ name.toLower = "random") ∧
    a.address = address ∧ a.updates = accepted.length ∧
    ∀ operations', List.Forall₂ Changes.SayAlike accepted
        (operations'.filterMap start.accepted?) →
      (start.run operations').advertisement = a := by
  intro start accepted a hshaped
  have ha : a = accepted.foldl Advertisement.merge (.initial address) :=
    advertisement_run start operations
  have hread {p : ShapedProperty} (hp : p ∈ shaped) {value : Value}
      (hlast : Changes.last? accepted p.key = some value) : p.rejects value = false :=
    not_rejects_of_wellShaped hshaped hp hlast
  have hname : ShapedProperty.localName ∈ shaped := by decide
  have hdata : ShapedProperty.manufacturerData ∈ shaped := by decide
  have hstrength : ShapedProperty.signalStrength ∈ shaped := by decide
  refine ⟨?_, ?_, ?_, ?_, ?_, ?_, fun operations' halike ↦ ?_⟩
  · rw [ha, Advertisement.localName_foldl_merge]
    exact .of_elim (fun _ _ ↦ Decode.unwrap_eq_of_text?) fun _ hlast ↦ hread hname hlast
  · rw [ha, Advertisement.manufacturerData_foldl_merge fun changes hmem value hvalue ↦
      hshaped changes hmem _ hdata value hvalue]
    exact .of_elim (fun _ _ ↦ Decode.exists_of_manufacturerData?) fun _ hlast ↦ hread hdata hlast
  · rw [ha, Advertisement.signalStrength_foldl_merge]
    exact .of_elim (fun _ _ ↦ Decode.exists_of_signalStrength?) fun _ hlast ↦
      hread hstrength hlast
  · rw [ha, Advertisement.addressType_foldl_merge]
    cases hlast : Changes.last? accepted "AddressType" with
    | none => exact iff_of_false nofun nofun
    | some value =>
      rw [Option.elim_some, AddressType.ofText?_eq_random_iff]
      constructor
      · rintro ⟨s, hunwrap, hlower⟩
        exact ⟨value, s, rfl, hunwrap, hlower⟩
      · rintro ⟨value', s, hvalue, hunwrap, hlower⟩
        rw [Option.some.inj hvalue]
        exact ⟨s, hunwrap, hlower⟩
  · rw [ha, Advertisement.address_foldl_merge]
    rfl
  · rw [ha, Advertisement.updates_foldl_merge]
    exact Nat.zero_add _
  · rw [ha, advertisement_run, Changes.foldl_merge_eq_of_sayAlike halike]
    rfl

/-- A signal strength beyond eight bits, manufacturer data with a payload for the first of two
companies, and a name that another device has later. The same is said in another order beside other
properties. -/
theorem last_values_are_kept :
    let start := initial "/dev" "AA" .notConnected
    let mapping : Value := .map [(.int 0x1234, .bytes [7]), (.int 1, .text "x")]
    let first : Changes :=
      [("Name", .text "Sensor"), ("RSSI", .int 200), ("ManufacturerData", mapping)]
    let last : Changes := [("AddressType", .text "Random")]
    let a := (start.run [.update first, .receive ⟨"/other", [("Name", .text "Other")], []⟩,
      .update [], .receive ⟨"/dev", last, []⟩]).advertisement
    let first' : Changes := [("RSSI", .int 200), ("Alias", .int 1), ("Name", .text "Sensor"),
      ("ManufacturerData", mapping)]
    let connected : Changes := [("Connected", .bool true)]
    a.localName = some "Sensor" ∧ a.manufacturerData = some [0x34, 0x12, 7] ∧
      a.signalStrength = some (-56) ∧ a.addressType = .random ∧ a.updates = 3 ∧
      (start.run [.update first', .update connected, .update last]).advertisement = a := by
  intro start mapping first last a first' connected
  have haccepted : [Operation.update first, .receive ⟨"/other", [("Name", .text "Other")], []⟩,
      .update [], .receive ⟨"/dev", last, []⟩].filterMap start.accepted? = [first, [], last] := by
    have hown : start.subject "/dev" = .device := by decide +kernel
    have hforeign : start.subject "/other" = .foreign := by decide +kernel
    simp [accepted?, hown, hforeign]
  have hshaped : ∀ changes ∈ [first, [], last], WellShaped changes := by
    simp [first, mapping, last, WellShaped, shaped, ShapedProperty.key, ShapedProperty.rejects,
      Changes.value?, Value.isText, Decode.text?, Decode.signalStrength?,
      Decode.manufacturerData?, Decode.entries?, Value.entries?, Value.unwrap]
  have halike : List.Forall₂ Changes.SayAlike [first, [], last] [first', connected, last] := by
    refine .cons ⟨?_, .swap ..⟩ (.cons ⟨.nil, .nil⟩ (.cons ⟨List.nodup_singleton _, .refl _⟩ .nil))
    exact List.nodup_cons.mpr
      ⟨by simp, List.nodup_cons.mpr ⟨by simp, List.nodup_singleton _⟩⟩
  have hfollows := advertisement_follows_last_values "/dev" "AA" .notConnected
    [.update first, .receive ⟨"/other", [("Name", .text "Other")], []⟩, .update [],
      .receive ⟨"/dev", last, []⟩]
  dsimp only at hfollows
  rw [haccepted] at hfollows
  dsimp only [a, start]
  obtain ⟨⟨name, hname, hread⟩, ⟨data, hdata, entries, hmapping, hflattens⟩,
    ⟨strength, hstrength, n, hn, hnarrow⟩, htype, -, hupdates, hother⟩ := hfollows hshaped
  have hother' : [.update first', .update connected, .update last].filterMap
      (initial "/dev" "AA" .notConnected).accepted? = [first', connected, last] := rfl
  refine ⟨?_, ?_, ?_, ?_, hupdates, hother _ (hother' ▸ halike)⟩
  · rw [Value.text.inj hread]
    exact hname
  · have hentries : Decode.entries? mapping = some entries :=
      Decode.entries?_eq_some_iff.mpr hmapping
    rw [hdata, hflattens.eq_manufacturerBytes, ← Option.some.inj hentries]
    decide
  · have hsame : -56 = strength :=
      (hnarrow (-56)).mp ⟨by decide, by rw [← Value.int.inj hn]; rfl⟩
    rw [hsame]
    exact hstrength
  · exact htype.mpr ⟨.text "Random", "Random", rfl, rfl, by decide +kernel⟩

end Device

end GattPeer
