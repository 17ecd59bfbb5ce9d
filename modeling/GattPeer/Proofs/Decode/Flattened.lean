import GattPeer.Decode
import GattPeer.Proofs.Value.Layers
import GattPeer.Value.Bytes
import Mathlib.Data.List.Forall2

/-!
# Flattened manufacturer data

Manufacturer data is flattened entry by entry, in the order of iteration: an entry under a company
number with a payload of bytes gives the number in two bytes, the low one first, and then the
payload, and any other entry gives nothing. What an entry gives depends on nothing but the entry, so
that entry lists are flattened one after the other, and a single entry reads back from its bytes.

## The argument

`IsCompany` and `IsPayload` say what the readers accept, with the layers of variants written out,
and `Flattens` puts the bytes of the entries together. The readers are shown to accept just that,
from the items of a payload up; of the flattened bytes there is then only one induction, over the
entries.
-/

namespace GattPeer.Decode

variable {value item key payload : Value} {n : Nat} {data bytes : List UInt8}
  {entries : List (Value × Value)}

/-! ## What the readers accept -/

/-- An item that is a byte: a number from 0 to 255, or a truth value, which counts as one or zero.
-/
inductive IsByte (item : Value) : UInt8 → Prop
  /-- A number. -/
  | number (b : UInt8) (h : item.Holds (.int b.toNat)) : IsByte item b
  /-- A truth value. -/
  | truth (b : Bool) (h : item.Holds (.bool b)) : IsByte item (if b then 1 else 0)

/-- A payload of bytes: a byte string, in a buffer or not, or a list or tuple of bytes. -/
inductive IsPayload (payload : Value) : List UInt8 → Prop
  /-- A byte string. -/
  | bytes {data : List UInt8} (h : payload.Holds (.bytes data)) : IsPayload payload data
  /-- A byte string in a buffer. -/
  | buffer {data : List UInt8} (h : payload.Holds (.buffer data)) : IsPayload payload data
  /-- A list. -/
  | list {items : List Value} {data : List UInt8} (h : payload.Holds (.list items))
    (hitems : List.Forall₂ IsByte items data) : IsPayload payload data
  /-- A tuple. -/
  | tuple {items : List Value} {data : List UInt8} (h : payload.Holds (.tuple items))
    (hitems : List.Forall₂ IsByte items data) : IsPayload payload data

/-- A company number: an integer from 0 to 65535, and no truth value. -/
def IsCompany (key : Value) (n : Nat) : Prop := key.Holds (.int n) ∧ n ≤ 0xffff

/-- A mapping with certain entries. -/
def IsMapping (value : Value) (entries : List (Value × Value)) : Prop :=
  value.Holds (.map entries) ∨ value.Holds (.pairs entries)

/-- The bytes of entries. Entries under equal keys count each on its own. -/
inductive Flattens : List (Value × Value) → List UInt8 → Prop
  /-- No entries give no bytes. -/
  | nil : Flattens [] []
  /-- An entry of the right shape gives its company number, the low byte first, and its payload. -/
  | entry {key payload : Value} {n : Nat} {low high : UInt8} {data bytes : List UInt8}
    {entries : List (Value × Value)} (hcompany : IsCompany key n)
    (hn : n = low.toNat + 256 * high.toNat) (hpayload : IsPayload payload data)
    (hrest : Flattens entries bytes) :
    Flattens ((key, payload) :: entries) (low :: high :: data ++ bytes)
  /-- An entry of another shape gives nothing. -/
  | skip {key payload : Value} {bytes : List UInt8} {entries : List (Value × Value)}
    (hshape : ∀ n data, IsCompany key n → ¬IsPayload payload data)
    (hrest : Flattens entries bytes) : Flattens ((key, payload) :: entries) bytes

/-! ## The readers -/

@[simp] theorem byte?_eq_some_iff {b : UInt8} : byte? item = some b ↔ IsByte item b := by
  constructor
  · intro h
    have hholds := item.holds_unwrap
    rw [byte?] at h
    cases hcore : item.unwrap with
    | bool v =>
      rw [hcore] at h hholds
      have hbyte : (if v then 1 else 0) = b := by
        cases v
        · exact Option.some.inj h
        · exact Option.some.inj h
      exact hbyte ▸ .truth v hholds
    | int i =>
      rw [hcore] at h hholds
      simp only [Value.integer?] at h
      split at h
      · next hrange =>
        have hbyte : ((UInt8.ofNat i.toNat).toNat : Int) = i := by
          rw [UInt8.toNat_ofNat']
          omega
        rw [← Option.some.inj h]
        exact .number _ (hbyte.symm ▸ hholds)
      · exact nomatch h
    | _ =>
      rw [hcore] at h
      exact nomatch h
  · rintro (⟨_, h⟩ | ⟨v, h⟩)
    · have hrange : 0 ≤ (b.toNat : Int) ∧ (b.toNat : Int) ≤ 255 := by
        have hlt := b.toNat_lt
        omega
      rw [byte?, Value.unwrap_eq_iff.mpr h]
      simp [Value.integer?, hrange]
    · rw [byte?, Value.unwrap_eq_iff.mpr h]
      cases v <;> rfl

@[simp] theorem mapM_byte?_eq_some_iff {items : List Value} :
    items.mapM byte? = some data ↔ List.Forall₂ IsByte items data := by
  induction items generalizing data with
  | nil => simp [eq_comm]
  | cons item items ih =>
    rw [List.forall₂_cons_left_iff, List.mapM_cons]
    simp only [Option.bind_eq_bind, Option.bind_eq_some_iff, byte?_eq_some_iff, ih]
    constructor
    · rintro ⟨b, hb, data, hdata, hbytes⟩
      exact ⟨b, data, hb, hdata, (Option.some.inj hbytes).symm⟩
    · rintro ⟨b, data, hb, hdata, rfl⟩
      exact ⟨b, hb, data, hdata, rfl⟩

@[simp] theorem payload?_eq_some_iff : payload? payload = some data ↔ IsPayload payload data := by
  constructor
  · intro h
    have hholds := payload.holds_unwrap
    rw [payload?] at h
    cases hcore : payload.unwrap with
    | bytes stored =>
      rw [hcore] at h hholds
      exact Option.some.inj h ▸ .bytes hholds
    | buffer stored =>
      rw [hcore] at h hholds
      exact Option.some.inj h ▸ .buffer hholds
    | list items =>
      rw [hcore] at h hholds
      exact .list hholds (mapM_byte?_eq_some_iff.mp h)
    | tuple items =>
      rw [hcore] at h hholds
      exact .tuple hholds (mapM_byte?_eq_some_iff.mp h)
    | _ =>
      rw [hcore] at h
      exact nomatch h
  · rintro (h | h | ⟨h, hitems⟩ | ⟨h, hitems⟩)
    · rw [payload?, Value.unwrap_eq_iff.mpr h]
    · rw [payload?, Value.unwrap_eq_iff.mpr h]
    · rw [payload?, Value.unwrap_eq_iff.mpr h]
      exact mapM_byte?_eq_some_iff.mpr hitems
    · rw [payload?, Value.unwrap_eq_iff.mpr h]
      exact mapM_byte?_eq_some_iff.mpr hitems

@[simp] theorem company?_eq_some_iff : company? key = some n ↔ IsCompany key n := by
  constructor
  · intro h
    have hholds := key.holds_unwrap
    rw [company?] at h
    cases hcore : key.unwrap with
    | int i =>
      rw [hcore] at h hholds
      simp only at h
      split at h
      · next hrange =>
        have hn : (n : Int) = i := by
          rw [← Option.some.inj h]
          exact Int.toNat_of_nonneg hrange.1
        exact ⟨hn ▸ hholds, by omega⟩
      · exact nomatch h
    | _ =>
      rw [hcore] at h
      exact nomatch h
  · rintro ⟨h, hn⟩
    have hrange : 0 ≤ (n : Int) ∧ (n : Int) ≤ 0xffff := by omega
    rw [company?, Value.unwrap_eq_iff.mpr h]
    exact if_pos hrange

@[simp] theorem entries?_eq_some_iff : entries? value = some entries ↔ IsMapping value entries := by
  rw [entries?, IsMapping, ← Value.unwrap_eq_iff, ← Value.unwrap_eq_iff]
  cases value.unwrap <;> simp [Value.entries?]

/-! ## Bytes of entries -/

theorem twoBytes_eq (low high : UInt8) :
    twoBytes (low.toNat + 256 * high.toNat) = [low, high] := by
  have hlow := low.toNat_lt
  have hmod : (low.toNat + 256 * high.toNat) % 256 = low.toNat := by omega
  have hdiv : (low.toNat + 256 * high.toNat) / 256 = high.toNat := by omega
  rw [twoBytes, hmod, hdiv, UInt8.ofNat_toNat, UInt8.ofNat_toNat]

theorem exists_eq_low_add_high (h : n ≤ 0xffff) :
    ∃ low high : UInt8, n = low.toNat + 256 * high.toNat := by
  refine ⟨UInt8.ofNat (n % 256), UInt8.ofNat (n / 256), ?_⟩
  rw [UInt8.toNat_ofNat', UInt8.toNat_ofNat']
  omega

theorem manufacturerEntry_of_shape (hcompany : IsCompany key n)
    (hpayload : IsPayload payload data) :
    manufacturerEntry (key, payload) = .ok (twoBytes n ++ data) := by
  simp only [manufacturerEntry, company?_eq_some_iff.mpr hcompany,
    payload?_eq_some_iff.mpr hpayload]

theorem manufacturerEntry_of_no_shape (h : ∀ n data, IsCompany key n → ¬IsPayload payload data) :
    ∃ notice, manufacturerEntry (key, payload) = .error notice := by
  cases hcompany : company? key with
  | none => exact ⟨.badCompany key.unwrap, by simp only [manufacturerEntry, hcompany]⟩
  | some n =>
    cases hpayload : payload? payload with
    | none => exact ⟨.badPayload n payload, by simp only [manufacturerEntry, hcompany, hpayload]⟩
    | some data =>
      exact absurd (payload?_eq_some_iff.mp hpayload) (h n data (company?_eq_some_iff.mp hcompany))

@[simp] theorem manufacturerBytes_cons (entry : Value × Value) (entries : List (Value × Value)) :
    manufacturerBytes (entry :: entries)
      = (manufacturerEntry entry).toOption.getD [] ++ manufacturerBytes entries :=
  List.flatMap_cons

@[simp] theorem manufacturerBytes_append (front back : List (Value × Value)) :
    manufacturerBytes (front ++ back) = manufacturerBytes front ++ manufacturerBytes back :=
  List.flatMap_append

theorem flattens_manufacturerBytes (entries : List (Value × Value)) :
    Flattens entries (manufacturerBytes entries) := by
  induction entries with
  | nil => exact .nil
  | cons entry entries ih =>
    obtain ⟨key, payload⟩ := entry
    rw [manufacturerBytes_cons]
    by_cases hshape : ∃ n data, IsCompany key n ∧ IsPayload payload data
    · obtain ⟨n, data, hcompany, hpayload⟩ := hshape
      obtain ⟨low, high, hn⟩ := exists_eq_low_add_high hcompany.2
      rw [manufacturerEntry_of_shape hcompany hpayload, hn, twoBytes_eq]
      exact .entry hcompany hn hpayload ih
    · have hshape : ∀ n data, IsCompany key n → ¬IsPayload payload data :=
        fun n data hcompany hpayload ↦ hshape ⟨n, data, hcompany, hpayload⟩
      obtain ⟨notice, hnotice⟩ := manufacturerEntry_of_no_shape hshape
      rw [hnotice]
      exact .skip hshape ih

theorem Flattens.eq_manufacturerBytes (h : Flattens entries bytes) :
    bytes = manufacturerBytes entries := by
  induction h with
  | nil => rfl
  | entry hcompany hn hpayload _ ih =>
    rw [manufacturerBytes_cons, manufacturerEntry_of_shape hcompany hpayload, hn, twoBytes_eq, ← ih]
    rfl
  | skip hshape _ ih =>
    obtain ⟨notice, hnotice⟩ := manufacturerEntry_of_no_shape hshape
    rw [manufacturerBytes_cons, hnotice, ← ih]
    rfl

theorem manufacturerData?_of_isMapping (h : IsMapping value entries) :
    manufacturerData? value = some (manufacturerBytes entries) := by
  rw [manufacturerData?, entries?_eq_some_iff.mpr h]
  rfl

/-! ## Conversions that may fail -/

/-- What of a payload is converted to bytes: the items of a sequence without their layers, and
anything else as it is. -/
def convertible (payload : Value) : Value :=
  match payload.unwrap with
  | .list items | .tuple items => .list (items.map Value.unwrap)
  | value => value

theorem toByte_unwrap {b : UInt8} (h : IsByte item b) : item.unwrap.toByte = .ok b := by
  rcases h with ⟨_, h⟩ | ⟨v, h⟩
  · have hrange : 0 ≤ (b.toNat : Int) ∧ (b.toNat : Int) < 256 := by
      have hlt := b.toNat_lt
      omega
    rw [Value.unwrap_eq_iff.mpr h]
    simp [Value.toByte, Value.integer?, hrange]
  · rw [Value.unwrap_eq_iff.mpr h]
    cases v <;> rfl

theorem mapM_toByte {items : List Value} (h : List.Forall₂ IsByte items data) :
    (items.map Value.unwrap).mapM Value.toByte = .ok data := by
  induction h with
  | nil => rfl
  | cons hitem _ ih =>
    rw [List.map_cons, List.mapM_cons, toByte_unwrap hitem, ih]
    rfl

theorem toBytes_convertible (h : IsPayload payload data) (memory : Nat) :
    (convertible payload).toBytes memory = .ok data := by
  rcases h with h | h | ⟨h, hitems⟩ | ⟨h, hitems⟩
  · rw [convertible, Value.unwrap_eq_iff.mpr h, Value.toBytes]
  · rw [convertible, Value.unwrap_eq_iff.mpr h, Value.toBytes]
  · rw [convertible, Value.unwrap_eq_iff.mpr h]
    exact mapM_toByte hitems
  · rw [convertible, Value.unwrap_eq_iff.mpr h]
    exact mapM_toByte hitems

/-! ## The flattened bytes -/

/-- The company number and the payload of a single entry, read back from its bytes. -/
def readEntry? : List UInt8 → Option (Nat × List UInt8)
  | low :: high :: data => some (low.toNat + 256 * high.toNat, data)
  | _ => none

/-- **Manufacturer data is flattened entry by entry.** A value that holds no mapping gives nothing,
and any other one gives the bytes of its entries, as `Flattens` puts them together; the conversion
of a payload that contributes does not fail. So a mapping whose entries are those of two others, one
after the other, gives their bytes one after the other, and the company number and the payload of a
single entry of the right shape read back from its bytes. -/
theorem manufacturer_data_is_flattened_by_entries (value : Value) :
    (manufacturerData? value = none ↔ ∀ entries, ¬IsMapping value entries) ∧
    ∀ entries, IsMapping value entries →
      (∀ bytes, manufacturerData? value = some bytes ↔ Flattens entries bytes) ∧
      (∀ entry ∈ entries, ∀ data, IsPayload entry.2 data → ∀ memory,
        (convertible entry.2).toBytes memory = .ok data) ∧
      (∀ first last front back, IsMapping first front → IsMapping last back →
        entries = front ++ back →
        ∃ bytes bytes', manufacturerData? first = some bytes ∧
          manufacturerData? last = some bytes' ∧
          manufacturerData? value = some (bytes ++ bytes')) ∧
      ∀ key payload n data, entries = [(key, payload)] → IsCompany key n →
        IsPayload payload data → (manufacturerData? value).bind readEntry? = some (n, data) := by
  refine ⟨?_, fun entries hentries ↦ ⟨fun bytes ↦ ?_, fun _ _ _ ↦ toBytes_convertible, ?_, ?_⟩⟩
  · rw [manufacturerData?, Option.map_eq_none_iff, Option.eq_none_iff_forall_ne_some]
    exact forall_congr' fun entries ↦ not_congr entries?_eq_some_iff
  · rw [manufacturerData?_of_isMapping hentries, Option.some_inj]
    constructor
    · rintro rfl
      exact flattens_manufacturerBytes entries
    · exact fun h ↦ h.eq_manufacturerBytes.symm
  · rintro first last front back hfront hback rfl
    refine ⟨_, _, manufacturerData?_of_isMapping hfront, manufacturerData?_of_isMapping hback, ?_⟩
    rw [manufacturerData?_of_isMapping hentries, manufacturerBytes_append]
  · rintro key payload n data rfl hcompany hpayload
    obtain ⟨low, high, hn⟩ := exists_eq_low_add_high hcompany.2
    have hbytes : Flattens [(key, payload)] (low :: high :: data ++ []) :=
      .entry hcompany hn hpayload .nil
    rw [manufacturerData?_of_isMapping hentries, ← hbytes.eq_manufacturerBytes, List.append_nil,
      hn]
    rfl

/-- Entries with layers around the number, the payload and an item of it, under equal keys, beside a
truth value as a number and an item beyond a byte. -/
theorem layered_entries_are_flattened :
    let good : Value × Value :=
      (.variant "q" (.int 0x1234), .variant "ay" (.list [.variant "y" (.int 0xaa), .bool true]))
    let bad : List (Value × Value) := [(.bool true, .bytes [1]), (.int 7, .tuple [.int 256])]
    let value := Value.variant "a\x7bqv\x7d" (.pairs (good :: bad ++ [good]))
    IsMapping value (good :: bad ++ [good]) ∧ IsCompany good.1 0x1234 ∧
      IsPayload good.2 [0xaa, 1] ∧ (∀ memory, (convertible good.2).toBytes memory = .ok [0xaa, 1]) ∧
      Flattens (good :: bad ++ [good]) [0x34, 0x12, 0xaa, 1, 0x34, 0x12, 0xaa, 1] ∧
      (∃ bytes bytes', manufacturerData? (.pairs (good :: bad)) = some bytes ∧
        manufacturerData? (.map [good]) = some bytes' ∧
        manufacturerData? value = some (bytes ++ bytes')) ∧
      (manufacturerData? (.map [good])).bind readEntry? = some (0x1234, [0xaa, 1]) := by
  intro good bad value
  have hcompany : IsCompany good.1 0x1234 := company?_eq_some_iff.mp (by decide)
  have hpayload : IsPayload good.2 [0xaa, 1] := payload?_eq_some_iff.mp (by decide)
  have hvalue : IsMapping value (good :: bad ++ [good]) := entries?_eq_some_iff.mp rfl
  have hfront : IsMapping (.pairs (good :: bad)) (good :: bad) := entries?_eq_some_iff.mp rfl
  have hback : IsMapping (.map [good]) [good] := entries?_eq_some_iff.mp rfl
  obtain ⟨-, hentries⟩ := manufacturer_data_is_flattened_by_entries value
  obtain ⟨hflattens, hconverts, happend, -⟩ := hentries _ hvalue
  obtain ⟨-, hentries⟩ := manufacturer_data_is_flattened_by_entries (.map [good])
  obtain ⟨-, -, -, hreads⟩ := hentries _ hback
  have hgood : good ∈ good :: bad ++ [good] := List.mem_cons_self
  exact ⟨hvalue, hcompany, hpayload, hconverts _ hgood _ hpayload, (hflattens _).mp (by decide),
    happend _ _ _ _ hfront hback rfl, hreads _ _ _ _ rfl hcompany hpayload⟩

end GattPeer.Decode
