import GattPeer.Advertisement
import GattPeer.Proofs.Value.Layers

/-!
# Readers do not see layers

Every reader of a property strips the layers around a value before it looks at it, and does the same
with the keys, the payloads and the items of manufacturer data. So it reads a value as it reads the
bare value. A reader that does so *ignores layers*: it does not see those around a value, and of a
list, a tuple or a mapping it does not see those within (`ignoresLayers_of`).
-/

namespace GattPeer.Decode

open Value

variable {α β : Type}

/-- A reader gives the same for a value as for the value without any layers. -/
def IgnoresLayers (read : Value → α) : Prop := ∀ value, read value.bare = read value

theorem ignoresLayers_of {read : Value → α}
    (hlayer : ∀ signature value, read (.variant signature value) = read value := by intros; rfl)
    (hlist : ∀ items, read (.list (items.map bare)) = read (.list items) := by intros; rfl)
    (htuple : ∀ items, read (.tuple (items.map bare)) = read (.tuple items) := by intros; rfl)
    (hmap : ∀ entries, read (.map (entries.map (Prod.map bare bare))) = read (.map entries) := by
      intros; rfl)
    (hpairs : ∀ entries, read (.pairs (entries.map (Prod.map bare bare))) = read (.pairs entries) :=
      by intros; rfl) :
    IgnoresLayers read := by
  intro value
  -- The induction strips the layers around the value; what it ends at has layers only within.
  induction value using unwrap.induct with
  | case1 signature value ih => rw [bare_variant, ih, hlayer]
  | case2 value hbare =>
    cases value with
    | variant signature inner => exact (hbare signature inner rfl).elim
    | list items => rw [bare_list, hlist]
    | tuple items => rw [bare_tuple, htuple]
    | map entries => rw [bare_map, hmap]
    | pairs entries => rw [bare_pairs, hpairs]
    | _ => rw [bare] <;> nofun

namespace IgnoresLayers

variable {read : Value → α} (h : IgnoresLayers read)

include h

theorem comp (f : α → β) : IgnoresLayers fun value ↦ f (read value) :=
  fun value ↦ congrArg f (h value)

theorem map_eq {value value' : Option Value} (hbare : value.map bare = value'.map bare) :
    value.map read = value'.map read := by
  have hread : read = read ∘ bare := (funext h).symm
  rw [hread, ← Option.map_map, hbare, Option.map_map]

theorem elim_eq {value value' : Option Value} (hbare : value.map bare = value'.map bare)
    (absent : α) : value.elim absent read = value'.elim absent read := by
  have helim (value : Option Value) :
      value.elim absent read = (value.map read).elim absent id := by cases value <;> rfl
  rw [helim, h.map_eq hbare, ← helim]

end IgnoresLayers

/-! ## The readers of single values -/

theorem ignoresLayers_truth? : IgnoresLayers truth? := ignoresLayers_of

theorem ignoresLayers_text? : IgnoresLayers text? := ignoresLayers_of

theorem ignoresLayers_signalStrength? : IgnoresLayers signalStrength? := ignoresLayers_of

theorem ignoresLayers_byte? : IgnoresLayers byte? := ignoresLayers_of

theorem ignoresLayers_company? : IgnoresLayers company? := ignoresLayers_of

theorem ignoresLayers_payload? : IgnoresLayers payload? := by
  have hitems (items : List Value) : (items.map bare).mapM byte? = items.mapM byte? := by
    rw [List.mapM_map]
    congr 1
    funext item
    exact ignoresLayers_byte? item
  exact ignoresLayers_of (fun _ _ ↦ rfl) hitems hitems

end GattPeer.Decode

namespace GattPeer

/-! ## Manufacturer data -/

/-- A notice without the layers of the values that it shows. -/
def Notice.bare : Notice → Notice
  | .attributeBatch owner path names => .attributeBatch owner path (names.map Value.bare)
  | .invalidated owner names => .invalidated owner (names.map Value.bare)
  | .badCompany company => .badCompany company.bare
  | .badPayload company payload => .badPayload company payload.bare
  | .badManufacturerData owner value => .badManufacturerData owner value.bare
  | .badConnected owner value => .badConnected owner value.bare
  | .badResolved owner value => .badResolved owner value.bare
  | notice => notice

namespace Decode

open Value

@[simp] theorem mapError_manufacturerEntry_bare (entry : Value × Value) :
    (manufacturerEntry (Prod.map bare bare entry)).mapError Notice.bare
      = (manufacturerEntry entry).mapError Notice.bare := by
  obtain ⟨key, payload⟩ := entry
  simp only [manufacturerEntry, Prod.map, ignoresLayers_company? key,
    ignoresLayers_payload? payload]
  cases company? key with
  | none =>
    have hkey : key.bare.unwrap.bare = key.unwrap.bare := by rw [unwrap_bare, bare_bare]
    exact congrArg (fun key ↦ Except.error (Notice.badCompany key)) hkey
  | some company =>
    cases payload? payload with
    | none =>
      exact congrArg (fun payload ↦ Except.error (Notice.badPayload company payload))
        (bare_bare payload)
    | some data => rfl

@[simp] theorem manufacturerBytes_bare (entries : List (Value × Value)) :
    manufacturerBytes (entries.map (Prod.map bare bare)) = manufacturerBytes entries := by
  have htoOption (result : Except Notice (List UInt8)) :
      (result.mapError Notice.bare).toOption = result.toOption := by cases result <;> rfl
  rw [manufacturerBytes, manufacturerBytes, List.flatMap_map]
  congr 1
  funext entry
  rw [← htoOption, mapError_manufacturerEntry_bare, htoOption]

theorem ignoresLayers_manufacturerData? : IgnoresLayers manufacturerData? :=
  ignoresLayers_of (fun _ _ ↦ rfl) (fun _ ↦ rfl) (fun _ ↦ rfl)
    (fun entries ↦ congrArg some (manufacturerBytes_bare entries))
    fun entries ↦ congrArg some (manufacturerBytes_bare entries)

theorem ignoresLayers_manufacturerNotices :
    IgnoresLayers fun value ↦ (manufacturerNotices value).map Notice.bare := by
  have hentries (entries : List (Value × Value)) :
      (manufacturerNotices (.map (entries.map (Prod.map bare bare)))).map Notice.bare
        = (manufacturerNotices (.map entries)).map Notice.bare := by
    simp only [manufacturerNotices, entries?, unwrap, Value.entries?, Option.getD_some,
      List.filterMap_map, List.map_filterMap]
    congr 1
    funext entry
    have hentry := mapError_manufacturerEntry_bare entry
    rw [Function.comp_apply]
    generalize manufacturerEntry (Prod.map bare bare entry) = result at hentry ⊢
    generalize manufacturerEntry entry = result' at hentry ⊢
    cases result with
    | error notice =>
      cases result' with
      | error notice' => exact congrArg some (Except.error.inj hentry)
      | ok data' => cases hentry
    | ok data =>
      cases result' with
      | error notice' => cases hentry
      | ok data' => rfl
  exact ignoresLayers_of (fun _ _ ↦ rfl) (fun _ ↦ rfl) (fun _ ↦ rfl) hentries hentries

end Decode

end GattPeer
