import GattPeer.Proofs.Device.Layers
import GattPeer.Value.Key

/-!
# Wrapped values

Every property is read through any number of variant layers. A batch that is received loses the
outermost layer of each value on its way, and is stored anew under its keys; if the keys are
distinct, the device cannot tell it from the batch that was sent.
-/

namespace GattPeer

/-! ## Storing under distinct keys -/

namespace Value

@[simp] theorem unwrap_unwrapOnce (value : Value) : value.unwrapOnce.unwrap = value.unwrap := by
  cases value <;> rfl

@[simp] theorem equal_text_iff (a b : String) : equal (.text a) (.text b) = true ↔ a = b := by
  simp [equal]

variable {entries stored : List (Value × Value)}

theorem storeEntry_of_absent {key value : Value} (h : ∀ e ∈ entries, equal e.1 key = false) :
    storeEntry key value entries = entries ++ [(key, value)] := by
  induction entries with
  | nil => rfl
  | cons e entries ih =>
    obtain ⟨he, hentries⟩ := List.forall_mem_cons.mp h
    rw [storeEntry, he, ih hentries]
    rfl

theorem checkKey_of_storable {key : Value} (h : key.keyObstacle? = Option.none) :
    checkKey key = .ok () := by
  rw [checkKey, h]

theorem foldlM_storeEntry (hkeys : ∀ e ∈ entries, e.1.keyObstacle? = Option.none)
    (hnew : ∀ a ∈ stored, ∀ e ∈ entries, equal a.1 e.1 = false)
    (hdistinct : entries.Pairwise fun a e ↦ equal a.1 e.1 = false) :
    entries.foldlM (fun stored entry ↦ do
        checkKey entry.1
        return storeEntry entry.1 entry.2.unwrapOnce stored) stored
      = .ok (stored ++ entries.map fun entry ↦ (entry.1, entry.2.unwrapOnce)) := by
  induction entries generalizing stored with
  | nil => simp [pure, Except.pure]
  | cons entry entries ih =>
    obtain ⟨hkey, hkeys⟩ := List.forall_mem_cons.mp hkeys
    obtain ⟨hfirst, hdistinct⟩ := List.pairwise_cons.mp hdistinct
    -- The key is new, because it equals none of those that stand before it.
    have habsent : ∀ a ∈ stored, equal a.1 entry.1 = false :=
      fun a ha ↦ hnew a ha entry List.mem_cons_self
    have hnew' : ∀ a ∈ stored ++ [(entry.1, entry.2.unwrapOnce)], ∀ e ∈ entries,
        equal a.1 e.1 = false := by
      intro a ha e he
      rcases List.mem_append.mp ha with ha | ha
      · exact hnew a ha e (List.mem_cons_of_mem _ he)
      · rw [List.mem_singleton.mp ha]
        exact hfirst e he
    rw [List.foldlM_cons, checkKey_of_storable hkey]
    change List.foldlM _ (storeEntry entry.1 entry.2.unwrapOnce stored) entries = _
    rw [storeEntry_of_absent habsent, ih hkeys hnew' hdistinct, List.map_cons, List.append_assoc]
    rfl

/-- Entries under distinct keys are stored as they are, each value without its outermost variant
layer. -/
theorem storeEntries_of_distinct (hkeys : ∀ e ∈ entries, e.1.keyObstacle? = Option.none)
    (hdistinct : entries.Pairwise fun a e ↦ equal a.1 e.1 = false) :
    storeEntries entries = .ok (entries.map fun entry ↦ (entry.1, entry.2.unwrapOnce)) :=
  foldlM_storeEntry hkeys (List.forall_mem_nil _) hdistinct

theorem distinct_of_texts {keys : List String} (hkeys : entries.map (·.1) = keys.map Value.text)
    (hnodup : keys.Nodup) : (∀ e ∈ entries, e.1.keyObstacle? = Option.none) ∧
      entries.Pairwise fun a e ↦ equal a.1 e.1 = false := by
  constructor
  · intro e he
    have hmem : e.1 ∈ keys.map Value.text := hkeys ▸ List.mem_map_of_mem he
    obtain ⟨key, -, hkey⟩ := List.mem_map.mp hmem
    rw [← hkey]
    rfl
  · have htexts : (keys.map Value.text).Pairwise fun a b ↦ equal a b = false := by
      refine List.pairwise_map.mpr (hnodup.imp fun hne ↦ ?_)
      rwa [Bool.eq_false_iff, ne_eq, equal_text_iff]
    rw [← hkeys] at htexts
    exact List.pairwise_map.mp htexts

/-- **Entries are stored** one after the other exactly if each key can be one. -/
theorem exists_storeEntries_iff :
    (∃ changes, storeEntries entries = .ok changes) ↔
      ∀ e ∈ entries, e.1.keyObstacle? = Option.none := by
  rw [storeEntries]
  generalize ([] : List (Value × Value)) = stored
  induction entries generalizing stored with
  | nil => exact ⟨fun _ ↦ List.forall_mem_nil _, fun _ ↦ ⟨stored, rfl⟩⟩
  | cons entry entries ih =>
    rw [List.foldlM_cons, checkKey, List.forall_mem_cons]
    cases hkey : entry.1.keyObstacle? with
    | none => exact (ih _).trans ⟨fun hkeys ↦ ⟨rfl, hkeys⟩, And.right⟩
    | some kind =>
      constructor
      · rintro ⟨changes, hstored⟩
        cases hstored
      · rintro ⟨hnone, -⟩
        cases hnone

theorem storeEntries_eq_error {failure : Failure} (h : storeEntries entries = .error failure) :
    ∃ kind, failure = .notAKey kind := by
  rw [storeEntries] at h
  generalize ([] : List (Value × Value)) = stored at h
  induction entries generalizing stored with
  | nil => exact nomatch h
  | cons entry entries ih =>
    rw [List.foldlM_cons, checkKey] at h
    cases hkey : entry.1.keyObstacle? with
    | none =>
      rw [hkey] at h
      exact ih _ h
    | some kind =>
      rw [hkey] at h
      exact ⟨kind, (Except.error.inj h).symm⟩

end Value

/-! ## Batches that read alike -/

namespace Changes

/-- Two batches give the same values beneath all variant layers. -/
def Alike (changes changes' : Changes) : Prop :=
  ∀ name, (changes.value? name).map Value.unwrap = (changes'.value? name).map Value.unwrap

theorem alike_unwrapOnce (changes : Changes) :
    Alike (changes.map fun entry ↦ (entry.1, entry.2.unwrapOnce)) changes := by
  intro name
  have hfind : (changes.map fun entry ↦ (entry.1, entry.2.unwrapOnce)).find?
        (fun entry ↦ entry.1.isText name)
      = (changes.find? fun entry ↦ entry.1.isText name).map
        fun entry ↦ (entry.1, entry.2.unwrapOnce) := List.find?_map ..
  rw [value?, value?, hfind]
  cases changes.find? fun entry ↦ entry.1.isText name with
  | none => rfl
  | some entry => exact congrArg some entry.2.unwrap_unwrapOnce

theorem Alike.sameBeneath {changes changes' : Changes} (h : Alike changes changes') :
    SameBeneath changes changes' := by
  have hbare (value : Option Value) : value.map Value.bare
      = (value.map Value.unwrap).map Value.bare := by
    cases value with
    | none => rfl
    | some value => exact congrArg some value.bare_unwrap.symm
  intro name
  rw [hbare, h name, ← hbare]

end Changes

/-! ## Devices -/

namespace Device

/-- **A device cannot tell batches that read alike.** It is changed in the same way, and what
happens to it after the merge is the same. -/
theorem update_of_alike {changes changes' : Changes} (h : Changes.Alike changes changes')
    (d : Device) : (d.update changes).1 = (d.update changes').1 ∧
      ∃ rest, (d.update changes).2.course = .merged changes :: rest ∧
        (d.update changes').2.course = .merged changes' :: rest := by
  obtain ⟨hdevice, hcourse, -⟩ := update_of_sameBeneath h.sameBeneath d
  exact ⟨hdevice, hcourse⟩

end Device

end GattPeer
