import GattPeer.Proofs.AttributeTable.FirstCome

/-!
# Published characteristics have paths

What is published is computed from the announcements, and stays published while further
announcements come in. An announcement takes the place of an earlier one of its handle, but no
operation forgets a handle without forgetting what is published. So a characteristic that is
published, maybe long ago, still has a path, although it need not be the path that it had then.
-/

namespace GattPeer

namespace AttributeTable

variable {t : AttributeTable}

def handles (t : AttributeTable) : List Int := t.announcements.map (·.handle.number)

theorem exists_pathOf?_iff {number : Int} :
    (∃ path, t.pathOf? number = some path) ↔ number ∈ t.handles := by
  rw [← Option.isSome_iff_exists, pathOf?, Option.isSome_map, lookup?, List.find?_isSome, handles,
    List.mem_map]
  simp only [decide_eq_true_eq]

/-- Everything that is published was announced. -/
def Grounded (t : AttributeTable) : Prop := ∀ c ∈ t.published, c.value ∈ t.handles

theorem grounded_empty (owner : String) : (empty owner).Grounded :=
  fun _ hc ↦ absurd hc List.not_mem_nil

theorem grounded_publish (t : AttributeTable) : t.publish.1.Grounded :=
  fun _ hc ↦ List.mem_map.mpr (Ranges.exists_announcement_of_mem_build hc)

theorem handles_subset_store (t : AttributeTable) (a : Announcement) :
    t.handles ⊆ (store a t.announcements).map (·.handle.number) := by
  rw [map_number_store]
  split
  · exact List.Subset.refl _
  · exact List.subset_append_left ..

theorem Grounded.of_subset {t' : AttributeTable} (h : t.Grounded)
    (hpublished : t'.published = t.published) (hhandles : t.handles ⊆ t'.handles) : t'.Grounded :=
  fun c hc ↦ hhandles (h c (hpublished ▸ hc))

theorem Grounded.announce (h : t.Grounded) (path uuid : String) (flags : PropertyFlags) :
    (t.announce path uuid flags).1.Grounded := by
  unfold AttributeTable.announce
  cases Announcement.read path uuid flags with
  | error failure => exact h
  | ok a => exact h.of_subset rfl (t.handles_subset_store a)

theorem Grounded.step (h : t.Grounded) (operation : Operation) :
    (t.step operation).1.Grounded := by
  cases operation with
  | announce path uuid flags =>
    rw [step_announce]
    exact h.announce path uuid flags
  | publish => exact t.grounded_publish
  | clear => exact grounded_empty t.owner
  | _ => exact h

/-- **Everything that is published was announced**, after any operations. -/
theorem Grounded.run (h : t.Grounded) (operations : List Operation) :
    (t.run operations).Grounded := by
  induction operations generalizing t with
  | nil => exact h
  | cons operation operations ih => exact ih (h.step operation)

end AttributeTable

end GattPeer
