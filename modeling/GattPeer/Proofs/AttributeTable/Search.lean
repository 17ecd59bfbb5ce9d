import GattPeer.Proofs.AttributeTable.FirstCome

/-!
# Searches by type

A search looks at the announcements in a table one after the other. Their handles stand in the order
in which they came first, whatever was announced of them later. So among the attributes that a
search looks for it finds the one whose handle came first. That need not be the lowest handle, nor
the one that was announced first with this type: an attribute is looked at as it was announced last.
-/

namespace GattPeer

/-- Whether an attribute is one that a read by type looks for. -/
def Announcement.Answers (c : Characteristic) (uuid : String) (a : Announcement) : Prop :=
  Uuid.parse uuid = .ok a.uuid ∧ c.start ≤ a.handle.number ∧ a.handle.number ≤ c.stop

namespace AttributeTable

variable {t : AttributeTable} {as bs : List Announcement} {number : Int}

/-! ## What a search finds -/

theorem pathOf?_of_mem (h : Ranges.Distinct t.announcements) {a : Announcement}
    (ha : a ∈ t.announcements) : t.pathOf? a.handle.number = some a.path := by
  rw [pathOf?, (lookup?_eq_some_iff h).mpr ha]
  rfl

/-- **A search finds the first of those that it looks for**, if there are any. -/
theorem find?_cases (t : AttributeTable) (c : Characteristic) (uuid : String) :
    (∃ before a after, t.announcements = before ++ a :: after ∧
      (∀ b ∈ before, ¬b.Answers c uuid) ∧ a.Answers c uuid ∧
      t.find? uuid c.start c.stop = .ok (some a.unranged)) ∨
    (∀ a ∈ t.announcements, ¬a.Answers c uuid) ∧
      t.find? uuid c.start c.stop = (Uuid.parse uuid).map fun _ ↦ none := by
  cases hparse : Uuid.parse uuid with
  | error failure =>
    refine .inr ⟨?_, by rw [find?, hparse]; rfl⟩
    rintro a - ⟨huuid, -, -⟩
    cases hparse.symm.trans huuid
  | ok target =>
    have hanswers (a : Announcement) : (a.uuid = target && c.start ≤ a.handle.number
        && a.handle.number ≤ c.stop) = true ↔ a.Answers c uuid := by
      rw [Announcement.Answers, hparse, Except.ok.injEq, eq_comm (a := target)]
      simp only [Bool.and_eq_true, decide_eq_true_eq, and_assoc]
    have hfind : t.find? uuid c.start c.stop = .ok ((t.announcements.find? fun a ↦
        a.uuid = target && c.start ≤ a.handle.number && a.handle.number ≤ c.stop).map
          (·.unranged)) := by
      rw [find?, hparse]
      rfl
    cases hfound : t.announcements.find? fun a ↦
        a.uuid = target && c.start ≤ a.handle.number && a.handle.number ≤ c.stop with
    | none =>
      refine .inr ⟨fun a ha ↦ ?_, by rw [hfind, hfound]; rfl⟩
      exact (hanswers a).not.mp (List.find?_eq_none.mp hfound a ha)
    | some a =>
      obtain ⟨ha, before, after, hsplit, hbefore⟩ := List.find?_eq_some_iff_append.mp hfound
      refine .inl ⟨before, a, after, hsplit, fun b hb ↦ ?_, (hanswers a).mp ha, ?_⟩
      · have hfalse := (Bool.not_eq_true' _).mp (hbefore b hb)
        exact (hanswers b).not.mp (Bool.eq_false_iff.mp hfalse)
      · rw [hfind, hfound]
        rfl

/-! ## Places -/

/-- The place at which a handle came first. -/
def place (as : List Announcement) (number : Int) : Nat := as.findIdx (·.handle.number = number)

@[simp] theorem place_lt_length_iff : place as number < as.length ↔ number ∈ arrivals as := by
  rw [place, List.findIdx_lt_length, arrivals, List.mem_eraseDups, List.mem_map]
  simp only [decide_eq_true_eq]

theorem place_append_of_mem (h : number ∈ arrivals as) (bs : List Announcement) :
    place (as ++ bs) number = place as number := by
  rw [place, List.findIdx_append]
  exact if_pos (place_lt_length_iff.mpr h)

theorem length_le_place_append (h : number ∉ arrivals as) (bs : List Announcement) :
    as.length ≤ place (as ++ bs) number := by
  have hplace : place (as ++ bs) number = place bs number + as.length := by
    rw [place, List.findIdx_append]
    exact if_neg (place_lt_length_iff.not.mpr h)
  rw [hplace]
  exact Nat.le_add_left ..

/-- **The handles stand in the order of their places.** -/
theorem pairwise_place_arrivals (as : List Announcement) :
    (arrivals as).Pairwise fun m n ↦ place as m < place as n := by
  induction as using List.reverseRecOn with
  | nil => exact .nil
  | append_singleton as a ih =>
    have hkept : (arrivals as).Pairwise fun m n ↦ place (as ++ [a]) m < place (as ++ [a]) n :=
      ih.imp_of_mem fun hm hn hlt ↦ by
        rwa [place_append_of_mem hm, place_append_of_mem hn]
    rw [arrivals_append]
    by_cases hold : a.handle.number ∈ arrivals as
    · rwa [if_pos hold]
    · rw [if_neg hold, List.pairwise_append]
      refine ⟨hkept, List.pairwise_singleton .., fun m hm n hn ↦ ?_⟩
      rw [List.mem_singleton.mp hn, place_append_of_mem hm]
      exact Nat.lt_of_lt_of_le (place_lt_length_iff.mpr hm) (length_le_place_append hold _)

theorem pairwise_place_stored (as : List Announcement) :
    (stored as).Pairwise fun a b ↦ place as a.handle.number < place as b.handle.number := by
  have hplaces := pairwise_place_arrivals as
  rwa [← map_number_stored, List.pairwise_map] at hplaces

/-! ## Searches after announcements -/

theorem pathOf?_of_stored (h : t.announcements = stored as) (number : Int) :
    t.pathOf? number = (last? as number).map (·.path) := by
  rw [pathOf?, h, lookup?_stored]

/-- **A search finds the attribute whose handle came first**, among those whose last announcements
it looks for. -/
theorem find?_cases_of_stored (h : t.announcements = stored as) (c : Characteristic)
    (uuid : String) :
    (∃ a, last? as a.handle.number = some a ∧ a.Answers c uuid ∧
      (∀ b, last? as b.handle.number = some b → b.Answers c uuid → b ≠ a →
        place as a.handle.number < place as b.handle.number) ∧
      t.find? uuid c.start c.stop = .ok (some a.unranged)) ∨
    (∀ a, last? as a.handle.number = some a → ¬a.Answers c uuid) ∧
      t.find? uuid c.start c.stop = (Uuid.parse uuid).map fun _ ↦ none := by
  rcases t.find?_cases c uuid with ⟨before, a, after, hsplit, hbefore, ha, hfind⟩ | ⟨hnone, hfind⟩
  · rw [h] at hsplit
    have hmem : a ∈ stored as := hsplit ▸ List.mem_append_right _ List.mem_cons_self
    refine .inl ⟨a, mem_stored_iff.mp hmem, ha, fun b hb hanswers hne ↦ ?_, hfind⟩
    have hplaces := pairwise_place_stored as
    rw [hsplit, List.pairwise_append] at hplaces
    have hmem' : b ∈ before ++ a :: after := hsplit ▸ mem_stored_iff.mpr hb
    rcases List.mem_append.mp hmem' with hearlier | hlater
    · exact absurd hanswers (hbefore b hearlier)
    · rcases List.mem_cons.mp hlater with hsame | hlater
      · exact absurd hsame hne
      · exact (List.pairwise_cons.mp hplaces.2.1).1 b hlater
  · rw [h] at hnone
    exact .inr ⟨fun a ha ↦ hnone a (mem_stored_iff.mpr ha), hfind⟩

end AttributeTable

end GattPeer
