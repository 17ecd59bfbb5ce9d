import GattPeer.Proofs.Text.Digit

/-!
# Spellings of UUIDs

A UUID is written in one way but spelled in many. Its text may have letters of either case, and if
it is one of the Bluetooth base it may be spelled by its eight leading digits alone, or by four of
them if the others are zero. All of these are read as the same UUID.

The short forms are completed by the rest of the base before anything is read, so what is read is a
list of 32 digits in each case, and these have the same value whatever their case is.
-/

namespace GattPeer

namespace Uuid

/-- The UUID of the Bluetooth base with given leading digits. -/
def ofShort (n : Nat) : Uuid := ⟨BitVec.ofNat 128 (n * Nat.pow 2 96 + 0x1000800000805f9b34fb)⟩

/-- The spellings of a UUID, with letters of either case. -/
inductive Spells (s : String) (u : Uuid) : Prop
  /-- The text of the UUID. -/
  | full (text : s.toLower = u.text)
  /-- Eight digits of a UUID of the Bluetooth base. -/
  | long (length : s.toList.length = 8) (digits : ∀ c ∈ s.toList, Text.isHexDigit c = true)
    (number : u = ofShort (Text.hexNumber s.toList))
  /-- Four digits of a UUID of the Bluetooth base. -/
  | short (length : s.toList.length = 4) (digits : ∀ c ∈ s.toList, Text.isHexDigit c = true)
    (number : u = ofShort (Text.hexNumber s.toList))

variable {s : String} {u : Uuid}

/-! ## Short forms -/

theorem parse_of_complete_eq {cs : List Char} (h : complete s.toList = cs ++ baseTail)
    (hlength : cs.length = 8) (hdigits : ∀ c ∈ cs, Text.isHexDigit c = true) :
    parse s = .ok (ofShort (Text.hexNumber cs)) := by
  let tail := baseTail.filter (· != '-')
  have hchars : ∀ c ∈ complete s.toList, Text.isHexDigit c = true ∨ c = '-' := by
    have htail : ∀ c ∈ baseTail, (Text.isHexDigit c || c == '-') = true := List.all_eq_true.mp rfl
    intro c hc
    rw [h] at hc
    rcases List.mem_append.mp hc with hc | hc
    · exact .inl (hdigits c hc)
    · simpa using htail c hc
  have hfilter : (complete s.toList).filter (· != '-') = cs ++ tail := by
    have hcs : cs.filter (· != '-') = cs := by
      refine List.filter_eq_self.mpr fun c hc ↦ ?_
      exact Text.of_isHexDigit (p := fun c ↦ (c != '-') = true) (by decide) (hdigits c hc)
    rw [h, List.filter_append, hcs]
  have hnumber : Text.hexNumber (cs ++ tail)
      = Text.hexNumber cs * Nat.pow 2 96 + 0x1000800000805f9b34fb := by
    rw [Text.hexNumber_append]
    rfl
  rw [parse_of_isHexDigit hchars (by rw [hfilter, List.length_append, hlength]; rfl), hfilter,
    hnumber, ofShort]

theorem parse_of_long (hlength : s.toList.length = 8)
    (hdigits : ∀ c ∈ s.toList, Text.isHexDigit c = true) :
    parse s = .ok (ofShort (Text.hexNumber s.toList)) := by
  have hcomplete : complete s.toList = s.toList ++ baseTail := by
    simp [complete, hlength]
  exact parse_of_complete_eq hcomplete hlength hdigits

theorem parse_of_short (hlength : s.toList.length = 4)
    (hdigits : ∀ c ∈ s.toList, Text.isHexDigit c = true) :
    parse s = .ok (ofShort (Text.hexNumber s.toList)) := by
  have hcomplete : complete s.toList = ("0000".toList ++ s.toList) ++ baseTail := by
    simp [complete, hlength]
  have hzeros : ∀ c ∈ "0000".toList, Text.isHexDigit c = true := List.all_eq_true.mp rfl
  have hnumber : Text.hexNumber ("0000".toList ++ s.toList) = Text.hexNumber s.toList := by
    rw [Text.hexNumber_append, show Text.hexNumber "0000".toList = 0 from rfl, Nat.zero_mul,
      Nat.zero_add]
  rw [parse_of_complete_eq hcomplete (by rw [List.length_append, hlength]; rfl)
    (List.forall_mem_append.mpr ⟨hzeros, hdigits⟩), hnumber]

/-! ## The full form -/

theorem parse_of_full (h : s.toLower = u.text) : parse s = .ok u := by
  have hlower : s.toList.map Char.toLower = u.chars := by
    rw [← String.toList_map]
    exact (congrArg String.toList h).trans String.toList_ofList
  have hcomplete : complete s.toList = s.toList := by
    have hlength : s.toList.length = 36 := by
      rw [← List.length_map Char.toLower, hlower, length_chars]
    simp [complete, hlength]
  have hchars : ∀ c ∈ complete s.toList, Text.isHexDigit c = true ∨ c = '-' := by
    intro c hc
    have hmem : c.toLower ∈ u.chars := hlower ▸ List.mem_map_of_mem (hcomplete ▸ hc)
    rw [← Text.isHexDigit_toLower, ← Text.toLower_eq_dash_iff]
    exact forall_mem_chars (P := fun c ↦ Text.isHexDigit c = true ∨ c = '-') (by decide) u _ hmem
  -- Without its dashes, the spelling is the numeral of the UUID in any case.
  have hdigits : ((complete s.toList).filter (· != '-')).map Char.toLower = u.hex := by
    have hdash : (· != '-') ∘ Char.toLower = (· != '-') := by
      funext c
      exact Bool.eq_iff_iff.mpr (by simp)
    rw [hcomplete, ← filter_chars, ← hlower, List.filter_map, hdash]
  rw [parse_of_isHexDigit hchars (Text.length_of_map_toLower hdigits),
    Text.hexNumber_of_map_toLower hdigits u.number_lt]
  simp

/-- **All spellings of a UUID are read as that UUID.** -/
theorem Spells.parse (h : Spells s u) : Uuid.parse s = .ok u := by
  cases h with
  | full htext => exact parse_of_full htext
  | long hlength hdigits hnumber =>
    rw [hnumber]
    exact parse_of_long hlength hdigits
  | short hlength hdigits hnumber =>
    rw [hnumber]
    exact parse_of_short hlength hdigits

end Uuid

end GattPeer
