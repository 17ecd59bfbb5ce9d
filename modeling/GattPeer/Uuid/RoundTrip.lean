import GattPeer.Proofs.Text.Ascii
import GattPeer.Uuid

/-!
# UUIDs read back

What is written for a UUID reads back as that UUID (`Uuid.parse_text`). The written form holds
hexadecimal digits and dashes alone. None of these is touched by the steps that undo the other
spellings, apart from the dashes, which go, so that the 32 digits are what remains to be read
(`Uuid.parse_of_isHexDigit`).
-/

namespace GattPeer.Uuid

/-! ## Steps that change nothing -/

theorem dropWhile_eq_self {p : Char → Bool} :
    ∀ {cs : List Char}, (∀ c ∈ cs, p c = false) → cs.dropWhile p = cs
  | [], _ => rfl
  | c :: cs, h => by simp [h c (by simp)]

theorem dropEnds_eq_self {p : Char → Bool} {cs : List Char} (h : ∀ c ∈ cs, p c = false) :
    ((cs.dropWhile p).reverse.dropWhile p).reverse = cs := by
  rw [dropWhile_eq_self h, dropWhile_eq_self (by simpa using h), List.reverse_reverse]

theorem removeWord_eq_self {first : Char} {word : List Char} :
    ∀ {cs : List Char}, (∀ c ∈ cs, c ≠ first) → removeWord (first :: word) 0 cs = cs
  | [], _ => rfl
  | c :: cs, h => by
    have hc : (first == c) = false := by simpa using (h c (by simp)).symm
    have := @removeWord_eq_self first word cs fun d hd ↦ h d (by simp [hd])
    simp [removeWord, List.isPrefixOf, hc, this]

/-- The marker has a letter that is no digit. -/
theorem dropMarker_eq_self {cs : List Char} (h : ∀ c ∈ cs, c ≠ 'x' ∧ c ≠ 'X') :
    dropMarker cs = cs := by
  unfold dropMarker
  split <;> simp_all

/-! ## The value of digits -/

theorem digitsValue?_eq_foldl {cs : List Char}
    (h : ∀ c ∈ cs, c ≠ '_' ∧ (Text.hexValue? c).isSome) (n : Nat) :
    digitsValue? n true cs =
      some (cs.foldl (fun n c ↦ n * 16 + (Text.hexValue? c).getD 0) n) := by
  induction cs generalizing n with
  | nil => rfl
  | cons c cs ih =>
    obtain ⟨hc, hd⟩ := h c (by simp)
    obtain ⟨d, hd⟩ := Option.isSome_iff_exists.mp hd
    simp [digitsValue?, hc, hd, ih fun c hc ↦ h c (by simp [hc])]

theorem digitsValue?_eq_hexNumber {cs : List Char} (hne : cs ≠ [])
    (h : ∀ c ∈ cs, c ≠ '_' ∧ (Text.hexValue? c).isSome) :
    digitsValue? 0 false cs = some (Text.hexNumber cs) := by
  cases cs with
  | nil => contradiction
  | cons c cs =>
    obtain ⟨hc, hd⟩ := h c (by simp)
    obtain ⟨d, hd⟩ := Option.isSome_iff_exists.mp hd
    have := @digitsValue?_eq_foldl cs (fun c hc ↦ h c (List.mem_cons_of_mem _ hc)) d
    simp [digitsValue?, Text.hexNumber, hc, hd, this]

/-! ## Digits and dashes -/

theorem numeralValue?_of_isHexDigit {cs : List Char} (hne : cs ≠ [])
    (h : ∀ c ∈ cs, Text.isHexDigit c = true) : numeralValue? cs = some (Text.hexNumber cs) := by
  have hdigit {p : Char → Prop}
      (hp : ∀ n < 128, Text.isHexDigit (Char.ofNat n) = true → p (Char.ofNat n)) :
      ∀ c ∈ cs, p c := fun c hc ↦ Text.of_isHexDigit hp (h c hc)
  have hplain : cs.map plain = cs :=
    (List.map_congr_left (hdigit (p := fun c ↦ plain c = c) (by decide))).trans (List.map_id cs)
  have htrim : Text.trimBlanks cs = cs :=
    dropEnds_eq_self (hdigit (p := fun c ↦ Text.isBlank c = false) (by decide))
  have hmarker : dropMarker cs = cs :=
    dropMarker_eq_self (hdigit (p := fun c ↦ c ≠ 'x' ∧ c ≠ 'X') (by decide))
  have hsign := hdigit (p := fun c ↦ c ≠ '+') (by decide)
  have hunderscore := hdigit (p := fun c ↦ c ≠ '_') (by decide)
  unfold numeralValue?
  simp only [hplain, htrim]
  split
  · next cs h => exact absurd rfl (hsign '+' (by simp))
  · rw [hmarker]
    exact digitsValue?_eq_hexNumber hne fun c hc ↦ ⟨hunderscore c hc, h c hc⟩

theorem digits_of_isHexDigit {s : String}
    (h : ∀ c ∈ complete s.toList, Text.isHexDigit c = true ∨ c = '-') :
    digits s = (complete s.toList).filter (· != '-') := by
  have hmem {p : Char → Prop}
      (hp : ∀ n < 128, Text.isHexDigit (Char.ofNat n) = true → p (Char.ofNat n)) (hdash : p '-') :
      ∀ c ∈ complete s.toList, p c := by
    intro c hc
    rcases h c hc with hdigit | rfl
    · exact Text.of_isHexDigit hp hdigit
    · exact hdash
  have hnoU := hmem (p := fun c ↦ c ≠ 'u') (by decide) (by decide)
  have hurn : removeWord "urn:".toList 0 (complete s.toList) = complete s.toList :=
    @removeWord_eq_self 'u' "rn:".toList _ hnoU
  have huuid : removeWord "uuid:".toList 0 (complete s.toList) = complete s.toList :=
    @removeWord_eq_self 'u' "uid:".toList _ hnoU
  simp only [digits, hurn, huuid]
  rw [dropEnds_eq_self (hmem (p := fun c ↦ isBrace c = false) (by decide) (by decide))]

/-- **Reading 32 digits**, with dashes anywhere between them. -/
theorem parse_of_isHexDigit {s : String}
    (h : ∀ c ∈ complete s.toList, Text.isHexDigit c = true ∨ c = '-')
    (hlength : ((complete s.toList).filter (· != '-')).length = 32) :
    parse s = .ok ⟨BitVec.ofNat 128 (Text.hexNumber ((complete s.toList).filter (· != '-')))⟩ := by
  have hne : (complete s.toList).filter (· != '-') ≠ [] := by
    intro hnil
    rw [hnil] at hlength
    exact absurd hlength (by decide)
  have hdigits : ∀ c ∈ (complete s.toList).filter (· != '-'), Text.isHexDigit c = true := by
    intro c hc
    obtain ⟨hc, hdash⟩ := List.mem_filter.mp hc
    exact (h c hc).resolve_right (by simpa using hdash)
  simp only [parse, digits_of_isHexDigit h, hlength, numeralValue?_of_isHexDigit hne hdigits]
  simp

/-! ## The characters of a UUID -/

/-- The lower-case hexadecimal digits. -/
def lowerDigits : List Char := (List.range 16).map Text.hexDigit

theorem mem_lowerDigits_of_mem_hexFixed {c : Char} :
    ∀ {width n : Nat}, c ∈ Text.hexFixed width n → c ∈ lowerDigits
  | width + 1, n, h => by
    rcases List.mem_append.mp h with h | h
    · exact mem_lowerDigits_of_mem_hexFixed h
    · exact List.mem_map.mpr ⟨n % 16, List.mem_range.mpr (Nat.mod_lt _ (by decide)),
        (List.mem_singleton.mp h).symm⟩

/-- The digits of a UUID. -/
def hex (u : Uuid) : List Char := Text.hexFixed 32 u.number.toNat

theorem forall_mem_hex {P : Char → Prop} [DecidablePred P]
    (h : lowerDigits.all (fun c ↦ P c) = true) (u : Uuid) : ∀ c ∈ u.hex, P c :=
  fun c hc ↦ of_decide_eq_true (List.all_eq_true.mp h c (mem_lowerDigits_of_mem_hexFixed hc))

theorem forall_mem_chars {P : Char → Prop} [DecidablePred P]
    (h : ('-' :: lowerDigits).all (fun c ↦ P c) = true) (u : Uuid) : ∀ c ∈ u.chars, P c := by
  intro c hc
  have hmem : c = '-' ∨ c ∈ u.hex := by
    simp only [chars, List.mem_append, List.mem_cons] at hc
    rcases hc with (((hc | hc | hc) | hc | hc) | hc | hc) | hc | hc
    · exact .inr (List.mem_of_mem_take hc)
    · exact .inl hc
    · exact .inr (List.mem_of_mem_drop (List.mem_of_mem_take hc))
    · exact .inl hc
    · exact .inr (List.mem_of_mem_drop (List.mem_of_mem_take hc))
    · exact .inl hc
    · exact .inr (List.mem_of_mem_drop (List.mem_of_mem_take hc))
    · exact .inl hc
    · exact .inr (List.mem_of_mem_drop hc)
  rw [List.all_cons, Bool.and_eq_true] at h
  rcases hmem with rfl | hmem
  · exact of_decide_eq_true h.1
  · exact forall_mem_hex h.2 u c hmem

theorem number_lt (u : Uuid) : u.number.toNat < Nat.pow 16 32 :=
  Nat.lt_of_lt_of_eq u.number.isLt (by decide)

@[simp] theorem length_hex (u : Uuid) : u.hex.length = 32 := Text.length_hexFixed 32 _

@[simp] theorem length_chars (u : Uuid) : u.chars.length = 36 := by
  simp [chars]

@[simp] theorem filter_chars (u : Uuid) : u.chars.filter (· != '-') = u.hex := by
  have keep : ∀ cs : List Char, (∀ c ∈ cs, c ∈ u.hex) → cs.filter (· != '-') = cs := fun cs hcs ↦
    List.filter_eq_self.mpr fun c hc ↦
      forall_mem_hex (P := fun c ↦ (c != '-') = true) (by decide) u c (hcs c hc)
  have split : u.hex.take 8 ++ (u.hex.drop 8).take 4 ++ (u.hex.drop 12).take 4
      ++ (u.hex.drop 16).take 4 ++ u.hex.drop 20 = u.hex := by
    have step (m n : Nat) : (u.hex.drop m).take n ++ u.hex.drop (m + n) = u.hex.drop m := by
      rw [← List.drop_drop, List.take_append_drop]
    simp only [List.append_assoc, step, List.take_append_drop]
  have h₀ := keep (u.hex.take 8) fun c ↦ List.mem_of_mem_take
  have h₁ (m n : Nat) := keep ((u.hex.drop m).take n) fun c hc ↦
    List.mem_of_mem_drop (List.mem_of_mem_take hc)
  have h₂ := keep (u.hex.drop 20) fun c ↦ List.mem_of_mem_drop
  refine Eq.trans ?_ split
  simp only [hex] at h₀ h₁ h₂ ⊢
  simp [chars, List.filter_append, h₀, h₁, h₂]

/-! ## Reading back -/

@[simp] theorem complete_text (u : Uuid) : complete u.text.toList = u.chars := by
  simp [text, complete]

@[simp] theorem parse_text (u : Uuid) : parse u.text = .ok u := by
  have hchars : ∀ c ∈ complete u.text.toList, Text.isHexDigit c = true ∨ c = '-' := by
    rw [complete_text]
    exact forall_mem_chars (by decide) u
  have hhex : (complete u.text.toList).filter (· != '-') = u.hex := by
    rw [complete_text, filter_chars]
  have hnumber : Text.hexNumber u.hex = u.number.toNat := by
    rw [hex, Text.hexNumber_hexFixed, Nat.mod_eq_of_lt u.number_lt]
  rw [parse_of_isHexDigit hchars (by rw [hhex, length_hex]), hhex, hnumber]
  simp

end GattPeer.Uuid
