import GattPeer.Uuid.RoundTrip

/-!
# Hexadecimal numerals

The value of a hexadecimal numeral is the same in either case, and digits that are written for a
number in lower case stand for this number. The value of two numerals in a row follows from their
values and from the length of the second.
-/

namespace GattPeer.Text

/-! ## Digits in either case -/

theorem toLower_of_not_ascii {c : Char} (h : ¬c.toNat < 128) : c.toLower = c := by
  refine dif_neg ?_
  rintro ⟨-, hupper⟩
  have hle : c.toNat ≤ 90 := hupper
  omega

@[simp] theorem hexValue?_toLower (c : Char) : hexValue? c.toLower = hexValue? c := by
  by_cases hascii : c.toNat < 128
  · exact of_ascii (p := fun c ↦ hexValue? c.toLower = hexValue? c) (by decide) hascii
  · rw [toLower_of_not_ascii hascii]

@[simp] theorem isHexDigit_toLower (c : Char) : isHexDigit c.toLower = isHexDigit c := by
  rw [isHexDigit, isHexDigit, hexValue?_toLower]

@[simp] theorem toLower_eq_dash_iff {c : Char} : c.toLower = '-' ↔ c = '-' := by
  by_cases hascii : c.toNat < 128
  · exact of_ascii (p := fun c ↦ c.toLower = '-' ↔ c = '-') (by decide) hascii
  · rw [toLower_of_not_ascii hascii]

theorem isHexDigit_of_mem_hexFixed {width n : Nat} {c : Char} (h : c ∈ hexFixed width n) :
    isHexDigit c = true := by
  have hall : ∀ c ∈ Uuid.lowerDigits, isHexDigit c = true := List.all_eq_true.mp rfl
  exact hall c (Uuid.mem_lowerDigits_of_mem_hexFixed h)

variable {digits : List Char} {width n : Nat}

theorem hexNumber_of_map_toLower (h : digits.map Char.toLower = hexFixed width n)
    (hn : n < Nat.pow 16 width) : hexNumber digits = n := by
  calc hexNumber digits
    _ = hexNumber (digits.map Char.toLower) := by
      simp only [hexNumber, List.foldl_map, hexValue?_toLower]
    _ = n % Nat.pow 16 width := by rw [h, hexNumber_hexFixed]
    _ = n := Nat.mod_eq_of_lt hn

theorem isHexDigit_of_map_toLower (h : digits.map Char.toLower = hexFixed width n) :
    ∀ c ∈ digits, isHexDigit c = true := by
  intro c hc
  have hlower : isHexDigit c.toLower = true :=
    isHexDigit_of_mem_hexFixed (h ▸ List.mem_map_of_mem hc)
  rwa [isHexDigit_toLower] at hlower

theorem length_of_map_toLower (h : digits.map Char.toLower = hexFixed width n) :
    digits.length = width := by
  rw [← List.length_map Char.toLower, h, length_hexFixed]

/-! ## Numerals in a row -/

theorem foldl_hexValue?_eq (n : Nat) (digits : List Char) :
    digits.foldl (fun n c ↦ n * 16 + (hexValue? c).getD 0) n
      = n * Nat.pow 16 digits.length + hexNumber digits := by
  induction digits generalizing n with
  | nil => simp [hexNumber]
  | cons c digits ih =>
    have hpow : Nat.pow 16 (digits.length + 1) = 16 * Nat.pow 16 digits.length := Nat.mul_comm ..
    rw [hexNumber, List.foldl_cons, List.foldl_cons, ih, ih, List.length_cons, hpow, Nat.zero_mul,
      Nat.zero_add, Nat.add_mul, Nat.mul_assoc, Nat.add_assoc]

theorem hexNumber_append (xs ys : List Char) :
    hexNumber (xs ++ ys) = hexNumber xs * Nat.pow 16 ys.length + hexNumber ys := by
  rw [hexNumber, List.foldl_append, foldl_hexValue?_eq]
  rfl

end GattPeer.Text
