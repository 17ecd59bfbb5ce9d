/-!
# Digits

Decimal digits of every script, hexadecimal digits of ASCII, and numerals of a fixed number of
hexadecimal digits. `hexValue?_hexDigit` ties the two directions of the last together.
-/

namespace GattPeer.Text

/-! ## Decimal digits -/

/-- The code points of the zeros of all scripts with decimal digits. The digits one to nine of a
script follow its zero directly. -/
def decimalZeros : List Nat := [
  0x30, 0x660, 0x6f0, 0x7c0, 0x966, 0x9e6, 0xa66, 0xae6,
  0xb66, 0xbe6, 0xc66, 0xce6, 0xd66, 0xde6, 0xe50, 0xed0,
  0xf20, 0x1040, 0x1090, 0x17e0, 0x1810, 0x1946, 0x19d0, 0x1a80,
  0x1a90, 0x1b50, 0x1bb0, 0x1c40, 0x1c50, 0xa620, 0xa8d0, 0xa900,
  0xa9d0, 0xa9f0, 0xaa50, 0xabf0, 0xff10, 0x104a0, 0x10d30, 0x11066,
  0x110f0, 0x11136, 0x111d0, 0x112f0, 0x11450, 0x114d0, 0x11650, 0x116c0,
  0x11730, 0x118e0, 0x11950, 0x11c50, 0x11d50, 0x11da0, 0x16a60, 0x16ac0,
  0x16b50, 0x1d7ce, 0x1d7d8, 0x1d7e2, 0x1d7ec, 0x1d7f6, 0x1e140, 0x1e2f0,
  0x1e950, 0x1fbf0]

/-- The value of a decimal digit of any script. -/
def decimalValue? (c : Char) : Option Nat :=
  (decimalZeros.find? fun z ↦ z ≤ c.toNat && c.toNat < z + 10).map (c.toNat - ·)

/-! ## Hexadecimal digits -/

/-- The value of an ASCII hexadecimal digit of either case. -/
def hexValue? (c : Char) : Option Nat :=
  if '0' ≤ c ∧ c ≤ '9' then some (c.toNat - '0'.toNat)
  else if 'a' ≤ c ∧ c ≤ 'f' then some (c.toNat - 'a'.toNat + 10)
  else if 'A' ≤ c ∧ c ≤ 'F' then some (c.toNat - 'A'.toNat + 10)
  else none

def isHexDigit (c : Char) : Bool := (hexValue? c).isSome

/-- The lower-case hexadecimal digit of a value below sixteen. -/
def hexDigit (n : Nat) : Char :=
  if n < 10 then Char.ofNat ('0'.toNat + n) else Char.ofNat ('a'.toNat + (n - 10))

theorem hexValue?_hexDigit : ∀ n < 16, hexValue? (hexDigit n) = some n := by decide

/-! ## Numerals of fixed width -/

/-- The `width` low hexadecimal digits of a number, most significant first. -/
def hexFixed : Nat → Nat → List Char
  | 0, _ => []
  | width + 1, n => hexFixed width (n / 16) ++ [hexDigit (n % 16)]

@[simp] theorem length_hexFixed (width n : Nat) : (hexFixed width n).length = width := by
  induction width generalizing n with
  | zero => rfl
  | succ width ih => simp [hexFixed, ih]

/-- The number that hexadecimal digits stand for, most significant first; other characters count
as zero. -/
def hexNumber (digits : List Char) : Nat :=
  digits.foldl (fun n c ↦ n * 16 + (hexValue? c).getD 0) 0

@[simp] theorem hexNumber_hexFixed (width n : Nat) :
    hexNumber (hexFixed width n) = n % Nat.pow 16 width := by
  induction width generalizing n with
  | zero => simp [hexFixed, hexNumber, Nat.mod_one]
  | succ width ih =>
    have hd : (hexValue? (hexDigit (n % 16))).getD 0 = n % 16 := by
      rw [hexValue?_hexDigit _ (Nat.mod_lt _ (by decide))]; rfl
    have := ih (n / 16)
    simp only [hexNumber] at this
    simp only [hexNumber, hexFixed, List.foldl_append, this, List.foldl_cons, List.foldl_nil, hd]
    have hpow : Nat.pow 16 (width + 1) = 16 * Nat.pow 16 width := Nat.mul_comm _ _
    rw [hpow, Nat.mod_mul]
    omega

theorem hexValue?_lt {c : Char} {n : Nat} (h : hexValue? c = some n) : n < 16 := by
  have toNat_le {c d : Char} (h : c ≤ d) : c.toNat ≤ d.toNat := h
  unfold hexValue? at h
  split at h
  · next hc =>
    have := toNat_le hc.2
    cases h
    simp only [Char.reduceToNat] at this ⊢
    omega
  · split at h
    · next hc =>
      have := toNat_le hc.2
      cases h
      simp only [Char.reduceToNat] at this ⊢
      omega
    · split at h
      · next hc =>
        have := toNat_le hc.2
        cases h
        simp only [Char.reduceToNat] at this ⊢
        omega
      · cases h

theorem foldl_hexValue?_lt (n : Nat) (digits : List Char) :
    digits.foldl (fun n c ↦ n * 16 + (hexValue? c).getD 0) n
      < (n + 1) * Nat.pow 16 digits.length := by
  induction digits generalizing n with
  | nil => simp
  | cons c digits ih =>
    have hc : (hexValue? c).getD 0 < 16 := by
      cases h : hexValue? c with
      | none => decide
      | some d => exact hexValue?_lt h
    have hpow : Nat.pow 16 (digits.length + 1) = 16 * Nat.pow 16 digits.length := Nat.mul_comm _ _
    calc digits.foldl _ (n * 16 + (hexValue? c).getD 0)
      _ < (n * 16 + (hexValue? c).getD 0 + 1) * Nat.pow 16 digits.length := ih _
      _ ≤ ((n + 1) * 16) * Nat.pow 16 digits.length := Nat.mul_le_mul_right _ (by omega)
      _ = (n + 1) * Nat.pow 16 (digits.length + 1) := by rw [hpow, Nat.mul_assoc]

/-- Hexadecimal digits stand for a number that has no more of them. -/
theorem hexNumber_lt (digits : List Char) : hexNumber digits < Nat.pow 16 digits.length := by
  simpa [hexNumber] using foldl_hexValue?_lt 0 digits

/-- The bytes as pairs of lower-case hexadecimal digits. -/
def hexOfBytes (data : List UInt8) : String :=
  String.ofList (data.flatMap fun b ↦ hexFixed 2 b.toNat)

end GattPeer.Text
