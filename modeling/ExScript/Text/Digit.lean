/-!
Decimal digits of every script (category Nd). Each script has its ten digits in a row, so the
table holds the zeros only.
-/

namespace ExScript.Text

def zeroCodes : List Nat := [
  0x30, 0x660, 0x6F0, 0x7C0, 0x966, 0x9E6, 0xA66, 0xAE6, 0xB66, 0xBE6,
  0xC66, 0xCE6, 0xD66, 0xDE6, 0xE50, 0xED0, 0xF20, 0x1040, 0x1090, 0x17E0,
  0x1810, 0x1946, 0x19D0, 0x1A80, 0x1A90, 0x1B50, 0x1BB0, 0x1C40, 0x1C50, 0xA620,
  0xA8D0, 0xA900, 0xA9D0, 0xA9F0, 0xAA50, 0xABF0, 0xFF10, 0x104A0, 0x10D30, 0x11066,
  0x110F0, 0x11136, 0x111D0, 0x112F0, 0x11450, 0x114D0, 0x11650, 0x116C0, 0x11730, 0x118E0,
  0x11950, 0x11C50, 0x11D50, 0x11DA0, 0x11F50, 0x16A60, 0x16AC0, 0x16B50, 0x1D7CE, 0x1D7D8,
  0x1D7E2, 0x1D7EC, 0x1D7F6, 0x1E140, 0x1E2F0, 0x1E4F0, 0x1E950, 0x1FBF0]

def digitValue? (c : Char) : Option Nat :=
  (zeroCodes.find? fun start => start ≤ c.toNat && c.toNat < start + 10).map (c.toNat - ·)

def isDigit (c : Char) : Bool :=
  (digitValue? c).isSome

def digitsValue (digits : List Char) : Nat :=
  digits.foldl (fun total c => total * 10 + (digitValue? c).getD 0) 0

theorem digitValue?_ascii {c : Char} (digit : c.isDigit = true) :
    digitValue? c = some (c.toNat - '0'.toNat) := by
  have codes : zeroCodes = 0x30 :: zeroCodes.tail := rfl
  have bounds : 48 ≤ c.toNat ∧ c.toNat ≤ 57 := by
    simpa [Char.isDigit, UInt32.le_iff_toNat_le] using digit
  unfold digitValue?
  rw [codes, List.find?_cons_of_pos (by simp; omega)]
  rfl

theorem isDigit_ascii {c : Char} (digit : c.isDigit = true) : isDigit c = true := by
  unfold isDigit
  rw [digitValue?_ascii digit]
  rfl

theorem digitValue?_lt {c : Char} {value : Nat} (found : digitValue? c = some value) :
    value < 10 := by
  obtain ⟨start, among, rfl⟩ := Option.map_eq_some_iff.mp found
  have bounds := List.find?_some among
  simp only [Bool.and_eq_true, decide_eq_true_eq] at bounds
  omega

/-- A number is not written with more digits than it was read off. -/
theorem length_toDigits_digitsValue_le {digits : List Char} (some : digits ≠ []) :
    (Nat.toDigits 10 (digitsValue digits)).length ≤ digits.length := by
  have below (total bound : Nat) (small : total < bound) :
      digits.foldl (fun total c => total * 10 + (digitValue? c).getD 0) total <
        bound * 10 ^ digits.length := by
    clear some
    induction digits generalizing total bound with
    | nil => simpa using small
    | cons c digits ih =>
        have value : (digitValue? c).getD 0 < 10 := by
          cases found : digitValue? c with
          | none => decide
          | some value => exact digitValue?_lt found
        have behind := ih (total * 10 + (digitValue? c).getD 0) (bound * 10) (by omega)
        rw [Nat.mul_assoc, ← Nat.pow_succ'] at behind
        exact behind
  have bound : digitsValue digits < 10 ^ digits.length := by
    have bound := below 0 1 Nat.zero_lt_one
    rw [Nat.one_mul] at bound
    exact bound
  exact (Nat.length_toDigits_le_iff (by decide) (List.length_pos_iff.mpr some)).mpr bound

theorem foldl_digits_ascii {digits : List Char} (all : ∀ c ∈ digits, c.isDigit = true)
    (total : Nat) :
    digits.foldl (fun total c => total * 10 + (digitValue? c).getD 0) total =
      Nat.ofDigitChars 10 digits total := by
  induction digits generalizing total with
  | nil => rfl
  | cons c digits ih =>
      obtain ⟨first, others⟩ := List.forall_mem_cons.mp all
      rw [List.foldl_cons, ih others, digitValue?_ascii first, Nat.mul_comm]
      rfl

theorem digitsValue_toDigits (number : Nat) : digitsValue (Nat.toDigits 10 number) = number := by
  have ascii : ∀ c ∈ Nat.toDigits 10 number, c.isDigit = true := fun c member =>
    Nat.isDigit_of_mem_toDigits (by decide) (by decide) member
  calc digitsValue (Nat.toDigits 10 number)
      = Nat.ofDigitChars 10 (Nat.toDigits 10 number) 0 := foldl_digits_ascii ascii 0
    _ = number := Nat.ofDigitChars_ten_toDigits

end ExScript.Text
