namespace Catalog.Text

variable {c d : Char}

theorem isAlpha_iff : c.isAlpha = true ↔
    65 ≤ c.toNat ∧ c.toNat ≤ 90 ∨ 97 ≤ c.toNat ∧ c.toNat ≤ 122 := by
  delta Char.isAlpha Char.isUpper Char.isLower
  simp only [Bool.or_eq_true, Bool.and_eq_true, decide_eq_true_eq, ge_iff_le,
    UInt32.le_iff_toNat_le]
  exact Iff.rfl

theorem isDigit_iff : c.isDigit = true ↔ 48 ≤ c.toNat ∧ c.toNat ≤ 57 := by
  delta Char.isDigit
  simp only [Bool.and_eq_true, decide_eq_true_eq, ge_iff_le, UInt32.le_iff_toNat_le]
  exact Iff.rfl

theorem toLower_eq_self (h : ¬(65 ≤ c.toNat ∧ c.toNat ≤ 90)) : c.toLower = c := by
  apply dif_neg
  simp only [ge_iff_le, UInt32.le_iff_toNat_le]
  exact h

theorem toNat_toLower (h : 65 ≤ c.toNat ∧ c.toNat ≤ 90) : c.toLower.toNat = c.toNat + 32 := by
  have hcapital : c.val ≥ 'A'.val ∧ c.val ≤ 'Z'.val := by
    simp only [ge_iff_le, UInt32.le_iff_toNat_le]
    exact h
  have hval : c.toLower.val = c.val + ('a'.val - 'A'.val) := by
    delta Char.toLower
    rw [dif_pos hcapital]
  have hshift : ('a'.val - 'A'.val).toNat = 32 := rfl
  rw [← Char.toNat_val, hval, UInt32.toNat_add, hshift, Char.toNat_val]
  omega

theorem toUpper_eq_self (h : ¬(97 ≤ c.toNat ∧ c.toNat ≤ 122)) : c.toUpper = c := by
  apply dif_neg
  simp only [UInt32.le_iff_toNat_le]
  exact h

theorem toNat_toUpper (h : 97 ≤ c.toNat ∧ c.toNat ≤ 122) : c.toUpper.toNat = c.toNat - 32 := by
  have hsmall : 'a'.val ≤ c.val ∧ c.val ≤ 'z'.val := by
    simp only [UInt32.le_iff_toNat_le]
    exact h
  have hval : c.toUpper.val = c.val + ('A'.val - 'a'.val) := by
    delta Char.toUpper
    rw [dif_pos hsmall]
  have hshift : ('A'.val - 'a'.val).toNat = 2 ^ 32 - 32 := rfl
  rw [← Char.toNat_val, hval, UInt32.toNat_add, hshift, Char.toNat_val]
  omega

theorem toLower_toUpper (c : Char) : c.toUpper.toLower = c.toLower := by
  by_cases h : 97 ≤ c.toNat ∧ c.toNat ≤ 122
  · have hupper := toNat_toUpper h
    have hlower : c.toLower = c := toLower_eq_self (by omega)
    rw [hlower, ← Char.toNat_inj, toNat_toLower (by omega)]
    omega
  · rw [toUpper_eq_self h]

theorem toLower_eq_iff (h : 97 ≤ d.toNat ∧ d.toNat ≤ 122) :
    c.toLower = d ↔ c = d ∨ c.toNat + 32 = d.toNat := by
  by_cases hc : 65 ≤ c.toNat ∧ c.toNat ≤ 90
  · have hne : c ≠ d := by
      rintro rfl
      omega
    rw [← Char.toNat_inj, toNat_toLower hc, or_iff_right hne]
  · rw [toLower_eq_self hc, iff_self_or]
    omega

end Catalog.Text
