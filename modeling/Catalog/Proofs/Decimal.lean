import Catalog.Decimal
import Catalog.Proofs.Text.Letter
import Mathlib.Algebra.Group.Nat.Defs

namespace Catalog.Decimal

variable {c : Char} {cs : List Char} {n : Nat} {i : Int} {m : Int64}

theorem digit?_of_isDigit (h : c.isDigit = true) : digit? c = some (c.toNat - '0'.toNat) := by
  rw [digit?, if_pos h]
  rfl

theorem digit?_eq_none (h : c.isDigit = false) : digit? c = none := by
  rw [digit?, if_neg (Bool.eq_false_iff.1 h)]

theorem natFrom?_of_isDigit (h : ∀ c ∈ cs, c.isDigit = true) (acc : Nat) :
    natFrom? acc cs = some (Nat.ofDigitChars 10 cs acc) := by
  induction cs generalizing acc with
  | nil => rfl
  | cons c cs ih =>
    obtain ⟨hc, hcs⟩ := List.forall_mem_cons.1 h
    rw [natFrom?, digit?_of_isDigit hc, Option.bind_some, ih hcs, Nat.ofDigitChars_cons]

theorem isDigit_of_natFrom? {acc : Nat} (h : natFrom? acc cs = some n) :
    ∀ c ∈ cs, c.isDigit = true := by
  induction cs generalizing acc with
  | nil => exact List.forall_mem_nil _
  | cons c cs ih =>
    rw [natFrom?] at h
    obtain ⟨d, hd, hn⟩ := Option.bind_eq_some_iff.1 h
    refine List.forall_mem_cons.2 ⟨?_, ih hn⟩
    cases hc : c.isDigit with
    | true => rfl
    | false =>
      rw [digit?_eq_none hc] at hd
      cases hd

/-- A number is read from digits, of which there is at least one, and from nothing else. -/
theorem nat?_eq_some_iff : nat? cs = some n ↔
    cs ≠ [] ∧ (∀ c ∈ cs, c.isDigit = true) ∧ Nat.ofDigitChars 10 cs 0 = n := by
  cases cs with
  | nil => exact iff_of_false (Option.some_ne_none n).symm fun h => h.1 rfl
  | cons c cs =>
    rw [nat?]
    constructor
    · intro h
      have hdigits := isDigit_of_natFrom? h
      rw [natFrom?_of_isDigit hdigits] at h
      exact ⟨List.cons_ne_nil _ _, hdigits, Option.some.inj h⟩
    · rintro ⟨_, hdigits, rfl⟩
      exact natFrom?_of_isDigit hdigits 0

theorem lt_of_digit? {d : Nat} (h : digit? c = some d) : d < 10 := by
  rw [digit?] at h
  split at h
  · rename_i hc
    rw [Text.isDigit_iff] at hc
    cases h
    omega
  · cases h

theorem lt_of_natFrom? {acc : Nat} (h : natFrom? acc cs = some n) :
    n < (acc + 1) * 10 ^ cs.length := by
  induction cs generalizing acc with
  | nil =>
    cases h
    exact Nat.lt_of_lt_of_eq (Nat.lt_succ_self n) (Nat.mul_one _).symm
  | cons c cs ih =>
    rw [natFrom?] at h
    obtain ⟨d, hd, hn⟩ := Option.bind_eq_some_iff.1 h
    have hd := lt_of_digit? hd
    have hfirst : 10 * acc + d + 1 ≤ (acc + 1) * 10 := by omega
    calc n < (10 * acc + d + 1) * 10 ^ cs.length := ih hn
      _ ≤ (acc + 1) * 10 * 10 ^ cs.length := Nat.mul_le_mul_right _ hfirst
      _ = (acc + 1) * 10 ^ (c :: cs).length := by
        rw [List.length_cons, Nat.pow_succ', Nat.mul_assoc]

theorem lt_of_nat? (h : nat? cs = some n) : n < 10 ^ cs.length := by
  cases cs with
  | nil => cases h
  | cons c cs => exact Nat.lt_of_lt_of_eq (lt_of_natFrom? h) (by rw [Nat.zero_add, Nat.one_mul])

theorem isDigit_of_mem_toDigits (h : c ∈ Nat.toDigits 10 n) : c.isDigit = true :=
  Nat.isDigit_of_mem_toDigits (by decide) (by decide) h

@[simp] theorem nat?_toDigits (n : Nat) : nat? (Nat.toDigits 10 n) = some n :=
  nat?_eq_some_iff.2
    ⟨Nat.toDigits_ne_nil, fun _ => isDigit_of_mem_toDigits, Nat.ofDigitChars_ten_toDigits⟩

theorem eq_zero_of_toDigits_eq (h : Nat.toDigits 10 n = '0' :: cs) : n = 0 := by
  induction n using Nat.strongRecOn generalizing cs with
  | ind n ih =>
    by_cases hn : n < 10
    · rw [Nat.toDigits_of_lt_base hn, List.cons.injEq, Nat.digitChar_eq_zero] at h
      exact h.1
    · rw [Nat.toDigits_of_base_le (by decide) (Nat.le_of_not_lt hn)] at h
      obtain ⟨d, ds, hd⟩ := List.exists_cons_of_ne_nil (Nat.toDigits_ne_nil (n := n / 10) (b := 10))
      rw [hd, List.cons_append, List.cons.injEq] at h
      have hzero := ih (n / 10) (by omega) (h.1 ▸ hd)
      omega

theorem isDigit_of_mem_padded {width : Nat} (h : c ∈ padded width n) : c.isDigit = true := by
  rcases List.mem_append.1 h with hzero | hdigit
  · rw [List.eq_of_mem_replicate hzero]
    rfl
  · exact isDigit_of_mem_toDigits hdigit

theorem padded_ne_nil (width n : Nat) : padded width n ≠ [] := by
  intro h
  exact Nat.toDigits_ne_nil (List.append_eq_nil_iff.1 h).2

@[simp] theorem nat?_padded (width n : Nat) : nat? (padded width n) = some n := by
  refine nat?_eq_some_iff.2 ⟨padded_ne_nil width n, fun _ => isDigit_of_mem_padded, ?_⟩
  rw [padded, Nat.ofDigitChars_append, Nat.ofDigitChars_replicate_zero, Nat.mul_zero]
  exact Nat.ofDigitChars_ten_toDigits

theorem length_padded {width : Nat} (hw : 0 < width) (h : n < 10 ^ width) :
    (padded width n).length = width := by
  have hle := (Nat.length_toDigits_le_iff (by decide) hw).2 h
  simp only [padded, List.length_append, List.length_replicate]
  omega

theorem toList_toString (n : Nat) : (toString n).toList = Nat.toDigits 10 n := by
  rw [Nat.toString_eq_repr, Nat.toList_repr]

theorem unsigned?_of_isDigit (h : ∀ c ∈ cs, c.isDigit = true) : unsigned? cs = nat? cs := by
  cases cs with
  | nil => rfl
  | cons c cs =>
    have hc : c ≠ '+' := by
      rintro rfl
      cases h '+' List.mem_cons_self
    rw [unsigned?]
    rintro _ ⟨rfl, _⟩
    exact hc rfl

theorem signed?_of_isDigit (h : ∀ c ∈ cs, c.isDigit = true) :
    signed? cs = (nat? cs).map fun n => (n : Int) := by
  rw [← unsigned?_of_isDigit h]
  cases cs with
  | nil => rfl
  | cons c cs =>
    have hc : c ≠ '-' := by
      rintro rfl
      cases h '-' List.mem_cons_self
    rw [signed?]
    rintro _ ⟨rfl, _⟩
    exact hc rfl

theorem signed?_toDigits (n : Nat) : signed? (Nat.toDigits 10 n) = some (n : Int) := by
  rw [signed?_of_isDigit fun _ => isDigit_of_mem_toDigits, nat?_toDigits]
  rfl

theorem toList_toString_negSucc (n : Nat) :
    (toString (Int.negSucc n)).toList = '-' :: Nat.toDigits 10 (n + 1) := by
  change ("-" ++ toString (n + 1)).toList = _
  rw [String.toList_append, toList_toString]
  rfl

theorem signed?_toString (n : Int) : signed? (toString n).toList = some n := by
  cases n with
  | ofNat n =>
    change signed? (toString n).toList = some (n : Int)
    rw [toList_toString, signed?_toDigits]
  | negSucc n =>
    rw [toList_toString_negSucc, signed?, nat?_toDigits]
    rfl

theorem unsigned?_eq_some_iff : unsigned? cs = some n ↔
    ∃ sign digits, cs = sign ++ digits ∧ (sign = [] ∨ sign = ['+']) ∧ nat? digits = some n := by
  constructor
  · intro h
    rw [unsigned?.eq_def] at h
    split at h
    · exact ⟨['+'], _, rfl, .inr rfl, h⟩
    · exact ⟨[], cs, rfl, .inl rfl, h⟩
  · rintro ⟨sign, digits, rfl, rfl | rfl, h⟩
    · rw [List.nil_append, unsigned?_of_isDigit (nat?_eq_some_iff.1 h).2.1, h]
    · exact h

theorem signed?_eq_some_iff : signed? cs = some i ↔
    ∃ sign digits n, cs = sign ++ digits ∧ nat? digits = some n ∧
      ((sign = [] ∨ sign = ['+']) ∧ i = n ∨ sign = ['-'] ∧ i = -n) := by
  constructor
  · intro h
    rw [signed?.eq_def] at h
    split at h
    · rename_i digits
      cases hn : nat? digits with
      | none =>
        rw [hn] at h
        cases h
      | some n =>
        rw [hn] at h
        cases h
        exact ⟨['-'], digits, n, rfl, hn, .inr ⟨rfl, rfl⟩⟩
    · cases hn : unsigned? cs with
      | none =>
        rw [hn] at h
        cases h
      | some n =>
        rw [hn] at h
        cases h
        obtain ⟨sign, digits, hcs, hsign, hdigits⟩ := unsigned?_eq_some_iff.1 hn
        exact ⟨sign, digits, n, hcs, hdigits, .inl ⟨hsign, rfl⟩⟩
  · rintro ⟨sign, digits, n, rfl, hn, ⟨rfl | rfl, rfl⟩ | ⟨rfl, rfl⟩⟩
    · rw [List.nil_append, signed?_of_isDigit (nat?_eq_some_iff.1 hn).2.1, hn]
      rfl
    · have hplus : unsigned? ('+' :: digits) = some n := hn
      rw [List.singleton_append, signed?, hplus]
      · rfl
      · rintro _ ⟨h, _⟩
    · rw [List.singleton_append, signed?, hn]
      rfl

theorem toInt64?_toInt (n : Int64) : toInt64? n.toInt = some n := by
  have hmin := n.minValue_le_toInt
  have hmax := n.toInt_lt
  rw [toInt64?, if_pos ⟨hmin, hmax⟩, Int64.ofInt_toInt]

theorem toInt64?_eq_some_iff : toInt64? i = some m ↔ m.toInt = i := by
  constructor
  · intro h
    rw [toInt64?] at h
    split at h
    · rename_i hi
      cases h
      exact Int64.toInt_ofInt_of_le hi.1 hi.2
    · cases h
  · rintro rfl
    exact toInt64?_toInt m

theorem int64?_eq_some_iff {s : String} :
    int64? s = some m ↔ signed? s.toList = some m.toInt := by
  rw [int64?, Option.bind_eq_some_iff]
  simp only [toInt64?_eq_some_iff]
  constructor
  · rintro ⟨i, hi, hm⟩
    rw [hm, hi]
  · intro h
    exact ⟨m.toInt, h, rfl⟩

theorem toUInt64?_eq_some_iff {m : UInt64} : toUInt64? n = some m ↔ m.toNat = n := by
  constructor
  · intro h
    rw [toUInt64?] at h
    split at h
    · rename_i hn
      cases h
      exact UInt64.toNat_ofNat_of_lt' hn
    · cases h
  · rintro rfl
    rw [toUInt64?, if_pos m.toNat_lt, UInt64.ofNat_toNat]

/-- Whether a text is that of a number below `2 ^ 64`: digits, with a plus before them or none. -/
def WritesWord (raw : String) (n : Nat) : Prop :=
  n < 2 ^ 64 ∧ ∃ sign digits, raw.toList = sign ++ digits ∧ (sign = [] ∨ sign = ['+']) ∧
    digits ≠ [] ∧ (∀ c ∈ digits, c.isDigit = true) ∧ Nat.ofDigitChars 10 digits 0 = n

theorem uint64?_eq_some_iff {raw : String} {m : UInt64} :
    uint64? raw = some m ↔ WritesWord raw m.toNat := by
  rw [uint64?, Option.bind_eq_some_iff]
  simp only [toUInt64?_eq_some_iff, exists_eq_right', unsigned?_eq_some_iff, nat?_eq_some_iff]
  rw [WritesWord, and_iff_right m.toNat_lt]

theorem writesWord_iff {raw : String} : WritesWord raw n ↔ ∃ m, uint64? raw = some m ∧ m.toNat = n := by
  simp only [uint64?_eq_some_iff]
  constructor
  · intro h
    refine ⟨.ofNat n, ?_, UInt64.toNat_ofNat_of_lt' h.1⟩
    rwa [UInt64.toNat_ofNat_of_lt' h.1]
  · rintro ⟨m, h, rfl⟩
    exact h

@[simp] theorem int64?_ofInt64 (n : Int64) : int64? (ofInt64 n) = some n :=
  int64?_eq_some_iff.2 (signed?_toString n.toInt)

end Catalog.Decimal
