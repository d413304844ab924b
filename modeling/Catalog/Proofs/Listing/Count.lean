import Catalog.Listing.Count
import Catalog.Proofs.Decimal
import Catalog.Proofs.Text.Blank
import Catalog.Proofs.Text.Quoted

namespace Catalog.Filter

variable {field : Field} {raw : String} {n : Nat} {m : Int64} {failure : Failure}

/-- Whether a text is, but for blanks around it, that of a number of rows: digits, with a plus before
them or none, or zeros with a minus. -/
def Denotes (raw : String) (n : Nat) : Prop :=
  n < 2 ^ 63 ∧ ∃ sign digits, (Text.trim raw).toList = sign ++ digits ∧
    (sign = [] ∨ sign = ['+'] ∨ sign = ['-'] ∧ n = 0) ∧
    digits ≠ [] ∧ (∀ c ∈ digits, c.isDigit = true) ∧ Nat.ofDigitChars 10 digits 0 = n

theorem count?_eq_some_iff : count? raw = some m ↔ ∃ n : Nat, m.toInt = n ∧ Denotes raw n := by
  rw [count?, Option.filter_eq_some_iff, Decimal.int64?_eq_some_iff, Decimal.signed?_eq_some_iff,
    decide_eq_true_eq, Int64.le_iff_toInt_le, Int64.toInt_zero]
  have hmax := m.toInt_lt
  constructor
  · rintro ⟨⟨sign, digits, n, hraw, hn, hsign⟩, hm⟩
    have hdigits := Decimal.nat?_eq_some_iff.1 hn
    rcases hsign with ⟨hsign, hmn⟩ | ⟨hsign, hmn⟩
    · refine ⟨n, hmn, by omega, sign, digits, hraw, ?_, hdigits⟩
      exact hsign.elim .inl fun h => .inr (.inl h)
    · refine ⟨n, by omega, by omega, sign, digits, hraw, ?_, hdigits⟩
      exact .inr (.inr ⟨hsign, by omega⟩)
  · rintro ⟨n, hmn, _, sign, digits, hraw, hsign, hdigits⟩
    refine ⟨⟨sign, digits, n, hraw, Decimal.nat?_eq_some_iff.2 hdigits, ?_⟩, by omega⟩
    rcases hsign with h | h | ⟨h, hzero⟩
    · exact .inl ⟨.inl h, hmn⟩
    · exact .inl ⟨.inr h, hmn⟩
    · exact .inr ⟨h, by omega⟩

theorem count?_of_denotes (h : Denotes raw n) : count? raw = some (Int64.ofNat n) :=
  count?_eq_some_iff.2 ⟨n, Int64.toInt_ofNat_of_lt h.1, h⟩

theorem count?_eq_none_iff : count? raw = none ↔ ∀ n, ¬Denotes raw n := by
  rw [Option.eq_none_iff_forall_ne_some]
  constructor
  · intro h n hn
    exact h _ (count?_of_denotes hn)
  · intro h m hm
    obtain ⟨n, _, hn⟩ := count?_eq_some_iff.1 hm
    exact h n hn

theorem denotes_toString (h : n < 2 ^ 63) : Denotes (toString n) n := by
  have hdigits := Decimal.nat?_eq_some_iff.1 (Decimal.nat?_toDigits n)
  have htrim : Text.trim (toString n) = toString n := by
    apply Text.trim_eq_self
    intro c hc
    rw [Decimal.toList_toString] at hc
    exact Text.isBlank_of_isDigit (hdigits.2.1 c hc)
  refine ⟨h, [], Nat.toDigits 10 n, ?_, .inl rfl, hdigits⟩
  rw [htrim, Decimal.toList_toString, List.nil_append]

theorem parseCount_eq_ok_iff : parseCount field raw = .ok m ↔ count? raw = some m := by
  rw [parseCount]
  cases count? raw with
  | some n =>
    rw [Except.ok.injEq, Option.some.injEq]
  | none => exact iff_of_false (fun h => nomatch h) (Option.some_ne_none m).symm

theorem parseCount_eq_error_iff :
    parseCount field raw = .error failure ↔ count? raw = none ∧ failure = invalidCount field raw := by
  rw [parseCount]
  cases count? raw with
  | some n => exact iff_of_false (fun h => nomatch h) fun h => Option.some_ne_none n h.1
  | none => rw [Except.error.injEq, and_iff_right rfl, eq_comm]

/-- A count is read from a text that denotes one, however long it is, and as the number that it
denotes. Any other text is refused in words that name the field, and quoted so that it can be read
back. -/
theorem parseCount_exact (field : Field) (raw : String) :
    (∀ m, parseCount field raw = .ok m ↔ ∃ n : Nat, m.toInt = n ∧ Denotes raw n) ∧
    (∀ failure, parseCount field raw = .error failure ↔
      (∀ n, ¬Denotes raw n) ∧ failure = .badRequest
        (field.name ++ " must be a non-negative integer, got " ++ Text.quoted raw)) ∧
    Text.unquoted? (Text.quoted raw) = some raw ∧
    (∀ t, Text.IsTrimmed raw t ↔ t = Text.trim raw) ∧
    ∀ n < 2 ^ 63, parseCount field (toString n) = .ok (Int64.ofNat n) ∧
      (Int64.ofNat n).toInt = n := by
  refine ⟨?_, ?_, Text.unquoted?_quoted raw, fun _ => Text.isTrimmed_iff, ?_⟩
  · intro m
    rw [parseCount_eq_ok_iff, count?_eq_some_iff]
  · intro failure
    rw [parseCount_eq_error_iff, count?_eq_none_iff]
    rfl
  · intro n hn
    refine ⟨?_, Int64.toInt_ofNat_of_lt hn⟩
    rw [parseCount_eq_ok_iff, count?_of_denotes (denotes_toString hn)]

end Catalog.Filter
