import Catalog.Proofs.Listing.Coherence
import Catalog.Proofs.Listing.Paging

namespace Catalog

namespace Filter

open Sql

variable {like : String → String → Bool} {f g : Filter} {field other : Field} {raw : String}
  {n : Int64}

def put (f : Filter) (field : Field) (raw : String) : Filter :=
  match field with
  | .search => { f with search := some raw }
  | .limit => { f with limit := some raw }
  | .offset => { f with offset := some raw }

theorem given_put : (f.put field raw).given other =
    if other = field then some raw else f.given other := by
  cases field <;> cases other <;> rfl

theorem given_without : (f.without field).given other =
    if other = field then none else f.given other := by
  cases field <;> cases other <;> rfl

theorem value_congr (h : f.given field = g.given field) : f.value field = g.value field := by
  cases field with
  | search => exact congrArg (Option.filter (· != "")) h
  | limit => exact congrArg (Option.filter fun s => !isNoCount s) h
  | offset => exact congrArg (Option.filter fun s => !isNoCount s) h

theorem value_put_of_ne (h : other ≠ field) : (f.put field raw).value other = f.value other := by
  apply value_congr
  rw [given_put, if_neg h]

theorem value_without_of_ne (h : other ≠ field) :
    (f.without field).value other = f.value other := by
  apply value_congr
  rw [given_without, if_neg h]

theorem value_without_self : (f.without field).value field = none := by
  rw [value_eq_none_iff, given_without, if_pos rfl]
  exact .inl rfl

theorem isNoCount_iff (h : count? raw = some n) : isNoCount raw = true ↔ raw = "0" := by
  rw [isNoCount, Bool.or_eq_true, beq_iff_eq, beq_iff_eq, or_iff_right]
  rintro rfl
  cases h

theorem value_put_self (hf : field ≠ .search) (h : count? raw = some n) :
    (f.put field raw).value field = if raw = "0" then none else some raw := by
  have hvalue : (f.put field raw).value field = (some raw).filter fun s => !isNoCount s := by
    cases field with
    | search => exact absurd rfl hf
    | limit => rfl
    | offset => rfl
  rw [hvalue, Option.filter_some]
  by_cases hzero : raw = "0"
  · rw [if_pos hzero, (isNoCount_iff h).2 hzero]
    rfl
  · rw [if_neg hzero, Bool.eq_false_iff.2 fun hnone => hzero ((isNoCount_iff h).1 hnone)]
    rfl

theorem countOf_congr (h : f.value field = g.value field) : f.countOf field = g.countOf field := by
  rw [countOf, countOf, h]

theorem countOf_put_self (hf : field ≠ .search) (h : count? raw = some n) :
    (f.put field raw).countOf field = if raw = "0" then none else some n := by
  rw [countOf, value_put_self hf h]
  split_ifs
  · rfl
  · rw [Option.bind_some, h]

theorem countOf_without_self : (f.without field).countOf field = none := by
  rw [countOf, value_without_self, Option.bind_none]

theorem selects_congr (h : f.value .search = g.value .search) : f.selects like = g.selects like := by
  funext e
  rw [selects, selects, h]

theorem refusal?_put (hf : field ≠ .search) (h : count? raw = some n) :
    (f.put field raw).refusal? = (f.without field).refusal? := by
  have hrejected (other : Field) : ((f.put field raw).value other).bind (rejected other) =
      ((f.without field).value other).bind (rejected other) := by
    by_cases hother : other = field
    · subst hother
      rw [value_put_self hf h, value_without_self]
      split_ifs
      · rfl
      · rw [Option.bind_some, rejected, if_neg hf, h]
        rfl
    · rw [value_put_of_ne hother, value_without_of_ne hother]
  simp only [refusal?, hrejected]

/-- How many entries a listing leaves out before its first one. -/
def skipped (f : Filter) : Nat := ((f.countOf .offset).map fun n => n.toInt.toNat).getD 0

theorem window_congr {α : Type} {limit offset offset' : Option Nat}
    (h : offset.getD 0 = offset'.getD 0) (xs : List α) :
    window limit offset xs = window limit offset' xs := by
  simp only [window, h]

theorem window_zero {α : Type} (offset : Option Nat) (xs : List α) :
    window (some 0) offset xs = [] := by
  rw [window, List.take_zero]

theorem listed_congr (hsearch : f.value .search = g.value .search)
    (hlimit : f.countOf .limit = g.countOf .limit) (hoffset : f.skipped = g.skipped)
    (es : List Entry) : f.listed like es = g.listed like es := by
  rw [listed, listed, selects_congr hsearch, hlimit]
  exact window_congr hoffset _

theorem count?_plain : count? "0" = some 0 := by
  decide +kernel

theorem eq_zero_of_count? (h : count? "0" = some n) : n = 0 := by
  rw [count?_plain] at h
  exact (Option.some.inj h).symm

theorem skipped_put (h : count? raw = some n) : (f.put .offset raw).skipped = n.toInt.toNat := by
  rw [skipped, countOf_put_self (by decide) h]
  split_ifs with hplain
  · subst hplain
    rw [eq_zero_of_count? h]
    rfl
  · rfl

end Filter

namespace Store

open Sql Catalog.Filter

variable {like : String → String → Bool} {s : Stamp} {t : Table} {f g : Filter} {field : Field}
  {raw raw' : String} {n : Int64}

/-- What comes of a listing in a store with a table. -/
def listedOn (b : Backend) (like : String → String → Bool) (s : Stamp) (t : Table) (f : Filter) :
    Except Failure (List Entry) × Table :=
  ((Command.storeFor b).listing f).on like s t

theorem listedOn_congr (b : Backend) (hf : field ≠ .search) (hrefusal : f.refusal? = g.refusal?)
    (hvalue : ∀ other ≠ field, f.value other = g.value other)
    (hlimit : field = .limit → f.countOf .limit = g.countOf .limit)
    (hoffset : field = .offset → f.skipped = g.skipped) :
    listedOn b like s t f = listedOn b like s t g := by
  have hlisted : f.listed like t.entries = g.listed like t.entries := by
    apply listed_congr (hvalue .search hf.symm)
    · by_cases hfield : .limit = field
      · exact hlimit hfield.symm
      · exact countOf_congr (hvalue .limit hfield)
    · by_cases hfield : .offset = field
      · exact hoffset hfield.symm
      · rw [skipped, skipped, countOf_congr (hvalue .offset hfield)]
  rw [listedOn, listedOn, on_listing, on_listing, hrefusal, hlisted]

theorem countOf_limit_put (h : count? raw = some n) (h' : count? raw' = some n)
    (hplain : n = 0 → (raw = "0" ↔ raw' = "0")) :
    (f.put .limit raw).countOf .limit = (f.put .limit raw').countOf .limit := by
  rw [countOf_put_self (by decide) h, countOf_put_self (by decide) h']
  by_cases hn : n = 0
  · simp only [hplain hn]
  · have hne : raw ≠ "0" := by
      rintro rfl
      exact hn (eq_zero_of_count? h)
    have hne' : raw' ≠ "0" := by
      rintro rfl
      exact hn (eq_zero_of_count? h')
    rw [if_neg hne, if_neg hne']

theorem listedOn_put (b : Backend) (hf : field ≠ .search) (h : count? raw = some n)
    (h' : count? raw' = some n) (hplain : field = .limit → n = 0 → (raw = "0" ↔ raw' = "0")) :
    listedOn b like s t (f.put field raw) = listedOn b like s t (f.put field raw') := by
  apply listedOn_congr b hf
  · rw [refusal?_put hf h, refusal?_put hf h']
  · intro other hother
    rw [value_put_of_ne hother, value_put_of_ne hother]
  · rintro rfl
    exact countOf_limit_put h h' (hplain rfl)
  · rintro rfl
    rw [skipped_put h, skipped_put h']

theorem listedOn_put_eq_without (b : Backend) (hf : field ≠ .search) (h : count? raw = some 0)
    (hplain : field = .limit → raw = "0") :
    listedOn b like s t (f.put field raw) = listedOn b like s t (f.without field) := by
  apply listedOn_congr b hf (refusal?_put hf h)
  · intro other hother
    rw [value_put_of_ne hother, value_without_of_ne hother]
  · rintro rfl
    rw [countOf_put_self hf h, if_pos (hplain rfl), countOf_without_self]
  · rintro rfl
    rw [skipped_put h, skipped, countOf_without_self]
    rfl

theorem listedOn_put_limit (b : Backend) (h : count? raw = some 0) (hne : raw ≠ "0") :
    listedOn b like s t (f.put .limit raw) = (okUnless (f.without .limit).refusal? [], t) := by
  have hnone : (f.put .limit raw).listed like t.entries = [] := by
    rw [listed, countOf_put_self (by decide) h, if_neg hne, Option.map_some, Int64.toInt_zero,
      Int.toNat_zero, window_zero]
  rw [listedOn, on_listing, refusal?_put (by decide) h, hnone]

/-- What a listing finds depends on the number of its offset and not on how that is spelled, and on
that of its limit likewise, but for a limit of zero: there only the plain `0` stands for no limit, and
with any other text nothing is found. -/
theorem listing_by_number (b : Backend) (like : String → String → Bool) (s : Stamp) (t : Table)
    (f : Filter) :
    (∀ field raw raw' n, field ≠ .search → parseCount field raw = .ok n →
      parseCount field raw' = .ok n → (field = .limit → n = 0 → (raw = "0" ↔ raw' = "0")) →
      listedOn b like s t (f.put field raw) = listedOn b like s t (f.put field raw')) ∧
    (∀ raw, parseCount .offset raw = .ok 0 →
      listedOn b like s t (f.put .offset raw) = listedOn b like s t (f.without .offset)) ∧
    listedOn b like s t (f.put .limit "0") = listedOn b like s t (f.without .limit) ∧
    ∀ raw, parseCount .limit raw = .ok 0 → raw ≠ "0" →
      listedOn b like s t (f.put .limit raw) = (okUnless (f.without .limit).refusal? [], t) := by
  simp only [parseCount_eq_ok_iff]
  refine ⟨?_, ?_, ?_, fun raw => listedOn_put_limit b⟩
  · intro field raw raw' n hf h h' hplain
    exact listedOn_put b hf h h' hplain
  · intro raw h
    apply listedOn_put_eq_without b (by decide) h
    rintro ⟨⟩
  · apply listedOn_put_eq_without b (by decide) count?_plain
    intro _
    rfl

/-- On the shelf there are entries to list, and `0` is no limit for them, but `00` is one of zero. -/
theorem limit_of_zero_by_spelling :
    parseCount .limit "0" = .ok 0 ∧ parseCount .limit "00" = .ok 0 ∧
      shelf.entries.filter Entry.isActive ≠ [] ∧
      ∀ b, listedOn b (fun _ _ => true) .first shelf { limit := some "0" } =
          (.ok (shelf.entries.filter Entry.isActive), shelf) ∧
        listedOn b (fun _ _ => true) .first shelf { limit := some "00" } = (.ok [], shelf) := by
  have hzeros : count? "00" = some 0 := by decide +kernel
  refine ⟨parseCount_eq_ok_iff.2 count?_plain, parseCount_eq_ok_iff.2 hzeros, by decide, fun b => ⟨?_, ?_⟩⟩
  · rw [listedOn, on_listing]
    rfl
  · have hput : ({ limit := some "00" } : Filter) = ({} : Filter).put .limit "00" := rfl
    rw [hput, listedOn_put_limit b hzeros (by decide)]
    rfl

end Store

end Catalog
