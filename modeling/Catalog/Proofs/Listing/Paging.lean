import Catalog.Proofs.Listing.Count
import Catalog.Proofs.Store.Statement

namespace Catalog

namespace Filter

variable {like : String → String → Bool} {search : Option String} {size i n : Nat}

/-- A page of a listing, counted from zero. -/
def page (search : Option String) (size i : Nat) : Filter where
  search := search
  limit := some (toString size)
  offset := some (toString (i * size))

theorem toString_ne_empty (n : Nat) : toString n ≠ "" := by
  intro h
  have hdigits := Decimal.toList_toString n
  rw [h] at hdigits
  exact Nat.toDigits_ne_nil hdigits.symm

theorem toString_eq_zero_iff : toString n = "0" ↔ n = 0 := by
  constructor
  · intro h
    have hdigits := Decimal.toList_toString n
    rw [h] at hdigits
    exact Decimal.eq_zero_of_toDigits_eq hdigits.symm
  · rintro rfl
    rfl

theorem isNoCount_toString (n : Nat) : isNoCount (toString n) = decide (n = 0) := by
  have hempty : (toString n == "") = false := beq_eq_false_iff_ne.2 (toString_ne_empty n)
  rw [isNoCount, hempty, Bool.false_or, Bool.eq_iff_iff, beq_iff_eq, decide_eq_true_eq]
  exact toString_eq_zero_iff

theorem filter_toString (n : Nat) : ((some (toString n)).filter fun s => !isNoCount s) =
    if n = 0 then none else some (toString n) := by
  rw [Option.filter_some, isNoCount_toString]
  by_cases h : n = 0
  · rw [if_pos h, decide_eq_true h]
    rfl
  · rw [if_neg h, decide_eq_false h]
    rfl

theorem toNat_ofNat (h : n < 2 ^ 63) : (Int64.ofNat n).toInt.toNat = n := by
  rw [Int64.toInt_ofNat_of_lt h, Int.toNat_natCast]

theorem value_limit_page (h : 0 < size) :
    (page search size i).value .limit = some (toString size) := by
  rw [value, page]
  exact (filter_toString size).trans (if_neg (Nat.ne_of_gt h))

theorem value_offset_page :
    (page search size i).value .offset =
      if i * size = 0 then none else some (toString (i * size)) :=
  filter_toString (i * size)

theorem count?_toString (h : n < 2 ^ 63) : count? (toString n) = some (Int64.ofNat n) :=
  count?_of_denotes (denotes_toString h)

theorem refusal?_page (hpos : 0 < size) (hsize : size < 2 ^ 63) (hi : i * size < 2 ^ 63) :
    (page search size i).refusal? = none := by
  have hlimit : ((page search size i).value .limit).bind (rejected .limit) = none := by
    rw [value_limit_page hpos, Option.bind_some, rejected, if_neg (by decide),
      count?_toString hsize]
  have hoffset : ((page search size i).value .offset).bind (rejected .offset) = none := by
    rw [value_offset_page]
    split
    · rfl
    · rw [Option.bind_some, rejected, if_neg (by decide), count?_toString hi]
  rw [refusal?, List.findSome?_eq_none_iff]
  intro field hfield
  simp only [List.mem_cons, List.not_mem_nil, or_false] at hfield
  obtain rfl | rfl := hfield
  · exact hlimit
  · exact hoffset

theorem listed_page (hpos : 0 < size) (hsize : size < 2 ^ 63) (hi : i * size < 2 ^ 63)
    (es : List Entry) :
    (page search size i).listed like es =
      ((listed like { search } es).drop (i * size)).take size := by
  have hlimit : ((page search size i).countOf .limit).map (fun n => n.toInt.toNat) = some size := by
    rw [countOf, value_limit_page hpos, Option.bind_some, count?_toString hsize, Option.map_some,
      toNat_ofNat hsize]
  have hoffset : (((page search size i).countOf .offset).map fun n => n.toInt.toNat).getD 0 =
      i * size := by
    rw [countOf, value_offset_page]
    split
    · rename_i h
      exact h.symm
    · rw [Option.bind_some, count?_toString hi, Option.map_some, toNat_ofNat hi, Option.getD_some]
  rw [listed, hlimit, Sql.window, hoffset]
  rfl

end Filter

namespace Store

open Sql

variable {like : String → String → Bool} {s : Stamp} {t : Table} {search : Option String}
  {size i k : Nat}

def Behaviour.listing (store : Behaviour) (f : Filter) : Conversation (List Entry) :=
  store (.list f)

def Behaviour.pages (store : Behaviour) (search : Option String) (size : Nat) :
    Nat → Conversation (List Entry)
  | 0 => return []
  | k + 1 => do
    let es ← store.pages search size k
    let page ← store.listing (.page search size k)
    return es ++ page

theorem on_listing (b : Backend) (f : Filter) :
    ((Command.storeFor b).listing f).on like s t =
      (okUnless f.refusal? (f.listed like t.entries), t) :=
  on_storeFor b s (.list f)

theorem on_page (b : Backend) (hpos : 0 < size) (hsize : size < 2 ^ 63) (hi : i * size < 2 ^ 63) :
    ((Command.storeFor b).listing (.page search size i)).on like s t =
      (.ok (((Filter.listed like { search } t.entries).drop (i * size)).take size), t) := by
  rw [on_listing, Filter.refusal?_page hpos hsize hi, Filter.listed_page hpos hsize hi]
  rfl

theorem on_pages (b : Backend) (hpos : 0 < size) (hsize : size < 2 ^ 63)
    (hk : (k - 1) * size < 2 ^ 63) :
    ((Command.storeFor b).pages search size k).on like s t =
      (.ok ((Filter.listed like { search } t.entries).take (k * size)), t) := by
  induction k with
  | zero =>
    rw [Nat.zero_mul, List.take_zero]
    rfl
  | succ k ih =>
    rw [Nat.add_sub_cancel] at hk
    -- the pages before begin no later than this one, so their beginnings are counts as well
    have hbefore : (k - 1) * size < 2 ^ 63 :=
      Nat.lt_of_le_of_lt (Nat.mul_le_mul_right size (Nat.sub_le k 1)) hk
    rw [Behaviour.pages, on_bind, ih hbefore]
    dsimp only
    rw [on_bind, on_page b hpos hsize hk, Nat.succ_mul, List.take_add]
    rfl

theorem nodup_listed (f : Filter) : (f.listed like t.entries).Nodup := by
  have hall : t.entries.Nodup := t.nodup.of_map _
  have hselected := hall.filter (f.selects like)
  rw [Filter.listed, window.eq_def]
  split
  · exact hselected.drop.take
  · exact hselected.drop

/-- The pages of a listing, of one size and put together in their order, are the beginning of the
whole listing, in which no entry comes twice. -/
theorem pages_cover (b : Backend) (hpos : 0 < size) (hsize : size < 2 ^ 63)
    (hk : (k - 1) * size < 2 ^ 63) (like : String → String → Bool) (s : Stamp)
    (search : Option String) (t : Table) :
    let all := Filter.listed like { search } t.entries
    all.Nodup ∧
      ((Command.storeFor b).listing { search }).on like s t = (.ok all, t) ∧
      ((Command.storeFor b).pages search size k).on like s t = (.ok (all.take (k * size)), t) := by
  intro all
  refine ⟨nodup_listed _, ?_, on_pages b hpos hsize hk⟩
  rw [on_listing]
  rfl

/-- Three entries, the second of them deleted. -/
def shelf : Table where
  entries :=
    let entry (id : Int64) (code : String) := Draft.entry ⟨code, code⟩ { Stamp.first with id } "clerk"
    [entry 1 "A", (entry 2 "B").deleted Stamp.first.time "clerk", entry 3 "C"]
  nodup := by decide

theorem pages_cover_shelf :
    0 < 1 ∧ 1 < 2 ^ 63 ∧ (2 - 1) * 1 < 2 ^ 63 ∧
      let all := Filter.listed (fun _ _ => true) {} shelf.entries
      all.Nodup ∧
        ((Command.storeFor .orm).listing {}).on (fun _ _ => true) .first shelf = (.ok all, shelf) ∧
        ((Command.storeFor .orm).pages none 1 2).on (fun _ _ => true) .first shelf =
          (.ok (all.take (2 * 1)), shelf) :=
  ⟨by decide, by decide, by decide,
    pages_cover .orm (by decide) (by decide) (by decide) (fun _ _ => true) .first none shelf⟩

end Store

end Catalog
