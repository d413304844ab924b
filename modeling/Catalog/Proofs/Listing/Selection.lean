import Catalog.Proofs.Listing.Basic
import Catalog.Proofs.Listing.Position
import Catalog.Proofs.Table.Execution
import Catalog.Store.Mapped
import Catalog.Store.Written

namespace Catalog.Filter

open Sql Store

variable {like : String → String → Bool} {s : Stamp} {t : Table} {f : Filter} {field : Field}
  {raw : String} {n : Int64}

theorem nonneg_of_count? (h : count? raw = some n) : 0 ≤ n := by
  rw [count?, Option.filter_eq_some_iff] at h
  exact of_decide_eq_true h.2

theorem nonneg_of_countOf (h : f.countOf field = some n) : 0 ≤ n := by
  obtain ⟨raw, _, hr⟩ := Option.bind_eq_some_iff.1 h
  exact nonneg_of_count? hr

theorem parseCount_eq (hf : field ≠ .search) :
    parseCount field raw = okUnless (rejected field raw) ((count? raw).getD 0) := by
  rw [parseCount, rejected, if_neg hf]
  cases count? raw <;> rfl

theorem mapM_parseCount (hf : field ≠ .search) :
    (f.value field).mapM (parseCount field) =
      okUnless ((f.value field).bind (rejected field)) (f.countOf field) := by
  rw [countOf]
  cases f.value field with
  | none => rfl
  | some raw =>
    change some <$> parseCount field raw = _
    rw [parseCount, Option.bind_some, Option.bind_some, rejected, if_neg hf]
    cases count? raw <;> rfl

/-- The selection of the entries that a filter is about, with its search text in a pattern and its
counts as numbers of some kind. -/
def selection (f : Filter) (pattern : String → Pattern Value) (number : Int64 → Value) :
    Select Value where
  conditions := .isNull .deletedAt :: ((f.value .search).map fun search =>
    .anyLike [(.code, pattern search), (.text, pattern search)]).toList
  limit := (f.countOf .limit).map number
  offset := (f.countOf .offset).map number

theorem bound_countOf {number : Int64 → Value}
    (hn : ∀ n, 0 ≤ n → (number n).datum s = .integer (some n.toInt)) (field : Field) :
    bound s ((f.countOf field).map number) =
      .ok ((f.countOf field).map fun n => n.toInt.toNat) := by
  cases h : f.countOf field with
  | none => rfl
  | some n =>
    have h0 := nonneg_of_countOf h
    have hd := hn n h0
    rw [Int64.le_iff_toInt_le, Int64.toInt_zero] at h0
    simp only [Option.map_some, bound, hd, Datum.count?, if_pos h0]

theorem meetsAll_selection {pattern : String → Pattern Value} {number : Int64 → Value}
    (hp : ∀ search, (pattern search).text? s = some ("%" ++ search ++ "%")) :
    meetsAll like s (f.selection pattern number).conditions = f.selects like := by
  funext e
  rw [selection, meetsAll_cons, meets_active, selects]
  cases f.value .search with
  | none => rfl
  | some search =>
    simp only [Option.map_some, Option.toList_some, meetsAll_cons, meetsAll_nil, Condition.meets,
      List.any_cons, List.any_nil, matchesOne, hp, Option.all_some, Bool.and_true, Bool.or_false]
    rfl

theorem execute_selection {pattern : String → Pattern Value} {number : Int64 → Value}
    (hp : ∀ search, (pattern search).text? s = some ("%" ++ search ++ "%"))
    (hn : ∀ n, 0 ≤ n → (number n).datum s = .integer (some n.toInt)) :
    (Statement.select (f.selection pattern number)).execute like s t =
      .ok (f.listed like t.entries, t) := by
  rw [Statement.execute, meetsAll_selection hp, selection]
  simp only [bound_countOf hn]
  rfl

def boundValue : Field → String → Value
  | .search, raw => .ofText raw
  | .limit, raw | .offset, raw => .ofInt ((count? raw).getD 0)

theorem mapM_okUnless {α β ε : Type} (fails : α → Option ε) (v : α → β) (xs : List α) :
    xs.mapM (fun x => okUnless (fails x) (v x)) = okUnless (xs.findSome? fails) (xs.map v) := by
  induction xs with
  | nil => rfl
  | cons x xs ih =>
    rw [List.mapM_cons, List.findSome?_cons, ih]
    cases fails x with
    | some e => rfl
    | none => cases xs.findSome? fails <;> rfl

theorem bindOne_eq (field : Field) (raw : String) :
    bindOne field raw = okUnless (rejected field raw) (boundValue field raw) := by
  cases field with
  | search => rfl
  | limit =>
    rw [bindOne, parseCount_eq (by decide)]
    cases rejected .limit raw <;> rfl
  | offset =>
    rw [bindOne, parseCount_eq (by decide)]
    cases rejected .offset raw <;> rfl

theorem findSome?_present (f : Filter) :
    f.present.findSome? (fun p => rejected p.1 p.2) = f.refusal? := by
  have hsome (field : Field) : ((f.value field).map fun raw => (field, raw)).bind
      (fun p => rejected p.1 p.2) = (f.value field).bind (rejected field) := by
    rw [Option.bind_map]
    rfl
  have hsearch : (f.value .search).bind (rejected .search) = none :=
    Option.bind_fun_none (f.value .search)
  rw [← List.head?_filterMap, present, List.filterMap_filterMap, List.head?_filterMap]
  simp only [hsome, Field.all, List.findSome?_cons, hsearch, refusal?]

theorem bindValues_arguments (f : Filter) :
    f.bindValues f.arguments =
      okUnless f.refusal? (f.present.map fun p => boundValue p.1 p.2) := by
  have hzip : (f.present.map Prod.fst).zip (f.present.map Prod.snd) = f.present :=
    (List.zip_of_prod rfl rfl).symm
  rw [bindValues, arguments, List.length_map, List.length_map, if_pos rfl, hzip]
  simp only [bindOne_eq]
  rw [mapM_okUnless, findSome?_present]

theorem position?_of_value (h : f.value field = some raw) :
    f.position? field = some (f.position field) := by
  have hp : f.position field ≠ 0 := by
    rw [ne_eq, position_eq_zero_iff, h]
    exact Option.some_ne_none raw
  rw [position?, if_neg hp]

theorem mapM_position? {α : Type} (k : Field × String → α) :
    (f.position? field).mapM (valueAt (f.present.map k)) =
      some ((f.value field).map fun raw => k (field, raw)) := by
  cases h : f.value field with
  | none =>
    rw [position?, if_pos (position_eq_zero_iff.2 h)]
    rfl
  | some raw =>
    rw [position?_of_value h]
    change some <$> valueAt _ _ = _
    rw [valueAt_position h]
    rfl

theorem map_boundValue (hf : field ≠ .search) (h : (f.value field).bind (rejected field) = none) :
    ((f.value field).map fun raw => boundValue field raw) = (f.countOf field).map .ofInt := by
  rw [countOf]
  cases hv : f.value field with
  | none => rfl
  | some raw =>
    rw [hv, Option.bind_some, rejected, if_neg hf] at h
    rw [Option.map_some, Option.bind_some]
    cases hc : count? raw with
    | none =>
      rw [hc] at h
      cases h
    | some n =>
      cases field with
      | search => exact absurd rfl hf
      | limit => rw [boundValue, hc]; rfl
      | offset => rw [boundValue, hc]; rfl

theorem traverse_query (h : f.refusal? = none) :
    f.query.traverse (valueAt (f.present.map fun p => boundValue p.1 p.2)) =
      some (f.selection (fun search => .around (.ofText search)) .ofInt) := by
  simp only [refusal?, List.findSome?_eq_none_iff, List.forall_mem_cons] at h
  obtain ⟨hl, ho, _⟩ := h
  have hlimit : f.query.limit.mapM (valueAt (f.present.map fun p => boundValue p.1 p.2)) =
      some ((f.countOf .limit).map .ofInt) := by
    rw [← map_boundValue (by decide) hl]
    exact mapM_position? fun p => boundValue p.1 p.2
  have hoffset : f.query.offset.mapM (valueAt (f.present.map fun p => boundValue p.1 p.2)) =
      some ((f.countOf .offset).map .ofInt) := by
    rw [← map_boundValue (by decide) ho]
    exact mapM_position? fun p => boundValue p.1 p.2
  have hsearch : f.query.conditions.mapM (Condition.traverse
      (valueAt (f.present.map fun p => boundValue p.1 p.2))) =
      some (f.selection (fun search => .around (.ofText search)) .ofInt).conditions := by
    rw [query, selection]
    cases h : f.value .search with
    | none =>
      rw [position?, if_pos (position_eq_zero_iff.2 h)]
      rfl
    | some search =>
      have hv := valueAt_position h fun p => boundValue p.1 p.2
      rw [position?_of_value h]
      simp only [Option.map_some, Option.toList_some, List.mapM_cons, List.mapM_nil,
        Condition.traverse, Pattern.traverse, hv]
      rfl
  rw [Select.traverse, hsearch, hlimit, hoffset]
  rfl

end Catalog.Filter

namespace Catalog.Store

open Sql Catalog.Filter

variable {like : String → String → Bool} {s : Stamp} {t : Table}

/-- What the first store selects, with the pattern made up before it is sent. -/
def Mapped.selection (f : Filter) : Select Value :=
  f.selection (fun search => .exactly (.ofText ("%" ++ search ++ "%")))
    fun n => .biguint (some n.toUInt64)

/-- What the second store selects, where the pattern is made up in the statement. -/
def Written.selection (f : Filter) : Select Value :=
  f.selection (fun search => .around (.ofText search)) .ofInt

theorem Mapped.listing_eq (f : Filter) : listing f = okUnless f.refusal? (selection f) := by
  rw [listing, mapM_parseCount (by decide), mapM_parseCount (by decide)]
  simp only [refusal?, List.findSome?_cons]
  cases (f.value .limit).bind (rejected .limit) with
  | some failure => rfl
  | none => cases (f.value .offset).bind (rejected .offset) <;> rfl

theorem Written.bound?_listing {f : Filter} (h : f.refusal? = none) :
    (request (.select f.query) (f.present.map fun p => boundValue p.1 p.2) true).bound? =
      some (.select (selection f)) := by
  rw [Request.bound?, request, Statement.traverse, traverse_query h]
  rfl

theorem toNat_toUInt64 {n : Int64} (h : 0 ≤ n) : (n.toUInt64.toNat : Int) = n.toInt := by
  rw [Int64.toNat_toUInt64_of_le h]
  rw [Int64.le_iff_toInt_le, Int64.toInt_zero] at h
  exact Int.toNat_of_nonneg h

theorem Mapped.execute_listing (f : Filter) :
    (Statement.select (selection f)).execute like s t = .ok (f.listed like t.entries, t) := by
  apply execute_selection (fun _ => rfl)
  intro n hn
  rw [← toNat_toUInt64 hn]
  rfl

theorem Written.execute_listing (f : Filter) :
    (Statement.select (selection f)).execute like s t = .ok (f.listed like t.entries, t) :=
  execute_selection (fun _ => rfl) fun _ _ => rfl

end Catalog.Store
