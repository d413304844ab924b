import Catalog.Listing.Query
import Catalog.Proofs.Sql.Arguments
import Mathlib.Data.List.Nodup

namespace Catalog.Filter

open Sql

variable {α : Type} {f : Filter} {field : Field} {raw : String}

theorem Field.mem_all (field : Field) : field ∈ Field.all := by
  cases field <;> decide

theorem mem_present : (field, raw) ∈ f.present ↔ f.value field = some raw := by
  simp only [present, List.mem_filterMap, Option.map_eq_some_iff, Prod.mk.injEq]
  constructor
  · rintro ⟨_, _, s, hs, rfl, rfl⟩
    exact hs
  · intro h
    exact ⟨field, field.mem_all, raw, h, rfl, rfl⟩

theorem map_fst_present :
    f.present.map Prod.fst = Field.all.filter fun field => (f.value field).isSome := by
  rw [present, List.map_filterMap, ← List.filterMap_eq_filter]
  congr 1
  funext field
  cases h : f.value field <;> simp [Option.guard, h]

theorem nodup_fst_present : (f.present.map Prod.fst).Nodup := by
  rw [map_fst_present]
  exact List.Nodup.filter _ (by decide)

theorem position_getElem {i : Nat} (hi : i < (f.present.map Prod.fst).length) :
    f.position (f.present.map Prod.fst)[i] = i + 1 := by
  have h : (f.present.map Prod.fst).idxOf? (f.present.map Prod.fst)[i] = some i := by
    rw [List.idxOf?_eq_some_iff]
    refine ⟨hi, rfl, fun j hj he => ?_⟩
    have := (nodup_fst_present (f := f)).getElem_inj_iff.1 he
    omega
  rw [position, h]

theorem position_eq_zero_iff : f.position field = 0 ↔ f.value field = none := by
  have hmem : field ∉ f.present.map Prod.fst ↔ f.value field = none := by
    rw [map_fst_present, List.mem_filter, and_iff_right field.mem_all, Bool.not_eq_true,
      Option.isSome_eq_false_iff, Option.isNone_iff_eq_none]
  rw [← hmem, ← List.idxOf?_eq_none_iff, position]
  cases (f.present.map Prod.fst).idxOf? field with
  | none => exact iff_of_true rfl rfl
  | some i => exact iff_of_false (Nat.succ_ne_zero i) (Option.some_ne_none i)

/-- Out of a list with something for each field that narrows the listing, the number of a field
gives what is there for it. -/
theorem valueAt_position (h : f.value field = some raw) (k : Field × String → α) :
    valueAt (f.present.map k) (f.position field) = some (k (field, raw)) := by
  obtain ⟨i, hi, he⟩ := List.getElem_of_mem (mem_present.2 h)
  have hi' : i < (f.present.map Prod.fst).length := by rwa [List.length_map]
  have hp := position_getElem hi'
  rw [List.getElem_map, he] at hp
  rw [hp, valueAt, List.getElem?_map, List.getElem?_eq_getElem hi, he]
  rfl

theorem positions_used :
    (Field.all.map f.position).filter (· ≠ 0) = List.range' 1 f.arguments.length := by
  have hused : Field.all.filter ((fun n => decide (n ≠ 0)) ∘ f.position) =
      f.present.map Prod.fst := by
    rw [map_fst_present]
    congr 1
    funext field
    rw [Function.comp_apply, Bool.eq_iff_iff, decide_eq_true_iff, ne_eq, position_eq_zero_iff,
      Option.isSome_iff_ne_none]
  rw [List.filter_map, hused]
  apply List.ext_getElem
  · simp only [arguments, List.length_map, List.length_range']
  · intro i hi _
    rw [List.length_map] at hi
    rw [List.getElem_map, position_getElem hi, List.getElem_range']
    omega

end Catalog.Filter
