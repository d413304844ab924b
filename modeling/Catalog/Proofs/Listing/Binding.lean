import Catalog.Proofs.Listing.Coherence
import Catalog.Proofs.Listing.Count
import Catalog.Proofs.Listing.Selection

namespace Catalog.Filter

open Sql

variable {f : Filter} {field : Field} {raw : String} {arguments : List String} {v : Value}
  {values : List Value} {failure : Failure}

theorem isSome_rejected_iff :
    (rejected field raw).isSome ↔ field ≠ .search ∧ ∀ n, ¬Denotes raw n := by
  rw [← count?_eq_none_iff, rejected]
  split
  · rename_i h
    exact iff_of_false Bool.false_ne_true fun h' => h'.1 h
  · rename_i h
    rw [and_iff_right h]
    cases count? raw with
    | none => exact iff_of_true rfl rfl
    | some n => exact iff_of_false Bool.false_ne_true (Option.some_ne_none n)

theorem isSome_refusal?_iff : f.refusal?.isSome ↔
    ∃ field raw, f.value field = some raw ∧ field ≠ .search ∧ ∀ n, ¬Denotes raw n := by
  simp only [← isSome_rejected_iff]
  rw [refusal?, List.findSome?_isSome_iff]
  constructor
  · rintro ⟨field, _, h⟩
    obtain ⟨failure, hfailure⟩ := Option.isSome_iff_exists.1 h
    obtain ⟨raw, hv, hr⟩ := Option.bind_eq_some_iff.1 hfailure
    exact ⟨field, raw, hv, Option.isSome_of_eq_some hr⟩
  · rintro ⟨field, raw, hv, hr⟩
    have hfield := (isSome_rejected_iff.1 hr).1
    refine ⟨field, ?_, ?_⟩
    · cases field with
      | search => exact absurd rfl hfield
      | limit => exact List.mem_cons_self
      | offset => exact List.mem_cons_of_mem _ List.mem_cons_self
    · rwa [hv, Option.bind_some]

/-- Whether a value is the one that a field's text stands for: the text that is searched, or the
number of rows. -/
def Field.Binds (field : Field) (raw : String) (v : Value) : Prop :=
  match field with
  | .search => v = .ofText raw
  | .limit | .offset => ∃ (n : Nat) (m : Int64), Denotes raw n ∧ m.toInt = n ∧ v = .ofInt m

theorem binds_boundValue (h : rejected field raw = none) : field.Binds raw (boundValue field raw) := by
  have hcount (hfield : field ≠ .search) :
      ∃ (n : Nat) (m : Int64), Denotes raw n ∧ m.toInt = n ∧
        Value.ofInt ((count? raw).getD 0) = .ofInt m := by
    rw [rejected, if_neg hfield] at h
    cases hc : count? raw with
    | none =>
      rw [hc] at h
      cases h
    | some m =>
      obtain ⟨n, hm, hn⟩ := count?_eq_some_iff.1 hc
      exact ⟨n, m, hn, hm, rfl⟩
  cases field with
  | search => rfl
  | limit => exact hcount (by decide)
  | offset => exact hcount (by decide)

theorem map_parseCount_eq_ok_iff : (parseCount field raw).map .ofInt = .ok v ↔
    ∃ (n : Nat) (m : Int64), Denotes raw n ∧ m.toInt = n ∧ v = .ofInt m := by
  simp only [map_eq_ok_iff, parseCount_eq_ok_iff, count?_eq_some_iff]
  constructor
  · rintro ⟨m, ⟨n, hm, hn⟩, rfl⟩
    exact ⟨n, m, hn, hm, rfl⟩
  · rintro ⟨n, m, hn, hm, rfl⟩
    exact ⟨m, ⟨n, hm, hn⟩, rfl⟩

theorem bindOne_eq_ok_iff : bindOne field raw = .ok v ↔ field.Binds raw v := by
  cases field with
  | search => rw [bindOne, Except.ok.injEq, eq_comm, Field.Binds]
  | limit => rw [bindOne, map_parseCount_eq_ok_iff, Field.Binds]
  | offset => rw [bindOne, map_parseCount_eq_ok_iff, Field.Binds]

theorem bindOne_eq_error_iff :
    bindOne field raw = .error failure ↔ field ≠ .search ∧ parseCount field raw = .error failure := by
  cases field with
  | search => exact iff_of_false (fun h => nomatch h) fun h => h.1 rfl
  | limit => rw [bindOne, map_eq_error_iff, and_iff_right (by decide)]
  | offset => rw [bindOne, map_eq_error_iff, and_iff_right (by decide)]

/-- Whether a field takes an argument: it may be any text to search for, but has to be a count where
one is due. -/
def Field.Takes (field : Field) (argument : String) : Prop :=
  field ≠ .search → ∃ m, parseCount field argument = .ok m

theorem exists_bindOne_iff : (∃ v, bindOne field raw = .ok v) ↔ field.Takes raw := by
  have hcount (hfield : field ≠ .search) :
      (∃ v, (parseCount field raw).map Value.ofInt = .ok v) ↔ field.Takes raw := by
    rw [exists_map_ok_iff, Field.Takes, forall_prop_of_true hfield]
  cases field with
  | search => exact iff_of_true ⟨_, rfl⟩ fun h => absurd rfl h
  | limit => exact hcount (by decide)
  | offset => exact hcount (by decide)

/-- The arguments, each with the field that has its place. -/
def places (f : Filter) (arguments : List String) : List (Field × String) :=
  (f.present.map Prod.fst).zip arguments

theorem length_places (h : arguments.length = f.present.length) :
    (f.places arguments).length = arguments.length := by
  rw [places, List.length_zip, List.length_map, h, Nat.min_self]

theorem bindValues_eq (h : arguments.length = f.present.length) :
    f.bindValues arguments = (f.places arguments).mapM fun p => bindOne p.1 p.2 := by
  rw [bindValues, if_pos ((List.length_map _).trans h.symm), places]

theorem bindValues_eq_ok_iff (h : arguments.length = f.present.length) :
    f.bindValues arguments = .ok values ↔
      List.Forall₂ (fun p v => p.1.Binds p.2 v) (f.places arguments) values := by
  simp only [bindValues_eq h, mapM_eq_ok_iff, bindOne_eq_ok_iff]

theorem bindValues_eq_error_iff (h : arguments.length = f.present.length) :
    f.bindValues arguments = .error failure ↔
      ∃ before p after, f.places arguments = before ++ p :: after ∧
        (∀ q ∈ before, q.1.Takes q.2) ∧
        p.1 ≠ .search ∧ parseCount p.1 p.2 = .error failure := by
  simp only [bindValues_eq h, mapM_eq_error_iff, exists_bindOne_iff, bindOne_eq_error_iff]

theorem bindValues_eq_internal_iff : (∃ problem, f.bindValues arguments = .error (.internal problem)) ↔
    arguments.length ≠ f.present.length := by
  by_cases h : arguments.length = f.present.length
  · refine iff_of_false ?_ fun hne => hne h
    rintro ⟨problem, hproblem⟩
    obtain ⟨_, p, _, _, _, _, hp⟩ := (bindValues_eq_error_iff h).1 hproblem
    cases (parseCount_eq_error_iff.1 hp).2
  · refine iff_of_true ?_ h
    rw [bindValues, if_neg fun hfields => h (hfields.symm.trans (List.length_map _))]
    exact ⟨_, rfl⟩

/-- What is true of values that are bound to arguments: there is one for each, as the field with its
place has it. -/
structure Bound (f : Filter) (arguments : List String) (values : List Value) : Prop where
  length : values.length = arguments.length
  value : ∀ (i : Nat) (field : Field) argument, (f.present.map Prod.fst)[i]? = some field →
    arguments[i]? = some argument → ∃ v, values[i]? = some v ∧ field.Binds argument v

theorem getElem?_places {i : Nat} {argument : String}
    (hfield : (f.present.map Prod.fst)[i]? = some field) (hargument : arguments[i]? = some argument) :
    (f.places arguments)[i]? = some (field, argument) :=
  List.getElem?_zip_eq_some.2 ⟨hfield, hargument⟩

theorem bound_of_bindValues (h : f.bindValues arguments = .ok values) : f.Bound arguments values := by
  have hlength : arguments.length = f.present.length := by
    by_contra hne
    obtain ⟨problem, hproblem⟩ := bindValues_eq_internal_iff.2 hne
    cases h.symm.trans hproblem
  have hall := (bindValues_eq_ok_iff hlength).1 h
  refine ⟨hall.length_eq.symm.trans (length_places hlength), ?_⟩
  intro i field argument hfield hargument
  obtain ⟨hi, hp⟩ := List.getElem?_eq_some_iff.1 (getElem?_places hfield hargument)
  have hi' : i < values.length := hall.length_eq ▸ hi
  refine ⟨values[i], List.getElem?_eq_getElem hi', ?_⟩
  have hbinds := hall.get hi hi'
  rw [List.get_eq_getElem, List.get_eq_getElem, hp] at hbinds
  exact hbinds

theorem Bound.valueAt_position (h : f.Bound f.arguments values) (hv : f.value field = some raw) :
    ∃ v, valueAt values (f.position field) = some v ∧ field.Binds raw v := by
  obtain ⟨i, hi⟩ := List.mem_iff_getElem?.1 (mem_present.2 hv)
  have hfield : (f.present.map Prod.fst)[i]? = some field := by rw [List.getElem?_map, hi]; rfl
  have hargument : f.arguments[i]? = some raw := by rw [arguments, List.getElem?_map, hi]; rfl
  obtain ⟨hlt, hget⟩ := List.getElem?_eq_some_iff.1 hfield
  have hposition := position_getElem hlt
  rw [hget] at hposition
  rw [hposition]
  exact h.value i field raw hfield hargument

theorem mem_placeholders_sql_iff {n : Nat} :
    n ∈ placeholders f.sql ↔ ∃ field raw, f.position field = n ∧ f.value field = some raw := by
  have hused : n ∈ placeholders f.sql ↔ n ∈ (Field.all.map f.position).filter (· ≠ 0) := by
    rw [mem_placeholders_sql, positions_used, List.mem_range'_1]
    omega
  rw [hused, List.mem_filter, List.mem_map, decide_eq_true_eq]
  constructor
  · rintro ⟨⟨field, _, hp⟩, hn⟩
    rw [← hp, ne_eq, position_eq_zero_iff] at hn
    obtain ⟨raw, hv⟩ := Option.ne_none_iff_exists'.1 hn
    exact ⟨field, raw, hp, hv⟩
  · rintro ⟨field, raw, hp, hv⟩
    refine ⟨⟨field, field.mem_all, hp⟩, ?_⟩
    rw [← hp, ne_eq, position_eq_zero_iff, hv]
    exact Option.some_ne_none raw

/-- Values are bound to any list of arguments of the right length, unless one of them is no count at
the place of a limit or offset, and then the first of those is named. A list of another length is
never bound. For the arguments of the filter itself, the value with a number in the statement is
the one that the field with this number asks for. -/
theorem bindValues_exact (f : Filter) (arguments : List String) :
    ((∃ problem, f.bindValues arguments = .error (.internal problem)) ↔
      arguments.length ≠ f.present.length) ∧
    (arguments.length = f.present.length →
      ((∃ values, f.bindValues arguments = .ok values) ↔
        ∀ p ∈ f.places arguments, p.1.Takes p.2) ∧
      ∀ failure, f.bindValues arguments = .error failure ↔
        ∃ before p after, f.places arguments = before ++ p :: after ∧
          (∀ q ∈ before, q.1.Takes q.2) ∧
          p.1 ≠ .search ∧ parseCount p.1 p.2 = .error failure) ∧
    (∀ values, f.bindValues arguments = .ok values → f.Bound arguments values) ∧
    (∀ problem, f.bindValues f.arguments ≠ .error (.internal problem)) ∧
    ∀ values, f.bindValues f.arguments = .ok values →
      ∀ n, n ∈ placeholders f.sql ↔ ∃ field raw v, f.position field = n ∧
        f.value field = some raw ∧ valueAt values n = some v ∧ field.Binds raw v := by
  refine ⟨bindValues_eq_internal_iff, ?_, fun _ => bound_of_bindValues, ?_, ?_⟩
  · intro h
    refine ⟨?_, fun _ => bindValues_eq_error_iff h⟩
    simp only [bindValues_eq h, exists_mapM_ok_iff, exists_bindOne_iff]
  · intro problem h
    exact bindValues_eq_internal_iff.1 ⟨problem, h⟩ (List.length_map _)
  · intro values h n
    rw [mem_placeholders_sql_iff]
    constructor
    · rintro ⟨field, raw, rfl, hv⟩
      obtain ⟨v, hvalue, hbinds⟩ := (bound_of_bindValues h).valueAt_position hv
      exact ⟨field, raw, v, rfl, hv, hvalue, hbinds⟩
    · rintro ⟨field, raw, _, hp, hv, _⟩
      exact ⟨field, raw, hp, hv⟩

end Catalog.Filter
