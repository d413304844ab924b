import Catalog.Proofs.Listing.Position
import Catalog.Proofs.Sql.Placeholder

namespace Catalog.Filter

open Sql

variable {f g : Filter} {field : Field} {raw : String}

def given (f : Filter) : Field → Option String
  | .search => f.search
  | .limit => f.limit
  | .offset => f.offset

def without (f : Filter) : Field → Filter
  | .search => { f with search := none }
  | .limit => { f with limit := none }
  | .offset => { f with offset := none }

/-- Whether a field is given a text that stands for none. -/
def Idle (f : Filter) (field : Field) : Prop :=
  f.given field = some "" ∨ field ≠ .search ∧ f.given field = some "0"

theorem given_of_value (h : f.value field = some raw) : f.given field = some raw := by
  cases field with
  | search => exact (Option.filter_eq_some_iff.1 h).1
  | limit => exact (Option.filter_eq_some_iff.1 h).1
  | offset => exact (Option.filter_eq_some_iff.1 h).1

theorem filter_isNoCount_eq_none_iff {raw? : Option String} :
    (raw?.filter fun s => !isNoCount s) = none ↔
      raw? = none ∨ raw? = some "" ∨ raw? = some "0" := by
  cases raw? with
  | none => exact iff_of_true rfl (.inl rfl)
  | some raw =>
    simp only [isNoCount, Option.filter_eq_none_iff, Option.some.injEq, forall_eq',
      Bool.not_eq_true', Bool.not_eq_false, Bool.or_eq_true, beq_iff_eq, reduceCtorEq, false_or]

theorem value_eq_none_iff : f.value field = none ↔ f.given field = none ∨ f.Idle field := by
  cases field with
  | search =>
    rw [value, Idle, given]
    cases f.search with
    | none => exact iff_of_true rfl (.inl rfl)
    | some search => simp
  | limit =>
    rw [value, filter_isNoCount_eq_none_iff, Idle, given]
    simp only [ne_eq, reduceCtorEq, not_false_eq_true, true_and]
  | offset =>
    rw [value, filter_isNoCount_eq_none_iff, Idle, given]
    simp only [ne_eq, reduceCtorEq, not_false_eq_true, true_and]

theorem value_without (h : f.value field = none) : (f.without field).value = f.value := by
  funext other
  cases field <;> cases other <;> first | rfl | exact h.symm

theorem present_congr (h : f.value = g.value) : f.present = g.present := by
  rw [present, present, h]

theorem position_congr (h : f.value = g.value) : f.position = g.position := by
  funext field
  rw [position, position, present_congr h]

theorem sql_congr (h : f.value = g.value) : f.sql = g.sql := by
  have hp : f.position? = g.position? := by
    funext field
    rw [position?, position?, position_congr h]
  rw [sql, sql, query, query, hp]

theorem position_search (h : f.value .search = some raw) : f.position .search = 1 := by
  rw [position, map_fst_present, Field.all, List.filter_cons, h]
  rfl

theorem position_search_eq_one_iff : f.position .search = 1 ↔ f.value .search ≠ none := by
  cases h : f.value .search with
  | none =>
    rw [position_eq_zero_iff.2 h]
    exact iff_of_false (by decide) fun h => h rfl
  | some raw => exact iff_of_true (position_search h) (Option.some_ne_none raw)

theorem query_conditions : f.query.conditions = .isNull .deletedAt ::
    if f.position .search = 1 then [.anyLike [(.code, .around 1), (.text, .around 1)]]
    else [] := by
  cases h : f.value .search with
  | none =>
    have h0 : f.position .search = 0 := position_eq_zero_iff.2 h
    rw [query, position?, h0]
    rfl
  | some search =>
    rw [query, position?, position_search h]
    rfl

def activeClause : String :=
  "select id,code,example,created_at,created_by,updated_at,updated_by,deleted_at,deleted_by," ++
    "uuid from example where deleted_at is null"

def searchClause : String :=
  " and (code ilike '%' || $1 || '%' or example ilike '%' || $1 || '%')"

def countClause (f : Filter) (field : Field) : String :=
  if f.position field = 0 then "" else " " ++ field.name ++ " " ++ f.token field

theorem boundText_position? (field : Field) :
    boundText .plain placeholder field.name (f.position? field) = f.countClause field := by
  rw [position?, countClause]
  split
  · rfl
  · rfl

theorem sql_eq : f.sql = activeClause ++ (if f.position .search = 1 then searchClause else "") ++
    f.countClause .limit ++ f.countClause .offset := by
  have hw : whereText .plain placeholder f.query.conditions = " where deleted_at is null" ++
      (if f.position .search = 1 then searchClause else "") := by
    rw [query_conditions]
    split
    · rfl
    · rfl
  have hl : boundText .plain placeholder "limit" f.query.limit = f.countClause .limit :=
    boundText_position? .limit
  have ho : boundText .plain placeholder "offset" f.query.offset = f.countClause .offset :=
    boundText_position? .offset
  have ha : activeClause = Dialect.plain.word "select" ++ " " ++
      Dialect.plain.separator.intercalate (Column.all.map Dialect.plain.ownColumn) ++ " " ++
      Dialect.plain.word "from" ++ " " ++ Dialect.plain.table ++ " where deleted_at is null" := rfl
  rw [sql, Select.text, hw, hl, ho, ha]
  simp only [String.append_assoc]

theorem percent_notMem_placeholder (n : Nat) : '%' ∉ (placeholder n).toList := by
  rw [toList_placeholder, List.mem_cons, not_or]
  refine ⟨by decide, fun h => ?_⟩
  have hd : '%'.isDigit = true := Nat.isDigit_of_mem_toDigits (b := 10) (by decide) (by decide) h
  cases hd

theorem percent_notMem_countClause : '%' ∉ (f.countClause field).toList := by
  rw [countClause]
  split
  · exact List.not_mem_nil
  · have hn : '%' ∉ (" " ++ field.name ++ " ").toList := by cases field <;> decide
    rw [String.toList_append, List.mem_append, not_or]
    exact ⟨hn, percent_notMem_placeholder _⟩

theorem searchClause_infix_iff :
    (∃ before after, f.sql = before ++ searchClause ++ after) ↔ f.position .search = 1 := by
  constructor
  · rintro ⟨before, after, h⟩
    by_contra hs
    have hp : '%' ∈ f.sql.toList := by
      rw [h, String.toList_append, String.toList_append, List.mem_append, List.mem_append]
      exact .inl (.inr (by decide))
    have ha : '%' ∉ (activeClause ++ "").toList := by decide +kernel
    rw [sql_eq, if_neg hs, String.toList_append, String.toList_append] at hp
    simp only [List.mem_append, percent_notMem_countClause, or_false] at hp
    exact ha hp
  · intro hs
    refine ⟨activeClause, f.countClause .limit ++ f.countClause .offset, ?_⟩
    rw [sql_eq, if_pos hs, String.append_assoc]

theorem placeholders_sql : placeholders f.sql =
    (if f.position .search = 1 then [1, 1] else []) ++
      ((f.position? .limit).toList ++ (f.position? .offset).toList) := by
  have hc : f.query.conditions.flatMap Condition.arguments =
      if f.position .search = 1 then [1, 1] else [] := by
    rw [query_conditions]
    split
    · rfl
    · rfl
  rw [sql, (Select.reads .plain f.query).placeholders_eq, Select.arguments, hc]
  rfl

theorem mem_position? {n : Nat} :
    n ∈ (f.position? field).toList ↔ f.position field = n ∧ n ≠ 0 := by
  rw [position?]
  split
  · rename_i h0
    rw [h0]
    exact iff_of_false List.not_mem_nil fun h => h.2 h.1.symm
  · rename_i h0
    rw [Option.toList_some, List.mem_singleton]
    constructor
    · rintro rfl
      exact ⟨rfl, h0⟩
    · exact fun h => h.1.symm

theorem mem_placeholders_sql {n : Nat} :
    n ∈ placeholders f.sql ↔ 1 ≤ n ∧ n ≤ f.arguments.length := by
  have hs : n ∈ (if f.position .search = 1 then [1, 1] else []) ↔
      f.position .search = n ∧ n ≠ 0 := by
    split
    · rename_i hs
      rw [hs, List.mem_pair, or_self]
      omega
    · rename_i hs
      have h0 : f.position .search = 0 := position_eq_zero_iff.2 (by
        rwa [position_search_eq_one_iff, not_not] at hs)
      rw [h0]
      exact iff_of_false List.not_mem_nil fun h => h.2 h.1.symm
  have hr : n ∈ List.range' 1 f.arguments.length ↔ 1 ≤ n ∧ n ≤ f.arguments.length := by
    rw [List.mem_range'_1]
    omega
  rw [← hr, ← positions_used, placeholders_sql]
  simp only [List.mem_append, hs, mem_position?, Field.all, List.mem_filter, List.map_cons,
    List.map_nil, List.mem_cons, List.not_mem_nil, or_false, decide_eq_true_eq]
  rw [← or_and_right, ← or_and_right]
  simp only [@eq_comm _ n]

theorem getElem?_position (h : f.position field ≠ 0) :
    ∃ raw, f.given field = some raw ∧ f.arguments[f.position field - 1]? = some raw := by
  rw [ne_eq, position_eq_zero_iff] at h
  obtain ⟨raw, hv⟩ := Option.ne_none_iff_exists'.1 h
  have ha : valueAt f.arguments (f.position field) = some raw := valueAt_position hv Prod.snd
  refine ⟨raw, given_of_value hv, ?_⟩
  cases hp : f.position field with
  | zero => exact absurd (position_eq_zero_iff.1 hp) h
  | succ n => rwa [hp] at ha

/-- The statement, its numbers and its arguments fit together. -/
structure Coherent (f : Filter) : Prop where
  used : (Field.all.map f.position).filter (· ≠ 0) = List.range' 1 f.arguments.length
  unused : ∀ field, f.position field = 0 ↔ f.given field = none ∨ f.Idle field
  bound : ∀ field, f.position field ≠ 0 →
    ∃ raw, f.given field = some raw ∧ f.arguments[f.position field - 1]? = some raw
  numbers : ∀ n, n ∈ placeholders f.sql ↔ 1 ≤ n ∧ n ≤ f.arguments.length
  text : f.sql = activeClause ++ (if f.position .search = 1 then searchClause else "") ++
    f.countClause .limit ++ f.countClause .offset
  searched : (∃ before after, f.sql = before ++ searchClause ++ after) ↔ f.position .search = 1
  search : f.position .search = 1 → ∃ raw, f.given .search = some raw ∧
    (placeholders searchClause).map (valueAt f.arguments) = [some raw, some raw]
  idle : ∀ field, f.Idle field → (f.without field).sql = f.sql ∧
    (f.without field).arguments = f.arguments ∧ (f.without field).position = f.position

theorem coherent (f : Filter) : f.Coherent where
  used := positions_used
  unused field := position_eq_zero_iff.trans value_eq_none_iff
  bound _ := getElem?_position
  numbers _ := mem_placeholders_sql
  text := sql_eq
  searched := searchClause_infix_iff
  search h := by
    obtain ⟨raw, hr, ha⟩ := getElem?_position (h ▸ Nat.one_ne_zero)
    rw [h] at ha
    have hp : placeholders searchClause = [1, 1] := by decide +kernel
    refine ⟨raw, hr, ?_⟩
    rw [hp, List.map_cons, List.map_singleton]
    exact congrArg (fun x => [x, x]) ha
  idle field h := by
    have hv : (f.without field).value = f.value := value_without (value_eq_none_iff.2 (.inr h))
    refine ⟨sql_congr hv, ?_, position_congr hv⟩
    rw [arguments, arguments, present_congr hv]

end Catalog.Filter
