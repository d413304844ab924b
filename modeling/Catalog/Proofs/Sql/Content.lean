import Catalog.Proofs.Sql.Order
import Catalog.Proofs.Sql.Parts

namespace Catalog.Sql

theorem number?_placeholder (n : Nat) : number? (placeholder n) = some n := by
  rw [number?, toList_placeholder]
  exact Decimal.nat?_toDigits n

theorem Column.ofName?_name (c : Column) : ofName? c.name = some c := by
  cases c <;> rfl

def Condition.compared {α : Type} : Condition α → List (Column × α)
  | .equal c a => [(c, a)]
  | _ => []

def Setting.value? (c : Column) : Setting Value → Option Value
  | .to v | .toIfGiven v => some v
  | .null => c.noValue?

/-- What a statement that holds its values itself says of columns, if each null that is written goes
into a column that may have one. -/
def Statement.content? : Statement Value → Option Content
  | .select s => some {
      written := []
      compared := s.conditions.flatMap Condition.compared
      limit := s.limit.toList
      returned := [] }
  | .insert cells => some {
      written := cells
      compared := []
      limit := []
      returned := Column.all }
  | .update settings conditions => do
    return {
      written := ← settings.mapM fun p => return (p.1, ← p.2.value? p.1)
      compared := conditions.flatMap Condition.compared
      limit := []
      returned := Column.all }

theorem Statement.content?_update (settings : List (Column × Value))
    (conditions : List (Condition Value)) :
    content? (.update (settings.map fun p => (p.1, .to p.2)) conditions) = some {
      written := settings
      compared := conditions.flatMap Condition.compared
      limit := []
      returned := Column.all } := by
  have hwritten : ((settings.map fun p => (p.1, Setting.to p.2)).mapM
      fun p => return (p.1, ← p.2.value? p.1)) = some settings := by
    rw [List.mapM_map]
    exact List.mapM_pure.trans (congrArg some (List.map_id' settings))
  rw [content?, hwritten]
  rfl

theorem mapM_congr_of_mapM {α β γ : Type} {f : α → Option β} {g : α → Option γ} {h : β → Option γ}
    (hfg : ∀ a b, f a = some b → g a = h b) {as : List α} {bs : List β}
    (hs : as.mapM f = some bs) : as.mapM g = bs.mapM h := by
  induction as generalizing bs with
  | nil =>
    cases hs
    rfl
  | cons a as ih =>
    rw [List.mapM_cons] at hs
    obtain ⟨b, hb, hs⟩ := Option.bind_eq_some_iff.1 hs
    obtain ⟨bs, hbs, hs⟩ := Option.bind_eq_some_iff.1 hs
    cases hs
    rw [List.mapM_cons, List.mapM_cons, hfg a b hb, ih hbs]

namespace Request

variable {q : Request}

theorem value?_comp_placeholder : q.value? ∘ placeholder = valueAt q.values := by
  funext n
  rw [Function.comp, value?, number?_placeholder, Option.bind_some]

theorem cell?_placeholder (c : Column) (n : Nat) :
    q.cell? (c.name, placeholder n) = (valueAt q.values n).map (c, ·) := by
  have hnull : placeholder n ≠ "null" := placeholder_ne n (by decide)
  have hvalue : q.value? (placeholder n) = valueAt q.values n := congrFun value?_comp_placeholder n
  rw [cell?]
  simp only [c.ofName?_name, if_neg hnull, hvalue]
  cases valueAt q.values n <;> rfl

theorem mapM_cell?_settings {settings : List (Column × Setting Nat)}
    {settings' : List (Column × Setting Value)}
    (h : (settings.mapM fun p => return (p.1, ← p.2.traverse (valueAt q.values))) =
      some settings') :
    (settings.map fun p => (p.1.name, p.2.word)).mapM q.cell? =
      settings'.mapM fun p => return (p.1, ← p.2.value? p.1) := by
  rw [List.mapM_map]
  refine mapM_congr_of_mapM ?_ h
  rintro ⟨c, n | _ | n⟩ p' hp
  · obtain ⟨s, hs, hp⟩ := Option.bind_eq_some_iff.1 hp
    obtain ⟨v, hv, hs⟩ := Option.bind_eq_some_iff.1 hs
    cases hs
    cases hp
    exact (cell?_placeholder c n).trans (by rw [hv]; rfl)
  · cases hp
    change q.cell? (c.name, "null") = _
    rw [cell?]
    simp only [c.ofName?_name, if_pos]
    rfl
  · obtain ⟨s, hs, hp⟩ := Option.bind_eq_some_iff.1 hp
    obtain ⟨v, hv, hs⟩ := Option.bind_eq_some_iff.1 hs
    cases hs
    cases hp
    exact (cell?_placeholder c n).trans (by rw [hv]; rfl)

theorem mapM_cell?_condition {c : Condition Nat} {c' : Condition Value}
    (h : c.traverse (valueAt q.values) = some c') :
    c.equations.mapM q.cell? = some c'.compared := by
  cases c with
  | equal c n =>
    obtain ⟨v, hv, hc⟩ := Option.bind_eq_some_iff.1 h
    cases hc
    rw [Condition.equations, List.mapM_cons, cell?_placeholder, hv]
    rfl
  | isNull c =>
    cases h
    rfl
  | isNotNull c =>
    cases h
    rfl
  | anyLike alternatives =>
    obtain ⟨alternatives', _, hc⟩ := Option.bind_eq_some_iff.1 h
    cases hc
    rfl

theorem mapM_cell?_conditions {conditions : List (Condition Nat)}
    {conditions' : List (Condition Value)}
    (h : conditions.mapM (Condition.traverse (valueAt q.values)) = some conditions') :
    (conditions.flatMap Condition.equations).mapM q.cell? =
      some (conditions'.flatMap Condition.compared) := by
  induction conditions generalizing conditions' with
  | nil =>
    cases h
    rfl
  | cons c cs ih =>
    rw [List.mapM_cons] at h
    obtain ⟨c', hc, h⟩ := Option.bind_eq_some_iff.1 h
    obtain ⟨cs', hcs, h⟩ := Option.bind_eq_some_iff.1 h
    cases h
    rw [List.flatMap_cons, List.mapM_append, mapM_cell?_condition hc, ih hcs]
    rfl

theorem mapM_cell?_cells {columns : List (Column × Nat)} {cells : List (Column × Value)}
    (h : (columns.mapM fun p => return (p.1, ← valueAt q.values p.2)) = some cells) :
    (columns.map fun p => (p.1.name, placeholder p.2)).mapM q.cell? = some cells := by
  rw [List.mapM_map, ← h]
  congr 1
  funext p
  refine (cell?_placeholder p.1 p.2).trans ?_
  cases valueAt q.values p.2 <;> rfl

theorem mapM_value?_bound {n? : Option Nat} {v? : Option Value}
    (h : n?.mapM (valueAt q.values) = some v?) :
    (n?.toList.map placeholder).mapM q.value? = some v?.toList := by
  rw [List.mapM_map, value?_comp_placeholder]
  cases n? with
  | none =>
    cases h
    rfl
  | some n =>
    obtain ⟨v, hv, h⟩ := Option.map_eq_some_iff.1 h
    cases h
    rw [Option.toList_some, List.mapM_cons, hv]
    rfl

theorem read?_layout {s : Statement Value} (h : q.bound? = some s) :
    q.read? q.statement.layout = s.content? := by
  have hnames : (Column.all.map Column.name).mapM Column.ofName? = some Column.all := rfl
  rw [bound?] at h
  cases hs : q.statement with
  | select s =>
    rw [hs] at h
    obtain ⟨s', hs', h⟩ := Option.bind_eq_some_iff.1 h
    obtain ⟨conditions', hconditions, hs'⟩ := Option.bind_eq_some_iff.1 hs'
    obtain ⟨limit', hlimit, hs'⟩ := Option.bind_eq_some_iff.1 hs'
    obtain ⟨offset', _, hs'⟩ := Option.bind_eq_some_iff.1 hs'
    cases hs'
    cases h
    rw [read?]
    simp only [Statement.layout, mapM_cell?_conditions hconditions,
      mapM_value?_bound hlimit]
    rfl
  | insert columns =>
    rw [hs] at h
    obtain ⟨cells, hcells, h⟩ := Option.bind_eq_some_iff.1 h
    cases h
    rw [read?]
    simp only [Statement.layout, List.zip_map', mapM_cell?_cells hcells, hnames]
    rfl
  | update settings conditions =>
    rw [hs] at h
    obtain ⟨settings', hsettings, h⟩ := Option.bind_eq_some_iff.1 h
    obtain ⟨conditions', hconditions, h⟩ := Option.bind_eq_some_iff.1 h
    cases h
    rw [read?]
    simp only [Statement.layout, List.zip_map', mapM_cell?_settings hsettings,
      mapM_cell?_conditions hconditions, hnames]
    rfl

end Request

def Condition.isPlaced {α : Type} : Condition α → Bool
  | .anyLike _ => false
  | _ => true

def Statement.isPlaced {α : Type} : Statement α → Bool
  | .select s => s.conditions.all Condition.isPlaced && s.offset.isNone
  | .insert _ => true
  | .update _ conditions => conditions.all Condition.isPlaced

theorem filterMap_number? (ns : List Nat) : (ns.map placeholder).filterMap number? = ns := by
  have hnumber : number? ∘ placeholder = some := funext number?_placeholder
  rw [List.filterMap_map, hnumber, List.filterMap_some]

theorem filterMap_settings (settings : List (Column × Setting Nat)) :
    (settings.map fun p => p.2.word).filterMap number? =
      settings.flatMap fun p => p.2.arguments := by
  rw [List.filterMap_map, List.filterMap_eq_flatMap_toList]
  have hnull : number? "null" = none := by decide
  congr 1
  funext p
  obtain ⟨c, n | _ | n⟩ := p
  · exact congrArg Option.toList (number?_placeholder n)
  · rw [Function.comp, Setting.word, hnull]
    rfl
  · exact congrArg Option.toList (number?_placeholder n)

theorem filterMap_conditions {conditions : List (Condition Nat)}
    (h : conditions.all Condition.isPlaced = true) :
    ((conditions.flatMap Condition.equations).map Prod.snd).filterMap number? =
      conditions.flatMap Condition.arguments := by
  rw [List.map_flatMap, List.filterMap_flatMap]
  apply List.flatMap_congr
  intro c hc
  have hplaced := List.all_eq_true.1 h c hc
  cases c with
  | equal c n => exact filterMap_number? [n]
  | isNull c => rfl
  | isNotNull c => rfl
  | anyLike alternatives => cases hplaced

theorem Statement.numbers_layout {s : Statement Nat} (h : s.isPlaced = true) :
    s.layout.numbers = s.arguments := by
  cases s with
  | select s =>
    obtain ⟨hconditions, hoffset⟩ := Bool.and_eq_true_iff.1 h
    rw [Layout.numbers, layout, arguments, Select.arguments, Option.isNone_iff_eq_none.1 hoffset]
    rw [List.nil_append, List.filterMap_append, filterMap_conditions hconditions,
      filterMap_number?, Option.toList_none, List.append_nil]
  | insert columns =>
    have hnumbers := filterMap_number? (columns.map Prod.snd)
    rw [List.map_map] at hnumbers
    rw [Layout.numbers, layout, arguments, List.map_nil, List.append_nil, List.append_nil]
    exact hnumbers
  | update settings conditions =>
    rw [Layout.numbers, layout, arguments, List.append_nil, List.filterMap_append,
      filterMap_settings, filterMap_conditions h]

namespace Request

variable {q : Request} {s : Statement Value} {r : Content}

/-- A request says of columns what the statement says that it stands for. -/
theorem says_of_bound? (h : q.bound? = some s)
    (hnumbered : q.statement.arguments = List.range' 1 q.values.length)
    (hplaced : q.statement.isPlaced = true) (hr : s.content? = some r) : q.Says r := by
  have hplaceholders : placeholders q.sql = q.statement.arguments :=
    (q.statement.reads q.dialect).placeholders_eq
  have hlayout : q.layout = q.statement.layout := by
    rw [layout_eq, Layout.ofWords_words]
  constructor
  · rw [hplaceholders, hnumbered]
  · rw [hlayout, hplaceholders, Statement.numbers_layout hplaced]
  · rw [hlayout, Statement.length_layout]
  · rw [hlayout, read?_layout h, hr]

theorem says_ofStatement {all : Bool} (hplaced : (ofStatement s all).statement.isPlaced = true)
    (hr : s.content? = some r) : (ofStatement s all).Says r :=
  says_of_bound? (bound?_ofStatement s all) (arguments_ofStatement s all) hplaced hr

end Request

end Catalog.Sql
