import Catalog.Sql.Request

namespace Catalog.Sql

variable {α β γ δ : Type}

def Pattern.form : Pattern α → Pattern Unit
  | .exactly _ => .exactly ()
  | .around _ => .around ()

def Condition.form : Condition α → Condition Unit
  | .equal c _ => .equal c ()
  | .isNull c => .isNull c
  | .isNotNull c => .isNotNull c
  | .anyLike alternatives => .anyLike (alternatives.map fun p => (p.1, p.2.form))

def Setting.form : Setting α → Setting Unit
  | .to _ => .to ()
  | .null => .null
  | .toIfGiven _ => .toIfGiven ()

def Select.form (s : Select α) : Select Unit where
  conditions := s.conditions.map Condition.form
  limit := s.limit.map fun _ => ()
  offset := s.offset.map fun _ => ()

def Statement.form : Statement α → Statement Unit
  | .select s => .select s.form
  | .insert columns => .insert (columns.map fun p => (p.1, ()))
  | .update settings conditions =>
    .update (settings.map fun p => (p.1, p.2.form)) (conditions.map Condition.form)

def count : StateM Nat Nat := fun n => (n + 1, n + 1)

/-- Numbering a part of a statement comes to what counting does from the length of the list. -/
def Counts (number : StateM (List α) γ) (counting : StateM Nat γ) : Prop :=
  ∀ as, counting as.length = ((number as).1, (number as).2.length)

theorem Counts.enlist (a : α) : Counts (enlist a) count := by
  intro as
  simp only [count, Sql.enlist, List.length_append, List.length_singleton]

theorem Counts.pure (y : γ) : Counts (pure y : StateM (List α) γ) (pure y) :=
  fun _ => rfl

theorem Counts.bind {number : StateM (List α) γ} {counting : StateM Nat γ}
    {number' : γ → StateM (List α) δ} {counting' : γ → StateM Nat δ} (h : Counts number counting)
    (h' : ∀ y, Counts (number' y) (counting' y)) :
    Counts (number >>= number') (counting >>= counting') := by
  intro as
  change (let p := counting as.length; counting' p.1 p.2) = _
  rw [h as]
  exact h' _ _

theorem Counts.map {number : StateM (List α) γ} {counting : StateM Nat γ}
    (h : Counts number counting) (f : γ → δ) :
    Counts (do return f (← number)) (do return f (← counting)) :=
  h.bind fun y => .pure (f y)

theorem Counts.each {number : β → StateM (List α) γ} {form : β → δ} {counting : δ → StateM Nat γ}
    (h : ∀ x, Counts (number x) (counting (form x))) (xs : List β) :
    Counts (xs.mapM number) ((xs.map form).mapM counting) := by
  induction xs with
  | nil => exact .pure []
  | cons x xs ih =>
    rw [List.mapM_cons, List.map_cons, List.mapM_cons]
    exact (h x).bind fun y => ih.map (y :: ·)

theorem Counts.optional (a? : Option α) :
    Counts (a?.mapM Sql.enlist) ((a?.map fun _ => ()).mapM fun _ => count) := by
  cases a? with
  | none => exact .pure none
  | some a => exact (Counts.enlist a).map some

theorem Pattern.counts (p : Pattern α) :
    Counts (p.traverse enlist) (p.form.traverse fun _ => count) := by
  cases p with
  | exactly a => exact (Counts.enlist a).map Pattern.exactly
  | around a => exact (Counts.enlist a).map Pattern.around

theorem Condition.counts (c : Condition α) :
    Counts (c.traverse enlist) (c.form.traverse fun _ => count) := by
  cases c with
  | equal column a => exact (Counts.enlist a).map (Condition.equal column)
  | isNull column => exact .pure (Condition.isNull column)
  | isNotNull column => exact .pure (Condition.isNotNull column)
  | anyLike alternatives =>
    refine Counts.map (Counts.each (fun p => ?_) alternatives) Condition.anyLike
    exact p.2.counts.map fun q => (p.1, q)

theorem Setting.counts (p : Column × Setting α) :
    Counts (do return (p.1, ← p.2.traverse enlist))
      (do return (p.1, ← p.2.form.traverse fun _ => count)) := by
  obtain ⟨c, a | _ | a⟩ := p
  · exact (Counts.enlist a).map fun n => (c, Setting.to n)
  · exact .pure (c, Setting.null)
  · exact (Counts.enlist a).map fun n => (c, Setting.toIfGiven n)

theorem Select.counts (s : Select α) :
    Counts (s.traverse enlist) (s.form.traverse fun _ => count) :=
  (Counts.each Condition.counts s.conditions).bind fun conditions =>
    (Counts.optional s.limit).bind fun limit =>
      (Counts.optional s.offset).map fun offset => ({ conditions, limit, offset } : Select Nat)

theorem Statement.counts (s : Statement α) :
    Counts (s.traverse enlist) (s.form.traverse fun _ => count) := by
  cases s with
  | select s => exact s.counts.map Statement.select
  | insert columns =>
    refine Counts.map (Counts.each (fun p => ?_) columns) Statement.insert
    exact (Counts.enlist p.2).map fun n => (p.1, n)
  | update settings conditions =>
    exact (Counts.each Setting.counts settings).bind fun ps =>
      (Counts.each Condition.counts conditions).map (Statement.update ps)

/-- The text of a request does not depend on the arguments of its statement. -/
theorem Request.sql_ofStatement_congr {s s' : Statement Value} (h : s.form = s'.form)
    (all : Bool) : (ofStatement s all).sql = (ofStatement s' all).sql := by
  have hcount (s : Statement Value) :
      (ofStatement s all).statement = (s.form.traverse (fun _ => count) 0).1 :=
    (congrArg Prod.fst (s.counts [])).symm
  have hstatement : (ofStatement s all).statement = (ofStatement s' all).statement := by
    rw [hcount, hcount, h]
  exact congrArg (fun q => Statement.text .quoted placeholder q) hstatement

end Catalog.Sql
