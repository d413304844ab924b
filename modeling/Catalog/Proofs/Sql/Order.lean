import Catalog.Proofs.Sql.Arguments

namespace Catalog.Sql

variable {α β γ δ θ : Type}

/-- Numbering a part of a statement gives its arguments the next numbers, in their order. -/
def InOrder (number : StateM (List α) γ) (numbers : γ → List Nat) : Prop :=
  ∀ as, ∃ k, numbers (number as).1 = List.range' (as.length + 1) k ∧
    (number as).2.length = as.length + k

section Build

variable {number : StateM (List α) γ} {numbers : γ → List Nat} {number' : StateM (List α) δ}
  {numbers' : δ → List Nat} {whole : θ → List Nat}

theorem InOrder.enlist (a : α) : InOrder (enlist a) fun n => [n] := by
  intro as
  exact ⟨1, rfl, List.length_append⟩

theorem InOrder.plain {y : γ} (h : numbers y = []) :
    InOrder (pure y : StateM (List α) γ) numbers :=
  fun _ => ⟨0, h, rfl⟩

theorem InOrder.around (h : InOrder number numbers) {f : γ → θ}
    (hf : ∀ y, whole (f y) = numbers y) : InOrder (do return f (← number)) whole := by
  intro as
  obtain ⟨k, hk, hlength⟩ := h as
  exact ⟨k, (hf _).trans hk, hlength⟩

theorem InOrder.both (h : InOrder number numbers) (h' : InOrder number' numbers')
    {f : γ → δ → θ} (hf : ∀ y z, whole (f y z) = numbers y ++ numbers' z) :
    InOrder (do let y ← number; let z ← number'; return f y z) whole := by
  intro as
  obtain ⟨k, hk, hlength⟩ := h as
  obtain ⟨k', hk', hlength'⟩ := h' (number as).2
  refine ⟨k + k', ?_, ?_⟩
  · have hafter : as.length + k + 1 = as.length + 1 + k := Nat.add_right_comm ..
    rw [hlength, hafter] at hk'
    refine (hf _ _).trans ?_
    rw [hk]
    exact (congrArg _ hk').trans List.range'_append_1
  · exact hlength'.trans (by rw [hlength, Nat.add_assoc])

end Build

theorem InOrder.each {number : β → StateM (List α) γ} {numbers : γ → List Nat}
    (h : ∀ x, InOrder (number x) numbers) (xs : List β) :
    InOrder (xs.mapM number) fun ys => ys.flatMap numbers := by
  induction xs with
  | nil => exact .plain rfl
  | cons x xs ih =>
    rw [List.mapM_cons]
    exact (h x).both ih fun y ys => List.flatMap_cons

theorem InOrder.optional (a? : Option α) : InOrder (a?.mapM Sql.enlist) Option.toList := by
  cases a? with
  | none => exact .plain rfl
  | some a => exact (InOrder.enlist a).around fun n => rfl

theorem Pattern.inOrder (p : Pattern α) : InOrder (p.traverse enlist) Pattern.arguments := by
  cases p with
  | exactly a => exact (InOrder.enlist a).around fun n => rfl
  | around a => exact (InOrder.enlist a).around fun n => rfl

theorem Condition.inOrder (c : Condition α) : InOrder (c.traverse enlist) Condition.arguments := by
  cases c with
  | equal column a => exact (InOrder.enlist a).around fun n => rfl
  | isNull column => exact .plain rfl
  | isNotNull column => exact .plain rfl
  | anyLike alternatives =>
    have hp (p : Column × Pattern α) : InOrder (do return (p.1, ← p.2.traverse enlist))
        fun q : Column × Pattern Nat => q.2.arguments :=
      p.2.inOrder.around fun q => rfl
    exact (InOrder.each hp alternatives).around fun ps => rfl

theorem Setting.inOrder (p : Column × Setting α) :
    InOrder (do return (p.1, ← p.2.traverse enlist))
      fun q : Column × Setting Nat => q.2.arguments := by
  obtain ⟨c, a | _ | a⟩ := p
  · exact (InOrder.enlist a).around (f := fun n => (c, Setting.to n)) fun n => rfl
  · exact .plain rfl
  · exact (InOrder.enlist a).around (f := fun n => (c, Setting.toIfGiven n)) fun n => rfl

theorem Select.inOrder (s : Select α) : InOrder (s.traverse enlist) Select.arguments := by
  have hbounds : InOrder (do let l ← s.limit.mapM enlist; let o ← s.offset.mapM enlist; return (l, o))
      fun p : Option Nat × Option Nat => p.1.toList ++ p.2.toList :=
    (InOrder.optional s.limit).both (InOrder.optional s.offset) fun l o => rfl
  exact (InOrder.each Condition.inOrder s.conditions).both hbounds
    (f := fun conditions p => ({ conditions, limit := p.1, offset := p.2 } : Select Nat))
    fun conditions p => rfl

theorem Statement.inOrder (s : Statement α) :
    InOrder (s.traverse enlist) Statement.arguments := by
  cases s with
  | select s => exact s.inOrder.around fun s => rfl
  | insert columns =>
    have hp (p : Column × α) : InOrder (do return (p.1, ← enlist p.2))
        fun q : Column × Nat => [q.2] :=
      (InOrder.enlist p.2).around fun n => rfl
    exact (InOrder.each hp columns).around fun ps => List.map_eq_flatMap
  | update settings conditions =>
    exact (InOrder.each Setting.inOrder settings).both
      (InOrder.each Condition.inOrder conditions) fun ps cs => rfl

theorem Request.arguments_ofStatement (s : Statement Value) (all : Bool) :
    (ofStatement s all).statement.arguments =
      List.range' 1 (ofStatement s all).values.length := by
  obtain ⟨k, hk, hlength⟩ := s.inOrder []
  have hvalues : (ofStatement s all).values.length = k := hlength.trans (Nat.zero_add k)
  rw [hvalues]
  exact hk

end Catalog.Sql
