import Catalog.Sql.Request

namespace Catalog.Sql

variable {α β γ δ ε : Type}

def Pattern.arguments : Pattern α → List α
  | .exactly a | .around a => [a]

def Condition.arguments : Condition α → List α
  | .equal _ a => [a]
  | .isNull _ | .isNotNull _ => []
  | .anyLike alternatives => alternatives.flatMap fun p => p.2.arguments

def Setting.arguments : Setting α → List α
  | .to a | .toIfGiven a => [a]
  | .null => []

def Select.arguments (s : Select α) : List α :=
  s.conditions.flatMap Condition.arguments ++ (s.limit.toList ++ s.offset.toList)

def Statement.arguments : Statement α → List α
  | .select s => s.arguments
  | .insert columns => columns.map Prod.snd
  | .update settings conditions =>
    settings.flatMap (fun p => p.2.arguments) ++ conditions.flatMap Condition.arguments

def valueAt (values : List α) : Nat → Option α
  | 0 => none
  | n + 1 => values[n]?

/-- The statement of a request with the values in the places of their numbers, if each number has
a value. -/
def Request.bound? (r : Request) : Option (Statement Value) :=
  r.statement.traverse (valueAt r.values)

/-- Numbering a part of a statement puts its arguments at the end of the list, and out of any list
that goes on from there the part is read back. -/
def Numbers (number : StateM (List α) γ) (read : (Nat → Option α) → γ → Option β) (x : β)
    (arguments : List α) : Prop :=
  ∀ before, ∃ y, number before = (y, before ++ arguments) ∧
    ∀ after, read (valueAt (before ++ arguments ++ after)) y = some x

theorem Numbers.enlist (a : α) : Numbers (enlist a) (fun look n => look n) a [a] := by
  intro before
  refine ⟨before.length + 1, rfl, fun after => ?_⟩
  simp only [valueAt, List.append_assoc, List.getElem?_append_right (Nat.le_refl _), Nat.sub_self]
  rfl

theorem Numbers.plain {y : γ} {x : β} {read : (Nat → Option α) → γ → Option β}
    (h : ∀ look, read look y = some x) : Numbers (pure y) read x [] := by
  intro before
  exact ⟨y, by rw [List.append_nil]; rfl, fun after => h _⟩

section Build

variable {m : StateM (List α) γ} {read : (Nat → Option α) → γ → Option β} {x : β} {as : List α}
  {m' : StateM (List α) δ} {read' : (Nat → Option α) → δ → Option ε} {x' : ε} {as' : List α}
  {η θ : Type} {whole : η} {readWhole : (Nat → Option α) → θ → Option η}

theorem Numbers.around (h : Numbers m read x as) {f : γ → θ}
    (hr : ∀ look y, read look y = some x → readWhole look (f y) = some whole) :
    Numbers (do return f (← m)) readWhole whole as := by
  intro before
  obtain ⟨y, hy, hx⟩ := h before
  refine ⟨f y, ?_, fun after => hr _ _ (hx after)⟩
  change (let p := m before; (f p.1, p.2)) = _
  rw [hy]

theorem Numbers.both (h : Numbers m read x as) (h' : Numbers m' read' x' as') {f : γ → δ → θ}
    (hr : ∀ look y z, read look y = some x → read' look z = some x' →
      readWhole look (f y z) = some whole) :
    Numbers (do let y ← m; let z ← m'; return f y z) readWhole whole (as ++ as') := by
  intro before
  obtain ⟨y, hy, hx⟩ := h before
  obtain ⟨z, hz, hx'⟩ := h' (before ++ as)
  refine ⟨f y z, ?_, fun after => hr _ _ _ ?_ ?_⟩
  · change (let p := m before; let q := m' p.2; (f p.1 q.1, q.2)) = _
    rw [hy]
    dsimp only
    rw [hz, List.append_assoc]
  · have hx := hx (as' ++ after)
    simpa only [List.append_assoc] using hx
  · have hx' := hx' after
    simpa only [List.append_assoc] using hx'

end Build

theorem Numbers.each {number : β → StateM (List α) γ} {read : (Nat → Option α) → γ → Option β}
    {arguments : β → List α} (h : ∀ x, Numbers (number x) read x (arguments x)) (xs : List β) :
    Numbers (xs.mapM number) (fun look ys => ys.mapM (read look)) xs (xs.flatMap arguments) := by
  induction xs with
  | nil => exact .plain fun _ => rfl
  | cons x xs ih =>
    rw [List.mapM_cons, List.flatMap_cons]
    apply (h x).both ih
    intro look y ys hy hys
    rw [List.mapM_cons, hy, hys]
    rfl

theorem Numbers.optional {number : β → StateM (List α) γ}
    {read : (Nat → Option α) → γ → Option β} {arguments : β → List α}
    (h : ∀ x, Numbers (number x) read x (arguments x)) (x? : Option β) :
    Numbers (x?.mapM number) (fun look y? => y?.mapM (read look)) x?
      (x?.toList.flatMap arguments) := by
  cases x? with
  | none => exact .plain fun _ => rfl
  | some x =>
    rw [Option.toList_some, List.flatMap_singleton]
    apply (h x).around
    intro look y hy
    change some <$> read look y = _
    rw [hy]
    rfl

theorem Pattern.numbers (p : Pattern α) :
    Numbers (p.traverse enlist) (fun look q => q.traverse look) p p.arguments := by
  cases p with
  | exactly a =>
    apply (Numbers.enlist a).around
    intro look n hn
    rw [Pattern.traverse, hn]
    rfl
  | around a =>
    apply (Numbers.enlist a).around
    intro look n hn
    rw [Pattern.traverse, hn]
    rfl

theorem Condition.numbers (c : Condition α) :
    Numbers (c.traverse enlist) (fun look d => d.traverse look) c c.arguments := by
  cases c with
  | equal column a =>
    apply (Numbers.enlist a).around
    intro look n hn
    rw [Condition.traverse, hn]
    rfl
  | isNull column => exact .plain fun _ => rfl
  | isNotNull column => exact .plain fun _ => rfl
  | anyLike alternatives =>
    have hp (p : Column × Pattern α) :
        Numbers (do return (p.1, ← p.2.traverse enlist))
          (fun look q => do return (q.1, ← q.2.traverse look)) p p.2.arguments := by
      apply (Pattern.numbers p.2).around
      intro look q hq
      rw [hq]
      rfl
    apply (Numbers.each hp alternatives).around
    intro look ps hps
    rw [Condition.traverse, hps]
    rfl

theorem Setting.numbers (p : Column × Setting α) :
    Numbers (do return (p.1, ← p.2.traverse enlist))
      (fun look q => do return (q.1, ← q.2.traverse look)) p p.2.arguments := by
  obtain ⟨c, a | _ | a⟩ := p
  · apply (Numbers.enlist a).around (f := fun n => (c, Setting.to n))
    intro look n hn
    simp only [Setting.traverse, hn]
    rfl
  · exact .plain fun _ => rfl
  · apply (Numbers.enlist a).around (f := fun n => (c, Setting.toIfGiven n))
    intro look n hn
    simp only [Setting.traverse, hn]
    rfl

theorem Select.numbers (s : Select α) :
    Numbers (s.traverse enlist) (fun look r => r.traverse look) s s.arguments := by
  have hc := Numbers.each (Condition.numbers (α := α)) s.conditions
  have hl := Numbers.optional (Numbers.enlist (α := α)) s.limit
  have ho := Numbers.optional (Numbers.enlist (α := α)) s.offset
  simp only [List.flatMap_singleton'] at hl ho
  have hb : Numbers (do let l ← s.limit.mapM enlist; let o ← s.offset.mapM enlist; return (l, o))
      (fun look p => do return (← p.1.mapM look, ← p.2.mapM look)) (s.limit, s.offset)
      (s.limit.toList ++ s.offset.toList) := by
    apply hl.both ho
    intro look l o hl ho
    rw [hl, ho]
    rfl
  apply hc.both hb
    (f := fun conditions p => ({ conditions, limit := p.1, offset := p.2 } : Select Nat))
  intro look cs p hcs hp
  obtain ⟨l, hl, hp⟩ := Option.bind_eq_some_iff.1 hp
  obtain ⟨o, ho, hp⟩ := Option.bind_eq_some_iff.1 hp
  cases hp
  rw [Select.traverse, hcs, hl, ho]
  rfl

theorem Statement.numbers (s : Statement α) :
    Numbers (s.traverse enlist) (fun look r => r.traverse look) s s.arguments := by
  cases s with
  | select s =>
    apply (Select.numbers s).around
    intro look r hr
    rw [Statement.traverse, hr]
    rfl
  | insert columns =>
    have hp (p : Column × α) : Numbers (do return (p.1, ← enlist p.2))
        (fun look q => do return (q.1, ← look q.2)) p [p.2] := by
      apply (Numbers.enlist p.2).around
      intro look n hn
      rw [hn]
      rfl
    have h := Numbers.each hp columns
    rw [← List.map_eq_flatMap] at h
    apply h.around
    intro look ps hps
    rw [Statement.traverse, hps]
    rfl
  | update settings conditions =>
    apply (Numbers.each Setting.numbers settings).both (Numbers.each Condition.numbers conditions)
    intro look ps cs hps hcs
    rw [Statement.traverse, hps, hcs]
    rfl

/-- A request for a statement that holds its values itself stands for that statement. -/
theorem Request.bound?_ofStatement (s : Statement Value) (all : Bool) :
    (Request.ofStatement s all).bound? = some s := by
  obtain ⟨y, hy, hs⟩ := s.numbers []
  have hs := hs []
  rw [List.append_nil] at hs
  change Statement.traverse (valueAt (s.traverse enlist []).2) (s.traverse enlist []).1 = some s
  rw [hy]
  exact hs

end Catalog.Sql
