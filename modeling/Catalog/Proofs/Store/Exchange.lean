import Catalog.Proofs.Store.Agreement

namespace Catalog

section Session

variable {Q : Type} {R : Q → Type} {α β σ : Type} {m : Session Q R α} {k n : Nat}

/-- Whether a session asks no more than a number of questions, whatever the answers. -/
def Session.AsksAtMost : Session Q R α → Nat → Prop
  | .done _, _ => True
  | .ask .., 0 => False
  | .ask _ next, n + 1 => ∀ r, (next r).AsksAtMost n

theorem Session.AsksAtMost.mono (h : m.AsksAtMost k) (hkn : k ≤ n) : m.AsksAtMost n := by
  induction m generalizing k n with
  | done a => trivial
  | ask q next ih =>
    cases k with
    | zero => cases h
    | succ k =>
      obtain ⟨n, rfl⟩ := Nat.exists_eq_add_of_lt hkn
      intro r
      exact ih r (h r) (Nat.le_add_right k n)

theorem Session.AsksAtMost.bind {f : α → Session Q R β} (hm : m.AsksAtMost k)
    (hf : ∀ a, (f a).AsksAtMost n) : (m.bind f).AsksAtMost (k + n) := by
  induction m generalizing k with
  | done a => exact (hf a).mono (Nat.le_add_left n k)
  | ask q next ih =>
    cases k with
    | zero => cases hm
    | succ k =>
      rw [Nat.succ_add]
      intro r
      exact ih r (hm r)

theorem Session.AsksAtMost.next_eq {q : Q} {next : R q → Session Q R α}
    (h : (Session.ask q next).AsksAtMost 1) (answer : (q : Q) → σ → R q × σ) (s : σ) :
    next (answer q s).1 = .done ((Session.ask q next).run answer s).result ∧
      (answer q s).2 = ((Session.ask q next).run answer s).state := by
  have hnext := h (answer q s).1
  simp only [run]
  cases hr : next (answer q s).1 with
  | done a => exact ⟨rfl, rfl⟩
  | ask q' next' =>
    rw [hr] at hnext
    cases hnext

end Session

namespace Store

open Sql

variable {α β : Type} {k n : Nat} {like : String → String → Bool} {s : Stamp} {t : Table}

theorem asksAtMost_bind {m : Conversation α} {f : α → Conversation β} (hm : m.run.AsksAtMost k)
    (hf : ∀ a, (f a).run.AsksAtMost n) : (m >>= f).run.AsksAtMost (k + n) := by
  change (m.run.bind (ExceptT.bindCont f)).AsksAtMost (k + n)
  apply hm.bind
  intro r
  cases r with
  | ok a => exact hf a
  | error failure => trivial

theorem asksAtMost_lift (r : Except Failure α) :
    (liftM r : Conversation α).run.AsksAtMost 0 := trivial

theorem asksAtMost_rows (r : Request) : (rows r).run.AsksAtMost 1 := by
  intro reply
  cases reply <;> trivial

theorem asksAtMost_ofDatabase (r : Except DatabaseError α) : (ofDatabase r).run.AsksAtMost 0 := by
  cases r <;> trivial

theorem asksAtMost_entries (r : Request) : (entries r).run.AsksAtMost 1 :=
  asksAtMost_bind (asksAtMost_rows r) fun _ => asksAtMost_ofDatabase _

theorem asksAtMost_firstEntry (r : Request) : (firstEntry r).run.AsksAtMost 1 :=
  asksAtMost_bind (asksAtMost_rows r) fun _ => asksAtMost_ofDatabase _

theorem next_bind {m : Conversation α} {f : α → Conversation β} {q : Request}
    {next : Reply → Session Request (fun _ => Reply) (Except Failure β)}
    (hm : m.run.AsksAtMost 1) (hasks : ∃ q next, m.run = .ask q next)
    (h : (m >>= f).run = .ask q next) :
    (Table.answer like s q t).2 = (m.on like s t).2 ∧
      next (Table.answer like s q t).1 =
        match (m.on like s t).1 with
        | .ok a => (f a).run
        | .error failure => .done (.error failure) := by
  obtain ⟨q', next', hasks⟩ := hasks
  change m.run.bind (ExceptT.bindCont f) = .ask q next at h
  rw [hasks] at h hm
  cases h
  obtain ⟨hnext, hstate⟩ := hm.next_eq (Table.answer like s) t
  simp only [Conversation.on, hasks]
  refine ⟨hstate, ?_⟩
  rw [hnext]
  cases ((Session.ask q next').run (Table.answer like s) t).result <;> rfl

theorem Written.asksAtMost_store (c : Call) : (Written.store c).run.AsksAtMost 1 := by
  cases c with
  | list f => exact asksAtMost_bind (asksAtMost_lift _) fun values => asksAtMost_entries _
  | findById id => exact asksAtMost_firstEntry _
  | findByCode code => exact asksAtMost_firstEntry _
  | create d actor =>
    refine asksAtMost_bind (n := 0) (asksAtMost_firstEntry _) fun created => ?_
    cases created <;> trivial
  | update id c actor => exact asksAtMost_bind (asksAtMost_firstEntry _) fun _ => asksAtMost_lift _
  | delete id actor =>
    refine asksAtMost_bind (n := 0) (asksAtMost_firstEntry _) fun deleted => ?_
    cases deleted <;> trivial
  | restore id actor =>
    refine asksAtMost_bind (n := 0) (asksAtMost_firstEntry _) fun restored => ?_
    cases restored <;> trivial

namespace Mapped

theorem asksAtMost_change (id : Int64) (settings : List (Column × Value)) :
    (change id settings).run.AsksAtMost 1 := by
  refine asksAtMost_bind (n := 0) (asksAtMost_firstEntry _) fun changed => ?_
  cases changed <;> trivial

theorem Amendment.asksAtMost_write {c : Call} (w : Amendment c) (id : Int64) :
    (w.write id).run.AsksAtMost 1 :=
  asksAtMost_bind (n := 0) (asksAtMost_change id w.settings) fun _ => trivial

def amendment? : (c : Call) → Option (Amendment c)
  | .update id c actor => some (.ofUpdate id c actor)
  | .delete id actor => some (.ofDelete id actor)
  | .restore id actor => some (.ofRestore id actor)
  | .list _ | .findById _ | .findByCode _ | .create .. => none

theorem asksAtMost_store {c : Call} (h : amendment? c = none) : (store c).run.AsksAtMost 1 := by
  cases c with
  | list f => exact asksAtMost_bind (asksAtMost_lift (listing f)) fun s => asksAtMost_entries _
  | findById id => exact asksAtMost_firstEntry _
  | findByCode code => exact asksAtMost_firstEntry _
  | create d actor =>
    refine asksAtMost_bind (n := 0) (asksAtMost_firstEntry _) fun created => ?_
    cases created <;> trivial
  | update id c actor => cases h
  | delete id actor => cases h
  | restore id actor => cases h

end Mapped

end Store

end Catalog
