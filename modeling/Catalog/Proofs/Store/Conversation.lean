import Catalog.Proofs.Store.Row
import Catalog.Proofs.Table.Execution

namespace Catalog.Store

open Sql

variable {like : String → String → Bool} {s : Stamp} {t u : Table} {α β : Type}

/-- What comes of a conversation with a table that nobody else uses. -/
def Conversation.on (like : String → String → Bool) (s : Stamp) (m : Conversation α) (t : Table) :
    Except Failure α × Table :=
  let trace := m.run.run (Table.answer like s) t
  (trace.result, trace.state)

def Behaviour.on (store : Behaviour) (like : String → String → Bool) (s : Stamp) (c : Call)
    (t : Table) : Except Failure c.Answer × Table :=
  (store c).on like s t

theorem on_lift (r : Except Failure α) : (liftM r : Conversation α).on like s t = (r, t) := rfl

theorem run_ofDatabase (r : Except DatabaseError α) :
    (ofDatabase r).run = .done (r.mapError Failure.ofDatabase) := by
  cases r <;> rfl

theorem on_ofDatabase (r : Except DatabaseError α) :
    (ofDatabase r).on like s t = (r.mapError .ofDatabase, t) := by
  rw [Conversation.on, run_ofDatabase]
  rfl

theorem on_bind (m : Conversation α) (f : α → Conversation β) :
    (m >>= f).on like s t =
      match m.on like s t with
      | (.ok a, u) => (f a).on like s u
      | (.error e, u) => (.error e, u) := by
  have h := Session.run_bind (Table.answer like s) t m.run (ExceptT.bindCont f)
  have hm : (m >>= f).on like s t =
      (((m.run.bind (ExceptT.bindCont f)).run (Table.answer like s) t).result,
        ((m.run.bind (ExceptT.bindCont f)).run (Table.answer like s) t).state) := rfl
  rw [hm, h]
  simp only [Conversation.on]
  cases (m.run.run (Table.answer like s) t).result <;> rfl

theorem on_rows (r : Request) :
    (rows r).on like s t =
      ((Table.answer like s r t).1.mapError .ofDatabase, (Table.answer like s r t).2) := by
  rw [← on_ofDatabase]
  rfl

theorem on_request {r : Request} {q : Statement Value} (hq : r.bound? = some q)
    (f : List Row → Except DatabaseError α) :
    (do let found ← rows r; ofDatabase (f found) : Conversation α).on like s t =
      match q.execute like s t with
      | .ok (es, u) => ((f (es.map Entry.row)).mapError .ofDatabase, u)
      | .error e => (.error (.ofDatabase e), t) := by
  rw [on_bind, on_rows]
  simp only [Table.answer, hq]
  cases q.execute like s t with
  | ok p => exact on_ofDatabase _
  | error e => rfl

theorem on_firstEntry {r : Request} {q : Statement Value} (hq : r.bound? = some q) :
    (firstEntry r).on like s t =
      match q.execute like s t with
      | .ok (es, u) => (.ok es.head?, u)
      | .error e => (.error (.ofDatabase e), t) := by
  rw [firstEntry, on_request hq]
  cases q.execute like s t with
  | ok p =>
    dsimp only
    rw [List.head?_map]
    cases p.1.head? <;> rfl
  | error e => rfl

theorem on_entries {r : Request} {q : Statement Value} (hq : r.bound? = some q) :
    (entries r).on like s t =
      match q.execute like s t with
      | .ok (es, u) => (.ok es, u)
      | .error e => (.error (.ofDatabase e), t) := by
  rw [entries, on_request hq]
  cases q.execute like s t with
  | ok p =>
    dsimp only
    rw [Row.mapM_entry_eq_ok_iff.2 rfl]
    rfl
  | error e => rfl

end Catalog.Store
