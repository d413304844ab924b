import Catalog.Command
import Catalog.Proofs.Listing.Selection
import Catalog.Proofs.Store.Conversation

namespace Catalog.Store

open Sql

def received (reply : Reply) : Except Failure (List Entry) :=
  (reply.bind fun found => found.mapM Row.entry).mapError .ofDatabase

theorem received_ok (found : List Row) :
    received (.ok found) = (found.mapM Row.entry).mapError .ofDatabase := rfl

theorem run_entries (r : Request) :
    (entries r).run = .ask r fun reply => .done (received reply) := by
  have h (reply : Reply) : (do
      let found ← ofDatabase reply
      ofDatabase (found.mapM Row.entry) : Conversation (List Entry)).run =
      .done (received reply) := by
    cases reply with
    | error e => rfl
    | ok found => exact run_ofDatabase (found.mapM Row.entry)
  simp only [← h]
  rfl

/-- What a store selects for a listing. -/
def selection : Backend → Filter → Select Value
  | .orm => Mapped.selection
  | .sql => Written.selection

variable {f : Filter} {failure : Failure}

theorem run_refused (b : Backend) (h : f.refusal? = some failure) :
    (Command.storeFor b (.list f)).run = .done (.error failure) := by
  cases b with
  | orm =>
    change (Mapped.list f).run = _
    rw [Mapped.list, Mapped.listing_eq, h]
    rfl
  | sql =>
    change (Written.list f).run = _
    rw [Written.list, Filter.bindValues_arguments, h]
    rfl

theorem run_listing (b : Backend) (h : f.refusal? = none) :
    ∃ q : Request,
      (Command.storeFor b (.list f)).run = .ask q (fun reply => .done (received reply)) ∧
      q.bound? = some (.select (selection b f)) := by
  cases b with
  | orm =>
    have hrun : (Mapped.list f).run =
        (entries (.ofStatement (.select (Mapped.selection f)) true)).run := by
      rw [Mapped.list, Mapped.listing_eq, h]
      rfl
    exact ⟨_, hrun.trans (run_entries _), Request.bound?_ofStatement _ true⟩
  | sql =>
    have hrun : (Written.list f).run = (entries (Written.request (.select f.query)
        (f.present.map fun p => Filter.boundValue p.1 p.2) true)).run := by
      rw [Written.list, Filter.bindValues_arguments, h]
      rfl
    exact ⟨_, hrun.trans (run_entries _), Written.bound?_listing h⟩

/-- The two listings fail alike, for a limit or offset that is no count, with nothing sent. Or each
sends one statement, and the two select the same entries of every table. -/
theorem list_same_selection (f : Filter) :
    match f.refusal? with
    | some failure =>
      (Mapped.list f).run = .done (.error failure) ∧ (Written.list f).run = .done (.error failure)
    | none =>
      ∃ m w : Request,
        (Mapped.list f).run = .ask m (fun reply => .done (received reply)) ∧
        (Written.list f).run = .ask w (fun reply => .done (received reply)) ∧
        m.bound? = some (.select (Mapped.selection f)) ∧
        w.bound? = some (.select (Written.selection f)) ∧
        (∀ field n, f.countOf field = some n → (n.toUInt64.toNat : Int) = n.toInt) ∧
        ∀ like s t,
          Table.answer like s m t = (.ok ((f.listed like t.entries).map Entry.row), t) ∧
          Table.answer like s w t = (.ok ((f.listed like t.entries).map Entry.row), t) := by
  cases h : f.refusal? with
  | some failure =>
    rw [Mapped.list, Mapped.listing_eq, Written.list, Filter.bindValues_arguments, h]
    exact ⟨rfl, rfl⟩
  | none =>
    have hm : (Mapped.list f).run =
        (entries (.ofStatement (.select (Mapped.selection f)) true)).run := by
      rw [Mapped.list, Mapped.listing_eq, h]
      rfl
    have hw : (Written.list f).run = (entries (Written.request (.select f.query)
        (f.present.map fun p => Filter.boundValue p.1 p.2) true)).run := by
      rw [Written.list, Filter.bindValues_arguments, h]
      rfl
    have hmb := Request.bound?_ofStatement (.select (Mapped.selection f)) true
    have hwb := Written.bound?_listing h
    refine ⟨_, _, hm.trans (run_entries _), hw.trans (run_entries _), hmb, hwb, ?_, ?_⟩
    · intro field n hn
      exact toNat_toUInt64 (Filter.nonneg_of_countOf hn)
    · intro like s t
      constructor
      · rw [Table.answer, hmb]
        dsimp only
        rw [Mapped.execute_listing]
      · rw [Table.answer, hwb]
        dsimp only
        rw [Written.execute_listing]

end Catalog.Store
