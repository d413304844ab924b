import Catalog.Command
import Catalog.Proofs.Store.Exchange
import Catalog.Proofs.Store.Row

namespace Catalog

/-- Whether a store may come to a failure with no error of the connection and no limit on time. -/
def Failure.IsOwn : Failure → Prop
  | .unavailable _ | .timeout _ => False
  | _ => True

namespace Store

open Sql

variable {α β : Type}

/-- A conversation that is over with the first error and fails as that error says. All other
failures are its own. -/
def Heeds : Session Request (fun _ => Reply) (Except Failure α) → Prop
  | .done r => ∀ failure, r = .error failure → failure.IsOwn
  | .ask _ next =>
    (∀ e, next (.error e) = .done (.error (.ofDatabase e))) ∧ ∀ found, Heeds (next (.ok found))

theorem heeds_done_ok (a : α) : Heeds (.done (.ok a)) := by
  intro failure h
  cases h

theorem heeds_throw {failure : Failure} (h : failure.IsOwn) :
    Heeds (throw failure : Conversation α).run := by
  rintro _ ⟨⟩
  exact h

theorem heeds_bind {m : Conversation α} {f : α → Conversation β} (hm : Heeds m.run)
    (hf : ∀ a, Heeds (f a).run) : Heeds (m >>= f).run := by
  change Heeds (m.run.bind (ExceptT.bindCont f))
  generalize m.run = session at hm ⊢
  induction session with
  | done r =>
    cases r with
    | ok a => exact hf a
    | error failure =>
      rintro _ ⟨⟩
      exact hm failure rfl
  | ask q next ih =>
    constructor
    · intro e
      exact congrArg (Session.bind · (ExceptT.bindCont f)) (hm.1 e)
    · intro found
      exact ih (.ok found) (hm.2 found)

theorem heeds_rows (r : Request) : Heeds (rows r).run :=
  ⟨fun _ => rfl, fun found => heeds_done_ok found⟩

def IsNullColumn (e : DatabaseError) : Prop :=
  ∃ c, e = .nullColumn c

theorem isNullColumn_mapM_entry {found : List Row} {e : DatabaseError}
    (h : found.mapM Row.entry = .error e) : IsNullColumn e := by
  obtain ⟨_, r, _, _, _, hr⟩ := mapM_eq_error_iff.1 h
  exact Row.nullColumn_of_entry hr

theorem isNullColumn_mapM_entry? {r? : Option Row} {e : DatabaseError}
    (h : r?.mapM Row.entry = .error e) : IsNullColumn e := by
  cases r? with
  | none => cases h
  | some r => exact Row.nullColumn_of_entry (map_eq_error_iff.1 h)

theorem heeds_request (r : Request) {f : List Row → Except DatabaseError α}
    (hf : ∀ found e, f found = .error e → IsNullColumn e) :
    Heeds (do let found ← rows r; ofDatabase (f found) : Conversation α).run := by
  apply heeds_bind (heeds_rows r)
  intro found
  cases h : f found with
  | ok a => exact heeds_done_ok a
  | error e =>
    obtain ⟨c, rfl⟩ := hf found e h
    exact heeds_throw trivial

theorem heeds_entries (r : Request) : Heeds (entries r).run :=
  heeds_request r fun _ _ => isNullColumn_mapM_entry

theorem heeds_firstEntry (r : Request) : Heeds (firstEntry r).run :=
  heeds_request r fun _ _ => isNullColumn_mapM_entry?

theorem heeds_firstEntry_bind {r : Request} {f : Option Entry → Conversation α}
    (hsome : ∀ e, Heeds (f (some e)).run) (hnone : Heeds (f none).run) :
    Heeds (firstEntry r >>= f).run := by
  apply heeds_bind (heeds_firstEntry r)
  intro found
  cases found with
  | some e => exact hsome e
  | none => exact hnone

theorem isOwn_refusal {f : Filter} {failure : Failure} (h : f.refusal? = some failure) :
    failure.IsOwn := by
  obtain ⟨field, _, h⟩ := List.exists_of_findSome?_eq_some h
  obtain ⟨raw, _, h⟩ := Option.bind_eq_some_iff.1 h
  rw [Filter.rejected] at h
  split at h
  · cases h
  · split at h
    · cases h
    · cases h
      trivial

theorem heeds_okUnless {f : Filter} (a : α) :
    Heeds (liftM (okUnless f.refusal? a) : Conversation α).run := by
  cases h : f.refusal? with
  | none => exact heeds_done_ok a
  | some failure => exact heeds_throw (isOwn_refusal h)

theorem Written.heeds_store (c : Call) : Heeds (store c).run := by
  cases c with
  | list f =>
    change Heeds (list f).run
    rw [list, Filter.bindValues_arguments]
    exact heeds_bind (heeds_okUnless _) fun values => heeds_entries _
  | findById id => exact heeds_firstEntry _
  | findByCode code => exact heeds_firstEntry _
  | create d actor => exact heeds_firstEntry_bind heeds_done_ok (heeds_throw trivial)
  | update id c actor => exact heeds_firstEntry_bind heeds_done_ok (heeds_throw trivial)
  | delete id actor =>
    exact heeds_firstEntry_bind (fun _ => heeds_done_ok ()) (heeds_throw trivial)
  | restore id actor => exact heeds_firstEntry_bind heeds_done_ok (heeds_throw trivial)

namespace Mapped

theorem heeds_change (id : Int64) (settings : List (Column × Value)) :
    Heeds (change id settings).run :=
  heeds_firstEntry_bind heeds_done_ok (heeds_throw trivial)

theorem heeds_amendment {c : Call} (w : Amendment c) (hw : w.refusal.IsOwn) :
    Heeds (store c).run := by
  rw [w.store_eq]
  apply heeds_firstEntry_bind
  · intro e
    exact heeds_bind (heeds_change e.id w.settings) fun _ => heeds_done_ok _
  · exact heeds_throw hw

theorem heeds_store (c : Call) : Heeds (store c).run := by
  cases c with
  | list f =>
    change Heeds (list f).run
    rw [list, listing_eq]
    exact heeds_bind (heeds_okUnless _) fun s => heeds_entries _
  | findById id => exact heeds_firstEntry _
  | findByCode code => exact heeds_firstEntry _
  | create d actor => exact heeds_firstEntry_bind heeds_done_ok (heeds_throw trivial)
  | update id c actor => exact heeds_amendment (.ofUpdate id c actor) trivial
  | delete id actor => exact heeds_amendment (.ofDelete id actor) trivial
  | restore id actor => exact heeds_amendment (.ofRestore id actor) trivial

end Mapped

theorem heeds_storeFor (b : Backend) (c : Call) : Heeds (Command.storeFor b c).run := by
  cases b with
  | orm => exact Mapped.heeds_store c
  | sql => exact Written.heeds_store c

end Store

end Catalog
