import Catalog.Command
import Catalog.Proofs.Sql.Content
import Catalog.Proofs.Store.Agreement
import Catalog.Proofs.Store.Question
import Catalog.Proofs.Store.Row

namespace Catalog.Store

open Sql

namespace Call

def found? : Reply → Option Int64
  | .ok (r :: _) => r.id
  | _ => none

/-- The number of the entry that the next statement of a call is about, after some replies: that of the
call, or that of the row that was found. -/
def about (before : List Reply) : Call → Option Int64
  | .findById id => some id
  | .update id .. | .delete id _ | .restore id _ =>
    match before with
    | [] => some id
    | reply :: _ => found? reply
  | .list _ | .findByCode _ | .create .. => none

def code? : Call → Option String
  | .findByCode code => some code
  | .create d _ => some d.code
  | .update _ c _ => c.code
  | _ => none

def text? : Call → Option String
  | .create d _ => some d.text
  | .update _ c _ => c.text
  | _ => none

def actor : Call → String
  | .create _ actor | .update _ _ actor | .delete _ actor | .restore _ actor => actor
  | _ => ""

def changes : Call → Bool
  | .update .. | .restore .. => true
  | _ => false

def deletes : Call → Bool
  | .delete .. => true
  | _ => false

/-- The value that is due in a column, where the call is about an entry with a number. -/
def due (id? : Option Int64) (c : Call) : Column → Value
  | .id => .bigint id?
  | .code => .text c.code?
  | .text => .text c.text?
  | .createdAt => .now
  | .createdBy => .ofText c.actor
  | .updatedAt => if c.changes then .now else .noTime
  | .updatedBy => .text (if c.changes then some c.actor else none)
  | .deletedAt => if c.deletes then .now else .noTime
  | .deletedBy => .text (if c.deletes then some c.actor else none)
  | .uuid => .freshUuid

/-- The columns that the next statement of a call writes. -/
def columns (b : Backend) (before : List Reply) (c : Call) : List Column :=
  match b, c, before with
  | .sql, .create .., _ => [.code, .text, .createdAt, .createdBy, .uuid]
  | .orm, .create .., _ => Column.all.tail
  | .sql, .update .., _ => [.code, .text, .updatedAt, .updatedBy]
  | .orm, .update _ c _, _ :: _ =>
    (c.code.map fun _ => Column.code).toList ++ (c.text.map fun _ => Column.text).toList ++
      [.updatedAt, .updatedBy]
  | .sql, .delete .., _ | .orm, .delete .., _ :: _ => [.deletedAt, .deletedBy]
  | .sql, .restore .., _ => [.deletedAt, .deletedBy, .updatedAt, .updatedBy]
  | .orm, .restore .., _ :: _ => [.updatedAt, .updatedBy, .deletedAt, .deletedBy]
  | _, _, _ => []

def keys : Call → List Column
  | .findByCode _ => [.code]
  | .list _ | .create .. => []
  | _ => [.id]

def contentOf (b : Backend) (columns : List Column) (id? : Option Int64) (c : Call) : Content where
  written := columns.map fun column => (column, c.due id? column)
  compared := c.keys.map fun column => (column, c.due id? column)
  limit := if b = .orm ∧ columns = [] then [.biguint (some 1)] else []
  returned := if columns = [] then [] else Column.all

def content (b : Backend) (before : List Reply) (c : Call) : Content :=
  c.contentOf b (c.columns b before) (c.about before)

end Call

variable {c : Call}

/-- Whether a request is as the next one of a call is to be. -/
def IsDue (b : Backend) (c : Call) (before : List Reply) (q : Request) : Prop :=
  q.Says (c.content b before)

theorem Written.asksOnly_store (hc : ∀ f, c ≠ .list f) :
    (store c).run.AsksOnly (IsDue .sql c) [] := by
  cases c with
  | list f => exact absurd rfl (hc f)
  | findById id => exact asksOnly_firstEntry_pure (Request.says_of_bound? rfl rfl rfl rfl)
  | findByCode code => exact asksOnly_firstEntry_pure (Request.says_of_bound? rfl rfl rfl rfl)
  | create d actor =>
    apply asksOnly_firstEntry (Request.says_of_bound? rfl rfl rfl rfl)
    intro _ e? _
    cases e? <;> trivial
  | update id c actor =>
    apply asksOnly_firstEntry (Request.says_of_bound? rfl rfl rfl rfl)
    intro _ e? _
    cases e? <;> trivial
  | delete id actor =>
    apply asksOnly_firstEntry (Request.says_of_bound? rfl rfl rfl rfl)
    intro _ e? _
    cases e? <;> trivial
  | restore id actor =>
    apply asksOnly_firstEntry (Request.says_of_bound? rfl rfl rfl rfl)
    intro _ e? _
    cases e? <;> trivial

namespace Mapped

theorem found?_of_first? {reply : Reply} {e : Entry} (h : first? reply = .ok (some e)) :
    Call.found? reply = some e.id := by
  cases reply with
  | error failure => cases h
  | ok found =>
    cases found with
    | nil => cases h
    | cons row rows =>
      obtain ⟨e', hentry, he⟩ := map_eq_ok_iff.1 h
      cases he
      rw [Row.entry_eq_ok_iff.1 hentry]
      rfl

theorem Amendment.asksOnly_store (w : Amendment c)
    (habout : ∀ reply, c.about [reply] = Call.found? reply)
    (hlookup : IsDue .orm c [] (.ofStatement (.select {
      conditions := [.equal .id (.ofInt w.id), w.state], limit := some (.biguint (some 1)) }) false))
    (hwritten : ∀ reply id, c.contentOf .orm (c.columns .orm [reply]) (some id) = {
      written := w.settings
      compared := [(.id, .ofInt id)]
      limit := []
      returned := Column.all }) :
    (store c).run.AsksOnly (IsDue .orm c) [] := by
  rw [w.store_eq]
  apply asksOnly_firstEntry hlookup
  intro reply e? he
  cases e? with
  | none => trivial
  | some e =>
    -- the row that was found may have any number, and the statement is about that one
    have hdue : IsDue .orm c [reply] (.ofStatement
        (.update (w.settings.map fun p => (p.1, .to p.2)) [.equal .id (.ofInt e.id)]) false) := by
      apply Request.says_ofStatement rfl
      rw [Statement.content?_update, Call.content, habout, found?_of_first? he, hwritten]
      rfl
    change (Mapped.change e.id w.settings >>= fun e => pure (w.answer e)).run.AsksOnly _ _
    rw [Mapped.change, bind_assoc]
    apply asksOnly_firstEntry hdue
    intro reply changed _
    cases changed <;> trivial

theorem asksOnly_store (hc : ∀ f, c ≠ .list f) :
    (store c).run.AsksOnly (IsDue .orm c) [] := by
  cases c with
  | list f => exact absurd rfl (hc f)
  | findById id => exact asksOnly_firstEntry_pure (Request.says_ofStatement rfl rfl)
  | findByCode code => exact asksOnly_firstEntry_pure (Request.says_ofStatement rfl rfl)
  | create d actor =>
    apply asksOnly_firstEntry (Request.says_ofStatement rfl rfl)
    intro _ e? _
    cases e? <;> trivial
  | update id c actor =>
    apply (Amendment.ofUpdate id c actor).asksOnly_store (fun _ => rfl)
    · exact Request.says_ofStatement rfl rfl
    · intro reply id'
      obtain ⟨code, text⟩ := c
      cases code <;> cases text <;> rfl
  | delete id actor =>
    apply (Amendment.ofDelete id actor).asksOnly_store (fun _ => rfl)
    · exact Request.says_ofStatement rfl rfl
    · exact fun _ _ => rfl
  | restore id actor =>
    apply (Amendment.ofRestore id actor).asksOnly_store (fun _ => rfl)
    · exact Request.says_ofStatement rfl rfl
    · exact fun _ _ => rfl

end Mapped

theorem asksOnly_storeFor (b : Backend) (hc : ∀ f, c ≠ .list f) :
    (Command.storeFor b c).run.AsksOnly (IsDue b c) [] := by
  cases b with
  | orm => exact Mapped.asksOnly_store hc
  | sql => exact Written.asksOnly_store hc

theorem sublist_columns (b : Backend) (before : List Reply) (d : Draft) (actor : String) :
    ((Call.create d actor).columns b before).Sublist Column.all := by
  cases b with
  | orm =>
    change Column.all.tail.Sublist Column.all
    exact List.tail_sublist _
  | sql =>
    change [Column.code, .text, .createdAt, .createdBy, .uuid].Sublist Column.all
    decide

theorem map_fst_written (b : Backend) (before : List Reply) (c : Call) :
    (c.content b before).written.map Prod.fst = c.columns b before := by
  rw [Call.content, Call.contentOf, List.map_map]
  exact List.map_id _

/-- The placeholders of a statement that is not a listing are numbered as its values are, and at each
column it has the value that is due there. An entry that is inserted comes back with all of its
columns, in an order that keeps that of the columns that were inserted. -/
theorem values_due (b : Backend) (limit : Duration) (hc : ∀ f, c ≠ .list f) (script : Script)
    (i : Nat) (q : Request)
    (hq : (perform (Command.storeFor b) limit c script).asked[i]? = some q) :
    q.Says (c.content b (script.replies i)) ∧
      ∀ d actor, c = .create d actor →
        (c.content b (script.replies i)).returned = Column.all ∧
          ((c.content b (script.replies i)).written.map Prod.fst).Sublist Column.all := by
  constructor
  · exact asked_of_asksOnly (asksOnly_storeFor b hc) limit ⟨0⟩ script hq
  · rintro d actor rfl
    rw [map_fst_written]
    refine ⟨?_, sublist_columns b _ d actor⟩
    cases b <;> rfl

def gone : Entry :=
  (Draft.entry ⟨"A", "first"⟩ .first "clerk").deleted Stamp.first.time "clerk"

theorem values_due_restore :
    let script : Script := [⟨⟨0⟩, .ok [gone.row]⟩]
    let asked := (perform (Command.storeFor .orm) ⟨5⟩ (.restore 1 "porter") script).asked
    (∀ f, Call.restore 1 "porter" ≠ .list f) ∧
      ∃ q, asked[1]? = some q ∧ q.Says {
        written := [(.updatedAt, .now), (.updatedBy, .ofText "porter"), (.deletedAt, .noTime),
          (.deletedBy, .text none)]
        compared := [(.id, .ofInt 1)]
        limit := []
        returned := Column.all } := by
  intro script asked
  have hc : ∀ f, Call.restore 1 "porter" ≠ .list f := fun f h => by cases h
  refine ⟨hc, _, rfl, ?_⟩
  exact (values_due .orm ⟨5⟩ hc script 1 _ rfl).1

/-- A new entry is on record as changed by nobody, and not all of the columns that come back are
inserted. -/
theorem create_without_change :
    let asked :=
      (perform (Command.storeFor .orm) ⟨5000000000⟩ (.create ⟨"A", "first"⟩ "clerk") []).asked
    ∃ q ∈ asked, ∃ content, q.read? q.layout = some content ∧
      (¬∀ v, (Column.updatedBy, v) ∈ content.written → v = .ofText "clerk") ∧
      content.written.length ≠ content.returned.length := by
  intro asked
  have hc : ∀ f, Call.create ⟨"A", "first"⟩ "clerk" ≠ .list f := fun f h => by cases h
  have hfirst : ∃ q, asked[0]? = some q := ⟨_, rfl⟩
  obtain ⟨q, hq⟩ := hfirst
  have hsays : q.Says ((Call.create ⟨"A", "first"⟩ "clerk").content .orm []) :=
    asked_of_asksOnly (asksOnly_storeFor .orm hc) _ _ [] hq
  refine ⟨q, List.mem_of_getElem? hq, _, hsays.read, ?_, by decide⟩
  intro h
  have hnone := h (.text none) (by decide)
  cases hnone

end Catalog.Store
