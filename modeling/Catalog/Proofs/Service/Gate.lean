import Catalog.Proofs.Entry.Rule
import Catalog.Proofs.Service.Course

namespace Catalog

def Session.exchanges {Q : Type} {R : Q → Type} {σ α : Type} (answer : (q : Q) → σ → R q × σ)
    (s : σ) : Session Q R α → List ((q : Q) × R q)
  | .done _ => []
  | .ask q next =>
    let reply := answer q s
    ⟨q, reply.1⟩ :: (next reply.1).exchanges answer reply.2

theorem Session.map_fst_exchanges {Q : Type} {R : Q → Type} {σ α : Type}
    (answer : (q : Q) → σ → R q × σ) (s : σ) (m : Session Q R α) :
    (m.exchanges answer s).map Sigma.fst = (m.run answer s).asked := by
  induction m generalizing s with
  | done a => rfl
  | ask q next ih => exact congrArg (q :: ·) (ih _ _)

namespace Service

def Call.Proper : Call → Prop
  | .list _ | .get _ | .delete _ | .restore _ => True
  | .create d => d.Proper
  | .update _ c => c.Proper

abbrev Exchange := (c : Store.Call) × Except Failure c.Answer

def log {σ α : Type} (answer : (c : Store.Call) → σ → Except Failure c.Answer × σ) (s : σ)
    (m : Course α) : List Exchange :=
  m.run.exchanges answer s

end Service

def Store.Call.writes : Store.Call → Bool
  | .list _ | .findById _ | .findByCode _ => false
  | .create .. | .update .. | .delete .. | .restore .. => true

namespace Service

/-- Whether the exchanges `before` a write are the lookup that it takes: that of the code which it
sets, where no entry was found but possibly the one with the id `except?`. -/
def Cleared (code? : Option String) (except? : Option Int64) (before : List Exchange) : Prop :=
  match code? with
  | some code => ∃ found : Option Entry, before = [⟨.findByCode code, .ok found⟩] ∧
      ∀ e, found = some e → some e.id = except?
  | none => before = []

/-- What a write has to come from: the call of the service that it carries out as it stands and for
its actor, after nothing but the lookup of its code. -/
def Gate (actor : String) (c : Call) (before : List Exchange) : Store.Call → Prop
  | .list _ | .findById _ | .findByCode _ => True
  | .create d a => c = .create d ∧ a = actor ∧ d.Proper ∧
      before = [⟨.findByCode d.code, .ok none⟩]
  | .update id changes a => c = .update id changes ∧ a = actor ∧ changes.Proper ∧
      Cleared changes.code (some id) before
  | .delete id a => c = .delete id ∧ a = actor ∧ before = []
  | .restore id a => c = .restore id ∧ a = actor ∧ before = []

/-- What is true of the exchanges of a call of the service with the store. -/
structure Gated (actor : String) (c : Call) (log : List Exchange) : Prop where
  gate : ∀ before x after, log = before ++ x :: after → x.1.writes = true →
    Gate actor c before x.1
  last : ∀ before x after, log = before ++ x :: after → x.1.writes = true → after = []
  once : log.countP (fun x => x.1.writes) ≤ 1
  silent : log = [] ↔ ¬ c.Proper

variable {actor : String} {c : Call} {lookups before after : List Exchange} {w x : Exchange}

theorem eq_of_split (hreads : ∀ y ∈ lookups, y.1.writes = false)
    (h : lookups ++ [w] = before ++ x :: after) (hx : x.1.writes = true) :
    before = lookups ∧ x = w ∧ after = [] := by
  obtain rfl | ⟨ys, y, rfl⟩ := after.eq_nil_or_concat
  · obtain ⟨rfl, hw⟩ := List.append_inj' h rfl
    cases hw
    exact ⟨rfl, rfl, rfl⟩
  · -- the write would be one of the lookups
    rw [List.concat_eq_append, ← List.cons_append, ← List.append_assoc] at h
    obtain ⟨rfl, _⟩ := List.append_inj' h rfl
    have hread := hreads x (List.mem_append_right before List.mem_cons_self)
    rw [hx] at hread
    cases hread

theorem countP_writes_eq_zero {log : List Exchange} (h : ∀ y ∈ log, y.1.writes = false) :
    log.countP (fun x => x.1.writes) = 0 :=
  List.countP_eq_zero.2 fun y hy => by rw [h y hy]; exact Bool.false_ne_true

theorem Gated.of_reads {log : List Exchange} (h : ∀ y ∈ log, y.1.writes = false)
    (hsilent : log = [] ↔ ¬ c.Proper) : Gated actor c log := by
  have hno (before : List Exchange) (x : Exchange) (after : List Exchange)
      (hlog : log = before ++ x :: after) (hx : x.1.writes = true) : False := by
    have hread := h x (hlog ▸ List.mem_append_right before List.mem_cons_self)
    rw [hx] at hread
    cases hread
  exact {
    gate := fun before x after hlog hx => (hno before x after hlog hx).elim
    last := fun before x after hlog hx => (hno before x after hlog hx).elim
    once := (countP_writes_eq_zero h).trans_le (Nat.zero_le 1)
    silent := hsilent }

theorem Gated.of_write (hreads : ∀ y ∈ lookups, y.1.writes = false)
    (hgate : Gate actor c lookups w.1) (hproper : c.Proper) : Gated actor c (lookups ++ [w]) where
  gate := by
    intro before x after h hx
    obtain ⟨rfl, rfl, _⟩ := eq_of_split hreads h hx
    exact hgate
  last := fun _ _ _ h hx => (eq_of_split hreads h hx).2.2
  once := by
    rw [List.countP_append, countP_writes_eq_zero hreads, Nat.zero_add]
    exact List.countP_le_length
  silent := iff_of_false (List.append_ne_nil_of_right_ne_nil _ (List.cons_ne_nil _ _))
    (not_not_intro hproper)

theorem Gated.empty (h : ¬ c.Proper) : Gated actor c [] :=
  .of_reads (List.forall_mem_nil _) (iff_of_true rfl h)

section Calls

variable {σ : Type} {answer : (c : Store.Call) → σ → Except Failure c.Answer × σ} {s : σ}

theorem gated_ask {q : Store.Call} (hproper : c.Proper)
    (hgate : q.writes = true → Gate actor c [] q) : Gated actor c (log answer s (ask q)) := by
  by_cases hq : q.writes = true
  · exact .of_write (w := ⟨q, (answer q s).1⟩) (List.forall_mem_nil _) (hgate hq) hproper
  · exact .of_reads (List.forall_mem_singleton.2 (Bool.eq_false_iff.2 hq))
      (iff_of_false (List.cons_ne_nil _ _) (not_not_intro hproper))

theorem gated_afterLookup {code? : Option String} {except? : Option Int64} {q : Store.Call}
    (hproper : c.Proper) (hgate : ∀ before, Cleared code? except? before → Gate actor c before q) :
    Gated actor c ((afterLookup code? except? q).exchanges answer s) := by
  cases code? with
  | none => exact gated_ask hproper fun _ => hgate [] rfl
  | some code =>
    rw [afterLookup, Session.exchanges]
    generalize answer (.findByCode code) s = found
    obtain ⟨found, s'⟩ := found
    dsimp only
    have hread : ∀ y ∈ [(⟨.findByCode code, found⟩ : Exchange)], y.1.writes = false :=
      List.forall_mem_singleton.2 rfl
    split
    · rename_i hpass
      obtain ⟨found, rfl, hown⟩ := passes_iff.1 hpass
      exact .of_write (w := ⟨q, (answer q s').1⟩) hread (hgate _ ⟨found, rfl, hown⟩) hproper
    · exact .of_reads hread (iff_of_false (List.cons_ne_nil _ _) (not_not_intro hproper))

theorem log_get (id : Int64) : log answer s (get id) = log answer s (ask (.findById id)) := by
  refine congrArg (_ :: ·) ?_
  generalize answer (.findById id) s = reply
  obtain ⟨_ | _ | e, s'⟩ := reply <;> rfl

theorem gated_create (d : Draft) : Gated actor (.create d) (log answer s (create actor d)) := by
  rw [log, run_create]
  split
  · rename_i hbroken
    have hproper : d.Proper := Draft.broken_eq_nil_iff.1 hbroken
    refine gated_afterLookup hproper fun before hcleared => ⟨rfl, rfl, hproper, ?_⟩
    obtain ⟨_ | e, hbefore, hnone⟩ := hcleared
    · exact hbefore
    · cases hnone e rfl
  · rename_i hbroken
    exact .empty (mt Draft.broken_eq_nil_iff.2 hbroken)

theorem gated_update (id : Int64) (changes : Changes) :
    Gated actor (.update id changes) (log answer s (update actor id changes)) := by
  by_cases hempty : changes.isEmpty = true
  · rw [update_of_isEmpty hempty]
    exact .empty fun hproper => (Changes.proper_iff.1 hproper).1 hempty
  · rw [log, run_update actor id hempty]
    split
    · rename_i hbroken
      have hproper : changes.Proper := Changes.proper_iff.2 ⟨hempty, hbroken⟩
      exact gated_afterLookup hproper fun before hcleared => ⟨rfl, rfl, hproper, hcleared⟩
    · rename_i hbroken
      exact .empty fun hproper => hbroken (Changes.proper_iff.1 hproper).2

/-- However the store answers, a call of the service asks it nothing if its input is not proper, and
writes once at most, last of all and as its gate allows. -/
theorem writes_gated {σ : Type} (answer : (c : Store.Call) → σ → Except Failure c.Answer × σ)
    (s : σ) (actor : String) (c : Call) :
    (log answer s (perform actor c)).map Sigma.fst = ((perform actor c).run.run answer s).asked ∧
      Gated actor c (log answer s (perform actor c)) := by
  refine ⟨Session.map_fst_exchanges answer s _, ?_⟩
  cases c with
  | list f => exact gated_ask trivial fun h => nomatch h
  | get id =>
    change Gated actor (.get id) (log answer s (get id))
    rw [log_get]
    exact gated_ask trivial fun h => nomatch h
  | create d => exact gated_create d
  | update id changes => exact gated_update id changes
  | delete id => exact gated_ask trivial fun _ => ⟨rfl, rfl, rfl⟩
  | restore id => exact gated_ask trivial fun _ => ⟨rfl, rfl, rfl⟩

end Calls

end Service

end Catalog
