import Catalog.Proofs.Session.Interleaving
import Catalog.Proofs.Store.Exchange
import Catalog.Proofs.Table.Audit

namespace Catalog

namespace Entry

def untimed (e : Entry) : Entry :=
  let time := Sql.Stamp.first.time
  { e with
    createdAt := time
    updatedAt := e.updatedAt.map fun _ => time
    deletedAt := e.deletedAt.map fun _ => time }

end Entry

namespace Store

open Sql

variable {like : String → String → Bool} {s : Stamp} {t u v : Table} {c : Call}

abbrev End := Ending (fun c : Call => Except Failure c.Answer) Table

structure Outcome where
  call : Call
  result : Except Failure call.Answer

namespace Outcome

def untimedAnswer : (c : Call) → c.Answer → c.Answer
  | .list _, entries => (show List Entry from entries).map Entry.untimed
  | .findById _, found | .findByCode _, found => (show Option Entry from found).map Entry.untimed
  | .create .., e | .update .., e | .restore .., e => Entry.untimed e
  | .delete .., () => ()

def untimed (o : Outcome) : Outcome :=
  ⟨o.call, o.result.map (untimedAnswer o.call)⟩

def ofEnd (e : End) : Outcome := ⟨e.call, e.result⟩

end Outcome

/-- Whether calls of the mapped store, each made after the end of the one before it, come to these
outcomes and leave this table. -/
def Sequential (like : String → String → Bool) : Table → List Outcome → Table → Prop
  | t, [], u => t = u
  | t, o :: os, u =>
    ∃ s v, Mapped.store.on like s o.call t = (o.result, v) ∧ Sequential like v os u

/-- Whether outcomes and a table may be, up to times, those of the same calls in some order, each
made after the end of the one before it. -/
def Serializable (like : String → String → Bool) (t : Table) (os : List Outcome) (u : Table) :
    Prop :=
  ∃ os' u', Sequential like t os' u' ∧ (os'.map Outcome.untimed).Perm (os.map Outcome.untimed) ∧
    u'.entries.map Entry.untimed = u.entries.map Entry.untimed

def Chained : Table → List End → Table → Prop
  | t, [], u => t = u
  | t, e :: es, u => e.before = t ∧ Chained e.after es u

/-- Whether a call has ended as it does when it has the table to itself. -/
def InTurn (like : String → String → Bool) (e : End) : Prop :=
  ∃ s, Mapped.store.on like s e.call e.before = (e.result, e.after)

/-- Whether a call that succeeds still has what it is about when its last statement comes. -/
def Undisturbed (e : End) : Prop :=
  (∃ a, e.result = .ok a) → ∃ s, admits s e.before e.call

theorem Sequential.serializable {os : List Outcome} (h : Sequential like t os u) :
    Serializable like t os u :=
  ⟨os, u, h, .refl _, rfl⟩

theorem Chained.append {es es' : List End} (h : Chained t es u) (h' : Chained u es' v) :
    Chained t (es ++ es') v := by
  induction es generalizing t with
  | nil =>
    cases h
    exact h'
  | cons e es ih => exact ⟨h.1, ih h.2⟩

theorem Chained.sequential {es : List End} (h : Chained t es u) (hturn : ∀ e ∈ es, InTurn like e) :
    Sequential like t (es.map Outcome.ofEnd) u := by
  induction es generalizing t with
  | nil => exact h
  | cons e es ih =>
    obtain ⟨hbefore, hrest⟩ := h
    obtain ⟨he, hes⟩ := List.forall_mem_cons.1 hturn
    obtain ⟨s, hs⟩ := he
    rw [hbefore] at hs
    exact ⟨s, e.after, hs, ih hrest hes⟩

theorem InTurn.undisturbed {e : End} (h : InTurn like e) : Undisturbed e := by
  rintro ⟨a, ha⟩
  obtain ⟨s, hs⟩ := h
  rw [Mapped.on_table, ha] at hs
  exact ⟨s, (machine_ok_iff e.call).1 ⟨a, congrArg Prod.fst hs⟩⟩

theorem inTurn_of_machine {r : Except Failure c.Answer} (h : machine like s c t = (r, u)) :
    InTurn like ⟨c, r, t, u⟩ :=
  ⟨s, (Mapped.on_table c).trans h⟩

namespace Mapped

/-- How far a call may have come, when `t` is the table and `m` is what is left of it. -/
inductive Stage (t : Table) {c : Call}
    (m : Session Request (fun _ => Reply) (Except Failure c.Answer)) : Prop where
  | begun (h : m = (store c).run)
  | found (w : Amendment c) (hid : w.id ∈ t.entries.map Entry.id) (h : m = (w.write w.id).run)
  | ended (r : Except Failure c.Answer) (h : m = .done r)

theorem Stage.mono {m : Session Request (fun _ => Reply) (Except Failure c.Answer)}
    (h : Stage t m) (htu : t.entries.map Entry.id ⊆ u.entries.map Entry.id) : Stage u m := by
  cases h with
  | begun h => exact .begun h
  | found w hid h => exact .found w (htu hid) h
  | ended r h => exact .ended r h

namespace Amendment

variable (w : Amendment c)

theorem machine_of_find?_none (h : (t.entries.find? fun e => e.id = w.id && w.wanted e) = none) :
    machine like s c t = (.error w.refusal, t) := by
  rw [w.machine_eq, Table.write, h]
  rfl

theorem next_lookup {q : Request}
    {next : Reply → Session Request (fun _ => Reply) (Except Failure c.Answer)}
    (h : (store c).run = .ask q next) :
    (Table.answer like s q t).2 = t ∧
      ((next (Table.answer like s q t).1 = .done (machine like s c t).1 ∧
        (machine like s c t).2 = t) ∨
      w.id ∈ t.entries.map Entry.id ∧
        next (Table.answer like s q t).1 = (w.write w.id).run) := by
  rw [w.store_eq] at h
  obtain ⟨hstate, hnext⟩ := next_bind (asksAtMost_firstEntry _) ⟨_, _, rfl⟩ h
  have hon : (find [.equal .id (.ofInt w.id), w.state]).on like s t =
      (.ok (t.entries.find? fun e => e.id = w.id && w.wanted e), t) :=
    on_findWhere w.meetsAll_lookup
  rw [hnext, hstate, ← find, hon]
  refine ⟨rfl, ?_⟩
  cases hfind : t.entries.find? fun e => e.id = w.id && w.wanted e with
  | none =>
    rw [w.machine_of_find?_none hfind]
    exact .inl ⟨rfl, rfl⟩
  | some e =>
    refine .inr ⟨List.mem_map.2 ⟨e, List.mem_of_find?_eq_some hfind, w.id_of_find? hfind⟩, ?_⟩
    change (w.write e.id).run = _
    rw [w.id_of_find? hfind]

theorem write_ok (hid : w.id ∈ t.entries.map Entry.id) :
    ∃ a, ((w.write w.id).on like s t).1 = .ok a := by
  obtain ⟨e, he, heid⟩ := List.mem_map.1 hid
  have hfound := List.find?_isSome (p := fun e => decide (e.id = w.id)).2
    ⟨e, he, decide_eq_true heid⟩
  obtain ⟨x, hx⟩ := Option.isSome_iff_exists.1 hfound
  rw [w.on_write, hx]
  exact ⟨_, rfl⟩

theorem map_id_write (id : Int64) :
    ((w.write id).on like s t).2.entries.map Entry.id = t.entries.map Entry.id := by
  rw [w.on_write]
  exact Table.map_id_modify (w.id_change s)

theorem inTurn_write_iff {r : Except Failure c.Answer} (hid : w.id ∈ t.entries.map Entry.id)
    (h : (w.write w.id).on like s t = (r, u)) :
    InTurn like ⟨c, r, t, u⟩ ↔ Undisturbed ⟨c, r, t, u⟩ := by
  refine ⟨InTurn.undisturbed, fun hu => ?_⟩
  have hok : ∃ a, ((w.write w.id).on like s t).1 = .ok a := w.write_ok hid
  obtain ⟨a, ha⟩ := hok
  obtain ⟨s', hs'⟩ := hu ⟨a, (congrArg Prod.fst h).symm.trans ha⟩
  cases hfind : t.entries.find? fun e => e.id = w.id && w.wanted e with
  | some e =>
    rw [w.on_write_of_find? hfind] at h
    exact inTurn_of_machine h
  | none =>
    have hok : ∃ a, (machine like s' c t).1 = .ok a := (machine_ok_iff c).2 hs'
    obtain ⟨b, hb⟩ := hok
    rw [w.machine_of_find?_none hfind] at hb
    cases hb

end Amendment

/-- What a statement may do for a call of which it leaves `m`: it is the last one, or else the table
stays as it is. -/
inductive Advance (like : String → String → Bool) (t u : Table) {c : Call}
    (m : Session Request (fun _ => Reply) (Except Failure c.Answer)) : Prop where
  | goesOn (hu : u = t) (hstage : Stage t m) (hasks : ∃ q next, m = .ask q next)
  | ends (r : Except Failure c.Answer) (hm : m = .done r)
    (hids : t.entries.map Entry.id ⊆ u.entries.map Entry.id)
    (hiff : InTurn like ⟨c, r, t, u⟩ ↔ Undisturbed ⟨c, r, t, u⟩)

theorem Advance.of_machine {m : Session Request (fun _ => Reply) (Except Failure c.Answer)}
    {r : Except Failure c.Answer} (hm : m = .done r) (h : machine like s c t = (r, u)) :
    Advance like t u m := by
  have hids : t.entries.map Entry.id ⊆ (machine like s c t).2.entries.map Entry.id :=
    (precedes_machine c).ids_subset
  rw [h] at hids
  exact .ends r hm hids (iff_of_true (inTurn_of_machine h) (inTurn_of_machine h).undisturbed)

theorem Advance.of_write {m : Session Request (fun _ => Reply) (Except Failure c.Answer)}
    {r : Except Failure c.Answer} (w : Amendment c) (hid : w.id ∈ t.entries.map Entry.id)
    (hm : m = .done r) (h : (w.write w.id).on like s t = (r, u)) : Advance like t u m := by
  have hids : ((w.write w.id).on like s t).2.entries.map Entry.id = t.entries.map Entry.id :=
    w.map_id_write w.id
  rw [h] at hids
  exact .ends r hm (fun _ hx => hids.symm ▸ hx) (w.inTurn_write_iff hid h)

theorem Stage.advance {q : Request}
    {next : Reply → Session Request (fun _ => Reply) (Except Failure c.Answer)}
    (h : Stage t (.ask q next)) (s : Stamp) :
    let reply := Table.answer like s q t
    Advance like t reply.2 (next reply.1) := by
  intro reply
  cases h with
  | begun h =>
    cases hw : amendment? c with
    | none =>
      have hasks := asksAtMost_store hw
      rw [← h] at hasks
      obtain ⟨hnext, hstate⟩ := hasks.next_eq (Table.answer like s) t
      apply Advance.of_machine hnext
      rw [← on_table, Behaviour.on, Conversation.on, ← h, hstate]
    | some w =>
      obtain ⟨ht, ⟨hnext, hm⟩ | ⟨hid, hnext⟩⟩ := w.next_lookup h.symm
      · exact .of_machine hnext (Prod.ext rfl (hm.trans ht.symm))
      · exact .goesOn ht (.found w hid hnext) ⟨_, _, hnext⟩
  | found w hid h =>
    have hasks := w.asksAtMost_write w.id
    rw [← h] at hasks
    obtain ⟨hnext, hstate⟩ := hasks.next_eq (Table.answer like s) t
    apply Advance.of_write w hid hnext
    rw [Conversation.on, ← h, hstate]
  | ended r h => cases h

end Mapped

abbrev Clients := Scene Request (fun _ => Reply) (fun c : Call => Except Failure c.Answer) Table

structure Orderly (like : String → String → Bool) (t : Table) (S : Clients) : Prop where
  stages : ∀ task ∈ S.tasks, Mapped.Stage S.state task.rest
  chained : Chained t S.endings S.state
  inTurn_iff : ∀ e ∈ S.endings, InTurn like e ↔ Undisturbed e

namespace Orderly

variable {S : Clients}

theorem start (like : String → String → Bool) (t : Table) : Orderly like t (Scene.start t) where
  stages := fun _ h => nomatch h
  chained := rfl
  inTurn_iff := fun _ h => nomatch h

theorem extend (h : Orderly like t S) {task : Task Request _ _} {tasks : List (Task Request _ _)}
    (htasks : ∀ x ∈ tasks, x ∈ S.tasks ∨ x = task)
    (hadvance : Mapped.Advance like S.state u task.rest) :
    Orderly like t ⟨u, tasks, S.endings ++ task.endings S.state u⟩ := by
  have hstages (hids : S.state.entries.map Entry.id ⊆ u.entries.map Entry.id)
      (hstage : Mapped.Stage u task.rest) : ∀ x ∈ tasks, Mapped.Stage u x.rest := by
    intro x hx
    rcases htasks x hx with hx | rfl
    · exact (h.stages x hx).mono hids
    · exact hstage
  cases hadvance with
  | goesOn hu hstage hasks =>
    obtain ⟨q, next, hm⟩ := hasks
    cases hu
    -- a call that goes on has not changed the table, so the chain has no gap
    rw [Task.endings_of_ask hm, List.append_nil]
    exact ⟨hstages (List.Subset.refl _) hstage, h.chained, h.inTurn_iff⟩
  | ends r hm hids hiff =>
    rw [Task.endings_of_done hm]
    refine ⟨hstages hids (.ended r hm), h.chained.append ⟨rfl, rfl⟩, ?_⟩
    exact List.forall_mem_append.2 ⟨h.inTurn_iff, List.forall_mem_singleton.2 hiff⟩

theorem begun (h : Orderly like t S) (c : Call) :
    Orderly like t (S.begun ⟨c, (Mapped.store c).run⟩) := by
  apply h.extend
  · intro x hx
    exact (List.mem_append.1 hx).imp_right List.mem_singleton.1
  · cases hr : (Mapped.store c).run with
    | ask q next => exact .goesOn rfl (.begun hr.symm) ⟨q, next, rfl⟩
    | done r =>
      have hm : machine like .first c S.state = (r, S.state) := by
        rw [← Mapped.on_table, Behaviour.on, Conversation.on, hr]
        rfl
      exact .of_machine rfl hm

theorem answered (h : Orderly like t S) {i : Nat} {q : Request}
    {next : Reply → Session Request (fun _ => Reply) (Except Failure c.Answer)}
    (htask : S.tasks[i]? = some ⟨c, .ask q next⟩) (s : Stamp) :
    let reply := Table.answer like s q S.state
    Orderly like t (S.answered i ⟨c, next reply.1⟩ reply.2) := by
  have hstage : Mapped.Stage S.state (.ask q next) := h.stages _ (List.mem_of_getElem? htask)
  exact h.extend (fun x hx => List.mem_or_eq_of_mem_set hx) (hstage.advance s)

end Orderly

theorem orderly_play (like : String → String → Bool) (t : Table)
    (moves : List (Move Call Stamp)) :
    Orderly like t ((Scene.start t).play (fun c => (Mapped.store c).run) (Table.answer like)
      moves) :=
  Scene.play_induction (fun _ c h => h.begun c)
    (fun _ _ _ _ _ s h htask => h.answered htask s) (.start like t) moves

/-- Calls of clients that use the table at the same time end in a chain, each with its last
statement. A call that succeeds although what it is about has changed since it looked is the only
one that does not end as it would alone, and without such calls all results and the table are those
of calls made one at a time. -/
theorem serializable_of_undisturbed (like : String → String → Bool) (t : Table)
    (moves : List (Move Call Stamp)) :
    let S := (Scene.start t).play (fun c => (Mapped.store c).run) (Table.answer like) moves
    Chained t S.endings S.state ∧
      (∀ e ∈ S.endings, InTurn like e ↔ Undisturbed e) ∧
      ((∀ e ∈ S.endings, Undisturbed e) →
        Serializable like t (S.endings.map Outcome.ofEnd) S.state) := by
  intro S
  have h : Orderly like t S := orderly_play like t moves
  refine ⟨h.chained, h.inTurn_iff, fun hu => ?_⟩
  have hturn : ∀ e ∈ S.endings, InTurn like e := fun e he => (h.inTurn_iff e he).2 (hu e he)
  exact (h.chained.sequential hturn).serializable

def lone : Table :=
  ⟨[Draft.entry ⟨"A", "first"⟩ .first "clerk"], List.nodup_singleton _⟩

theorem lookup_beside_delete :
    let moves := [.begins (.delete 1 "clerk"), .begins (.findById 1), .answers 0 Stamp.first,
      .answers 1 Stamp.first, .answers 0 Stamp.first]
    let S := (Scene.start lone).play (fun c => (Mapped.store c).run)
      (Table.answer (fun _ _ => false)) moves
    (∀ e ∈ S.endings, Undisturbed e) ∧
      Serializable (fun _ _ => false) lone (S.endings.map Outcome.ofEnd) S.state := by
  intro moves S
  have h : ∀ e ∈ S.endings, Undisturbed e := by
    refine List.forall_mem_cons.2 ⟨fun _ => ⟨.first, trivial⟩, ?_⟩
    refine List.forall_mem_singleton.2 fun _ => ⟨.first, ?_⟩
    exact ⟨_, List.mem_singleton_self _, rfl, rfl⟩
  exact ⟨h, (serializable_of_undisturbed _ lone moves).2.2 h⟩

theorem not_isActive_of_delete {id : Int64} {actor : String}
    (h : Mapped.store.on like s (.delete id actor) t = (.ok (), u)) :
    ∀ e ∈ u.entries, e.id = id → e.isActive = false := by
  rw [Mapped.on_table] at h
  cases hw : t.write (fun e => e.id = id && e.isActive) _ (Entry.id_deleted s.time actor)
    .notFound with
  | mk r v =>
    rw [machine, hw] at h
    obtain ⟨hr, rfl⟩ := Prod.mk.inj h
    rcases Table.write_cases hw with ⟨rfl, _⟩ | ⟨_, _, _, _, rfl⟩
    · cases hr
    · intro e he hid
      obtain ⟨x, _, rfl⟩ := List.mem_map.1 he
      by_cases hx : (decide (x.id = id) && x.isActive) = true
      · rw [if_pos hx]
        rfl
      · rw [if_neg hx] at hid ⊢
        rw [decide_eq_true hid, Bool.true_and] at hx
        exact Bool.eq_false_iff.2 hx

theorem length_le_one_of_deletes {id : Int64} {os : List Outcome}
    (hos : ∀ o ∈ os, ∃ actor, o = ⟨.delete id actor, .ok ()⟩) (h : Sequential like t os u) :
    os.length ≤ 1 := by
  match os with
  | [] => exact Nat.zero_le 1
  | [_] => exact Nat.le_refl 1
  | o :: o' :: os =>
    obtain ⟨actor, rfl⟩ := hos o List.mem_cons_self
    obtain ⟨actor', rfl⟩ := hos o' (List.mem_cons_of_mem _ List.mem_cons_self)
    obtain ⟨s, v, hfirst, s', v', hsecond, _⟩ := h
    rw [Mapped.on_table] at hsecond
    obtain ⟨e, he, hid, hactive⟩ := (machine_ok_iff (.delete id actor')).1
      ⟨_, congrArg Prod.fst hsecond⟩
    cases (not_isActive_of_delete hfirst e he hid).symm.trans hactive

theorem Outcome.eq_of_untimed_eq_delete {o : Outcome} {id : Int64} {actor : String}
    (h : o.untimed = ⟨.delete id actor, .ok ()⟩) : o = ⟨.delete id actor, .ok ()⟩ := by
  obtain ⟨c, r⟩ := o
  cases congrArg Outcome.call h
  cases r with
  | error failure => cases h
  | ok a => rfl

theorem not_serializable_of_deletes {id : Int64} {os : List Outcome}
    (hos : ∀ o ∈ os, ∃ actor, o = ⟨.delete id actor, .ok ()⟩) (hlength : 1 < os.length) :
    ¬ Serializable like t os u := by
  rintro ⟨os', u', hseq, hperm, _⟩
  have hos' : ∀ o ∈ os', ∃ actor, o = ⟨.delete id actor, .ok ()⟩ := by
    intro o ho
    obtain ⟨x, hx, hxo⟩ := List.mem_map.1 (hperm.subset (List.mem_map_of_mem ho))
    obtain ⟨actor, rfl⟩ := hos x hx
    exact ⟨actor, Outcome.eq_of_untimed_eq_delete hxo.symm⟩
  have hle := length_le_one_of_deletes hos' hseq
  have heq := hperm.length_eq
  rw [List.length_map, List.length_map] at heq
  omega

/-- Two clients look one entry up before either of them deletes it, and both succeed. -/
theorem deletes_overlapping :
    let calls : List Call := [.delete 1 "clerk", .delete 1 "porter"]
    let moves := calls.map Move.begins ++ [0, 1, 0, 1].map fun i => Move.answers i Stamp.first
    let S := (Scene.start lone).play (fun c => (Mapped.store c).run)
      (Table.answer (fun _ _ => false)) moves
    S.endings.map Outcome.ofEnd = [⟨.delete 1 "clerk", .ok ()⟩, ⟨.delete 1 "porter", .ok ()⟩] ∧
      ¬ Serializable (fun _ _ => false) lone (S.endings.map Outcome.ofEnd) S.state := by
  intro calls moves S
  have h : S.endings.map Outcome.ofEnd =
      [⟨.delete 1 "clerk", .ok ()⟩, ⟨.delete 1 "porter", .ok ()⟩] := by
    rfl
  refine ⟨h, ?_⟩
  rw [h]
  have hdeletes : ∀ o ∈ [(⟨.delete 1 "clerk", .ok ()⟩ : Outcome), ⟨.delete 1 "porter", .ok ()⟩],
      ∃ actor, o = ⟨.delete 1 actor, .ok ()⟩ :=
    List.forall_mem_cons.2 ⟨⟨"clerk", rfl⟩, List.forall_mem_singleton.2 ⟨"porter", rfl⟩⟩
  exact not_serializable_of_deletes hdeletes (Nat.lt_succ_self 1)

end Store

end Catalog
