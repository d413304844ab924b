import Catalog.Proofs.Migration.Database

namespace Catalog.Migration

variable {α β : Type} {now : Int64} {db db' kept : Database} {faults : Faults} {e : DatabaseError}

/-- Whether a course sends nothing but statements and is over with the first error of one. -/
def Plain : Session Step Step.Reply (Except DatabaseError α) → Prop
  | .done _ => True
  | .ask (.statement _) next =>
    (∀ e : DatabaseError, next (Except.error e : Except _ Effect) = .done (.error e)) ∧
      ∀ effect : Effect, Plain (next (Except.ok effect : Except DatabaseError _))
  | .ask _ _ => False

theorem plain_execute (s : Statement) : Plain (execute s).run :=
  ⟨fun _ => rfl, fun _ => trivial⟩

theorem plain_bind {m : Course α} {f : α → Course β} (hm : Plain m.run)
    (hf : ∀ a, Plain (f a).run) : Plain (m >>= f).run := by
  change Plain (m.run.bind (ExceptT.bindCont f))
  generalize m.run = session at hm ⊢
  induction session with
  | done r =>
    cases r with
    | ok a => exact hf a
    | error e => trivial
  | ask q next ih =>
    cases q with
    | statement s =>
      constructor
      · intro e
        exact congrArg (Session.bind · (ExceptT.bindCont f)) (hm.1 e)
      · intro effect
        exact ih (Except.ok effect) (hm.2 effect)
    | begin => cases hm
    | commit => cases hm
    | rollback => cases hm

theorem plain_forM {f : β → Course Unit} (hf : ∀ b, Plain (f b).run) (bs : List β) :
    Plain (bs.forM f).run := by
  induction bs with
  | nil => trivial
  | cons b bs ih => exact plain_bind (hf b) fun _ => ih

theorem plain_install : Plain install.run :=
  plain_bind (plain_execute _) fun _ => trivial

theorem plain_openRecord : Plain openRecord.run := by
  have hinstalls : Plain installs.run :=
    plain_bind plain_install fun _ => plain_bind plain_install fun _ =>
      plain_bind plain_install fun _ => plain_install
  have hread : Plain (recorded .readVersions).run :=
    plain_bind (plain_execute _) fun _ => trivial
  refine plain_bind hinstalls fun _ => plain_bind hread fun versions => ?_
  split
  · trivial
  · trivial

theorem plain_send (s : Statement) : Plain (do let _ ← execute s : Course Unit).run :=
  plain_bind (plain_execute s) fun _ => trivial

theorem plain_apply (m : Revision) : Plain (apply m).run := by
  refine plain_bind (plain_forM plain_send m.up) fun _ =>
    plain_bind (plain_execute _) fun effect => ?_
  split
  · trivial
  · trivial

theorem plain_revert (m : Revision) : Plain (revert m).run :=
  plain_bind (plain_forM plain_send m.down) fun _ => plain_send _

theorem plain_applyPending : Plain applyPending.run :=
  plain_bind plain_openRecord fun _ => plain_forM plain_apply _

theorem plain_revertLast : Plain revertLast.run :=
  plain_bind plain_openRecord fun _ => plain_forM plain_revert _

theorem plain_status : Plain status.run :=
  plain_bind (plain_bind (plain_execute _) fun _ => trivial) fun _ => trivial

theorem not_faultless (h : faults.headD none = some e) : ¬∀ f ∈ faults, f = none := by
  intro hnone
  cases faults with
  | nil => cases h
  | cons f faults =>
    cases hnone f List.mem_cons_self
    cases h

theorem faultless_tail (h : ∀ f ∈ faults, f = none) : ∀ f ∈ faults.tail, f = none := by
  intro f hf
  exact h f (List.mem_of_mem_tail hf)

section Steps

variable {s : Statement} {effect : Effect}
  {next : Step.Reply (.statement s) → Session Step Step.Reply (Except DatabaseError α)}

theorem run_fault (hm : Plain (.ask (.statement s) next)) (h : faults.headD none = some e) :
    (Session.ask (.statement s) next).run (Connection.answer now) (⟨kept, .underway db⟩, faults) =
      ⟨.error e, [.statement s], ⟨kept, .failed⟩, faults.tail⟩ := by
  simp only [Session.run, Connection.answer, h, hm.1, Connection.refuse]

theorem run_refused (kept : Database) (hm : Plain (.ask (.statement s) next))
    (h : faults.headD none = none) (hs : s.execute now db = .error e) :
    (Session.ask (.statement s) next).run (Connection.answer now) (⟨kept, .underway db⟩, faults) =
      ⟨.error e, [.statement s], ⟨kept, .failed⟩, faults.tail⟩ ∧
    (Session.ask (.statement s) next).run (Database.answer now) db =
      ⟨.error e, [.statement s], db⟩ := by
  constructor
  · simp only [Session.run, Connection.answer, Connection.execute, h, hs, hm.1]
  · simp only [Session.run, Database.answer, hs, hm.1]

theorem run_done (kept : Database)
    (next : Step.Reply (.statement s) → Session Step Step.Reply (Except DatabaseError α))
    (h : faults.headD none = none) (hs : s.execute now db = .ok (effect, db')) :
    (Session.ask (.statement s) next).run (Connection.answer now) (⟨kept, .underway db⟩, faults) =
      (let t := (next (Except.ok effect : Except DatabaseError Effect)).run (Connection.answer now)
        (⟨kept, .underway db'⟩, faults.tail)
      { t with asked := .statement s :: t.asked }) ∧
    (Session.ask (.statement s) next).run (Database.answer now) db =
      (let u := (next (Except.ok effect : Except DatabaseError Effect)).run (Database.answer now) db'
      { u with asked := .statement s :: u.asked }) := by
  constructor
  · simp only [Session.run, Connection.answer, Connection.execute, h, hs]
  · simp only [Session.run, Database.answer, hs]

end Steps

theorem run_underway (now : Int64) (kept : Database)
    {m : Session Step Step.Reply (Except DatabaseError α)} (hm : Plain m) (db : Database)
    (faults : Faults) :
    let t := m.run (Connection.answer now) (⟨kept, .underway db⟩, faults)
    let u := m.run (Database.answer now) db
    (∀ s ∈ t.asked, s ∈ u.asked) ∧
      (t.result = u.result ∧ t.state.1 = ⟨kept, .underway u.state⟩ ∨
        (∃ e, t.result = .error e) ∧ t.state.1 = ⟨kept, .failed⟩) ∧
      ((∀ f ∈ faults, f = none) → t.result = u.result ∧ ∀ f ∈ t.state.2, f = none) := by
  induction m generalizing db faults with
  | done r => exact ⟨fun _ hs => hs, .inl ⟨rfl, rfl⟩, fun h => ⟨rfl, h⟩⟩
  | ask q next ih =>
    cases q with
    | begin => cases hm
    | commit => cases hm
    | rollback => cases hm
    | statement s =>
      cases hf : faults.headD none with
      | some e =>
        dsimp only
        rw [run_fault hm hf]
        refine ⟨fun _ hs => ?_, .inr ⟨⟨e, rfl⟩, rfl⟩, fun h => absurd h (not_faultless hf)⟩
        cases List.mem_singleton.1 hs
        exact List.mem_cons_self
      | none =>
        -- as nothing has failed so far, the database is the same on both sides
        cases hs : s.execute now db with
        | error e =>
          obtain ⟨ht, hu⟩ := run_refused kept hm hf hs
          dsimp only
          rw [ht, hu]
          exact ⟨fun _ hs => hs, .inr ⟨⟨e, rfl⟩, rfl⟩, fun h => ⟨rfl, faultless_tail h⟩⟩
        | ok p =>
          obtain ⟨ht, hu⟩ := run_done kept next hf hs
          obtain ⟨hasked, houtcome, hfaultless⟩ := ih (Except.ok p.1) (hm.2 p.1) p.2 faults.tail
          dsimp only
          rw [ht, hu]
          refine ⟨fun q hq => ?_, houtcome, fun h => hfaultless (faultless_tail h)⟩
          rcases List.mem_cons.1 hq with rfl | hq
          · exact List.mem_cons_self
          · exact List.mem_cons_of_mem _ (hasked q hq)

def closing : Except DatabaseError α → Session Step Step.Reply (Except DatabaseError α)
  | .ok a => .ask .commit fun (r : Except DatabaseError Unit) =>
    match r with
    | .ok () => .done (.ok a)
    | .error e => .ask .rollback fun _ => .done (.error e)
  | .error e => .ask .rollback fun _ => .done (.error e)

theorem run_inTransaction (m : Course α) : (inTransaction m).run =
    .ask .begin fun (r : Except DatabaseError Unit) =>
      match r with
      | .ok () => m.run.bind closing
      | .error e => .done (.error e) := by
  refine congrArg (Session.ask Step.begin) (funext fun r => ?_)
  obtain e | ⟨⟩ := r
  · rfl
  · change Session.bind (Session.bind (Session.bind m.run _) _) _ = _
    rw [Session.bind_assoc, Session.bind_assoc]
    refine congrArg (Session.bind m.run) (funext fun r => ?_)
    cases r with
    | error e => rfl
    | ok a =>
      refine congrArg (Session.ask Step.commit) (funext fun r => ?_)
      obtain e | ⟨⟩ := r
      · rfl
      · rfl

theorem run_fresh : fresh.run =
    .ask .begin fun (r : Except DatabaseError Unit) =>
      match r with
      | .ok () => install.run.bind fun r =>
          .ask .rollback fun _ => .done (r.map fun () => ({} : Halt))
      | .error e => .done (.error e) := by
  refine congrArg (Session.ask Step.begin) (funext fun r => ?_)
  obtain e | ⟨⟩ := r
  · rfl
  · change Session.bind (Session.bind install.run _) _ = _
    rw [Session.bind_assoc]
    refine congrArg (Session.bind install.run) (funext fun r => ?_)
    obtain e | ⟨⟩ := r
    · rfl
    · rfl

theorem run_closing (now : Int64) (r : Except DatabaseError α) (c : Connection) (faults : Faults) :
    let t := (closing r).run (Connection.answer now) (c, faults)
    (∀ s, .statement s ∉ t.asked) ∧
      ((∃ a, r = .ok a ∧ t.result = .ok a ∧ t.state.1 = c.keep) ∨
        (∃ e, t.result = .error e) ∧ t.state.1 = .idle c.db) ∧
      ((∀ f ∈ faults, f = none) → t.result = r) := by
  cases r with
  | error e =>
    refine ⟨fun s hs => ?_, .inr ⟨⟨e, rfl⟩, rfl⟩, fun _ => rfl⟩
    cases List.mem_singleton.1 hs
  | ok a =>
    simp only [closing, Session.run, Connection.answer]
    cases hf : faults.headD none with
    | none =>
      refine ⟨fun s hs => ?_, .inl ⟨a, rfl, rfl, rfl⟩, fun _ => rfl⟩
      cases List.mem_singleton.1 hs
    | some e =>
      refine ⟨fun s hs => ?_, .inr ⟨⟨e, rfl⟩, rfl⟩, fun h => absurd h (not_faultless hf)⟩
      rcases List.mem_cons.1 hs with hs | hs
      · cases hs
      · cases List.mem_singleton.1 hs

/-- A course in a transaction either does what it does where nothing fails, or leaves the database
as it was. It never sends other statements, and it fails only if a step does. -/
theorem via_inTransaction {m : Course α} (hm : Plain m.run) (now : Int64) (faults : Faults)
    (db : Database) :
    let t := (inTransaction m).via now faults (.idle db)
    let u := m.on now db
    (∀ s, .statement s ∈ t.asked → .statement s ∈ u.asked) ∧
      ((∃ a, t.result = .ok a ∧ u.result = .ok a ∧ t.state.1 = .idle u.state) ∨
        (∃ e, t.result = .error e) ∧ t.state.1 = .idle db) ∧
      ((∀ f ∈ faults, f = none) → t.result = u.result) := by
  simp only [Course.via, Course.on, run_inTransaction, Session.run, Connection.answer]
  cases hf : faults.headD none with
  | some e =>
    -- the transaction does not begin
    refine ⟨fun s hs => ?_, .inr ⟨⟨e, rfl⟩, rfl⟩, fun h => absurd h (not_faultless hf)⟩
    cases List.mem_singleton.1 hs
  | none =>
    obtain ⟨hasked, houtcome, hfaultless⟩ := run_underway now db hm db faults.tail
    dsimp only [Connection.idle]
    rw [Session.run_bind]
    generalize m.run.run (Connection.answer now) (⟨db, .underway db⟩, faults.tail) = t at *
    generalize m.run.run (Database.answer now) db = u at *
    obtain ⟨r, asked, c, rest⟩ := t
    obtain ⟨hclosing, hclosed, hended⟩ := run_closing now r c rest
    dsimp only at *
    refine ⟨fun s hs => ?_, ?_, fun h => ?_⟩
    · rcases List.mem_cons.1 hs with hs | hs
      · cases hs
      · rcases List.mem_append.1 hs with hs | hs
        · exact hasked _ hs
        · exact absurd hs (hclosing s)
    · -- what has been done is kept only if the end succeeds too
      rcases houtcome with ⟨rfl, rfl⟩ | ⟨⟨e, rfl⟩, rfl⟩
      · rcases hclosed with ⟨a, hr, ha, hc⟩ | h
        · exact .inl ⟨a, ha, hr, hc⟩
        · exact .inr h
      · rcases hclosed with ⟨a, hr, _⟩ | h
        · cases hr
        · exact .inr h
    · obtain ⟨hr, hrest⟩ := hfaultless (faultless_tail h)
      rw [hended hrest, hr]

end Catalog.Migration
