import Catalog.Proofs.Migration.Transaction

namespace Catalog.Migration

variable {α β : Type} {now time : Int64} {db : Database}

theorem run_courseBind {σ : Type} (answer : (q : Step) → σ → q.Reply × σ) (st : σ) (m : Course α)
    (f : α → Course β) :
    (m >>= f).run.run answer st =
      let t := m.run.run answer st
      match t.result with
      | .ok a =>
        let u := (f a).run.run answer t.state
        ⟨u.result, t.asked ++ u.asked, u.state⟩
      | .error e => ⟨.error e, t.asked, t.state⟩ := by
  change (m.run.bind (ExceptT.bindCont f)).run answer st = _
  rw [Session.run_bind]
  generalize m.run.run answer st = t
  obtain ⟨r, asked, st'⟩ := t
  cases r with
  | ok a => rfl
  | error e =>
    change Session.Trace.mk _ (asked ++ []) _ = _
    rw [List.append_nil]
    rfl

theorem on_bind (m : Course α) (f : α → Course β) :
    (m >>= f).on now db =
      let t := m.on now db
      match t.result with
      | .ok a =>
        let u := (f a).on now t.state
        ⟨u.result, t.asked ++ u.asked, u.state⟩
      | .error e => ⟨.error e, t.asked, t.state⟩ :=
  run_courseBind (Database.answer now) db m f

def Statement.InForce (db : Database) : Statement → Prop
  | createTable t => t ∈ db.tables
  | createIndex name table column => ⟨name, table, column⟩ ∈ db.indexes
  | _ => True

def Revision.InForce (m : Revision) (db : Database) : Prop := ∀ s ∈ m.up, s.InForce db

def entryIndex : Index := ⟨"idx_example_deleted_at", entryTable.name, Sql.Column.deletedAt.name⟩

theorem inForce_createEntries :
    createEntries.InForce db ↔ entryTable ∈ db.tables ∧ entryIndex ∈ db.indexes := by
  constructor
  · intro h
    exact ⟨h _ List.mem_cons_self, h _ (List.mem_cons_of_mem _ List.mem_cons_self)⟩
  · rintro ⟨htable, hindex⟩ s hs
    rcases List.mem_cons.1 hs with rfl | hs
    · exact htable
    · cases List.mem_singleton.1 hs
      exact hindex

namespace Database

def installed : Database := ⟨[versionTable], [], []⟩

def migrated (time : Int64) : Database :=
  ⟨[versionTable, entryTable], [entryIndex], [⟨createEntries.name, time⟩]⟩

def withRecord (db : Database) : Database :=
  if db.hasTable versionTable.name then db
  else { db with tables := db.tables ++ [versionTable], versions := [] }

/-- Whether there is nothing but possibly the table of versions. -/
def IsBare (db : Database) : Prop := db = .empty ∨ db = .installed

end Database

open Database

def opening : List Step :=
  .replicate 4 (.statement (.createTable versionTable)) ++ [.statement .readVersions]

theorem openRecord_empty : openRecord.on now .empty = ⟨.ok [], opening, .installed⟩ := by
  rw [openRecord, on_bind]
  rfl

theorem openRecord_installed : openRecord.on now .installed = ⟨.ok [], opening, .installed⟩ := by
  rw [openRecord, on_bind]
  rfl

theorem openRecord_migrated : openRecord.on now (.migrated time) =
    ⟨.ok [createEntries.name], opening, .migrated time⟩ := by
  rw [openRecord, on_bind]
  rfl

theorem openRecord_of_isBare (h : db.IsBare) :
    openRecord.on now db = ⟨.ok [], opening, .installed⟩ := by
  rcases h with rfl | rfl
  · exact openRecord_empty
  · exact openRecord_installed

theorem applyPending_of_isBare (now : Int64) (h : db.IsBare) :
    (applyPending.on now db).result = .ok () ∧
      (applyPending.on now db).state = .migrated now := by
  rw [applyPending, on_bind, openRecord_of_isBare h]
  exact ⟨rfl, rfl⟩

theorem applyPending_migrated :
    applyPending.on now (.migrated time) = ⟨.ok (), opening, .migrated time⟩ := by
  rw [applyPending, on_bind, openRecord_migrated]
  rfl

theorem revertLast_of_isBare (h : db.IsBare) :
    revertLast.on now db = ⟨.ok (), opening, .installed⟩ := by
  rw [revertLast, on_bind, openRecord_of_isBare h]
  rfl

theorem revertLast_migrated :
    (revertLast.on now (.migrated time)).result = .ok () ∧
      (revertLast.on now (.migrated time)).state = .installed := by
  rw [revertLast, on_bind, openRecord_migrated]
  exact ⟨rfl, rfl⟩

inductive Direction where
  | up
  | down
  deriving DecidableEq

def Direction.course : Direction → Course Unit
  | up => Migration.up
  | down => Migration.down

def Direction.Reaches : Direction → Database → Prop
  | up, db => ∃ time, db = .migrated time
  | down, db => db = .installed

structure Attempt where
  direction : Direction
  now : Int64
  faults : Faults

namespace Attempt

def via (a : Attempt) (c : Connection) :
    Session.Trace Step (Connection × Faults) (Except DatabaseError Unit) :=
  a.direction.course.via a.now a.faults c

def after (a : Attempt) (c : Connection) : Connection := (a.via c).state.1

def afterAll (c : Connection) (as : List Attempt) : Connection := as.foldl (fun c a => a.after c) c

end Attempt

/-- Whether a database is one that attempts lead to. -/
def Database.IsSettled (db : Database) : Prop := db.IsBare ∨ ∃ time, db = .migrated time

theorem Direction.Reaches.isSettled {d : Direction} (h : d.Reaches db) : db.IsSettled := by
  cases d with
  | up => exact .inr h
  | down => exact .inl (.inr h)

def Direction.body : Direction → Course Unit
  | up => applyPending
  | down => revertLast

theorem Direction.plain_body (d : Direction) : Plain d.body.run := by
  cases d with
  | up => exact plain_applyPending
  | down => exact plain_revertLast

theorem Direction.on_body (d : Direction) (h : db.IsSettled) :
    (d.body.on now db).result = .ok () ∧ d.Reaches (d.body.on now db).state := by
  rcases h with h | ⟨time, rfl⟩
  · cases d with
    | up =>
      obtain ⟨hresult, hstate⟩ := applyPending_of_isBare now h
      exact ⟨hresult, now, hstate⟩
    | down =>
      rw [body, revertLast_of_isBare h]
      exact ⟨rfl, rfl⟩
  · cases d with
    | up =>
      rw [body, applyPending_migrated]
      exact ⟨rfl, time, rfl⟩
    | down => exact revertLast_migrated

theorem Attempt.via_eq (a : Attempt) (c : Connection) :
    a.via c = (inTransaction a.direction.body).via a.now a.faults c := by
  obtain ⟨_ | _, now, faults⟩ := a
  · rfl
  · rfl

/-- An attempt reaches what it is for, or else it fails and changes nothing. -/
theorem Attempt.after_isSettled (a : Attempt) (h : db.IsSettled) :
    ((a.via (.idle db)).result = .ok () ∧
      ∃ db', a.after (.idle db) = .idle db' ∧ a.direction.Reaches db') ∨
    ((∃ e, (a.via (.idle db)).result = .error e) ∧ a.after (.idle db) = .idle db) := by
  rw [after, via_eq]
  obtain ⟨_, houtcome, _⟩ := via_inTransaction a.direction.plain_body a.now a.faults db
  rcases houtcome with ⟨⟨⟩, hresult, _, hstate⟩ | h
  · exact .inl ⟨hresult, _, hstate, (a.direction.on_body h).2⟩
  · exact .inr h

theorem Attempt.reaches_of_ok (a : Attempt) (h : db.IsSettled)
    (hok : (a.via (.idle db)).result = .ok ()) :
    ∃ db', a.after (.idle db) = .idle db' ∧ a.direction.Reaches db' := by
  rcases a.after_isSettled h with ⟨_, hreaches⟩ | ⟨⟨e, herror⟩, _⟩
  · exact hreaches
  · cases hok.symm.trans herror

theorem Attempt.result_of_faultless (a : Attempt) (h : db.IsSettled)
    (hfaults : ∀ f ∈ a.faults, f = none) : (a.via (.idle db)).result = .ok () := by
  rw [via_eq]
  obtain ⟨_, _, hfaultless⟩ := via_inTransaction a.direction.plain_body a.now a.faults db
  rw [hfaultless hfaults]
  exact (a.direction.on_body h).1

theorem Attempt.afterAll_isSettled (h : db.IsSettled) (as : List Attempt) :
    ∃ db', afterAll (.idle db) as = .idle db' ∧ db'.IsSettled := by
  induction as generalizing db with
  | nil => exact ⟨db, rfl, h⟩
  | cons a as ih =>
    rw [afterAll, List.foldl_cons]
    rcases a.after_isSettled h with ⟨_, db', hafter, hreaches⟩ | ⟨_, hafter⟩
    · rw [hafter]
      exact ih hreaches.isSettled
    · rw [hafter]
      exact ih h

theorem isSettled_empty : Database.empty.IsSettled := .inl (.inl rfl)

end Catalog.Migration
