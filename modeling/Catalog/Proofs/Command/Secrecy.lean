import Catalog.Program
import Catalog.Proofs.Migration.Transaction
import Catalog.Proofs.Service.Course
import Catalog.Proofs.Session.Parallel
import Catalog.Proofs.Store.Heeding

namespace Catalog

/-- An error of the same kind that says nothing. -/
def DatabaseError.withoutText : DatabaseError → DatabaseError
  | .acquireTimeout => .acquireTimeout
  | .acquireClosed => .acquireClosed
  | .connection _ => .connection ""
  | .execution _ => .execution ""
  | .query _ => .query ""
  | .recordNotFound _ => .recordNotFound ""
  | .type _ => .type ""
  | .json _ => .json ""
  | .migration _ => .migration ""
  | .attributeNotSet _ => .attributeNotSet ""
  | .notFromU64 _ => .notFromU64 ""
  | .conversion .. => .conversion "" "" ""
  | .noInsertId => .noInsertId
  | .noPrimaryKey => .noPrimaryKey
  | .notInserted => .notInserted
  | .notUpdated => .notUpdated
  | .custom _ => .custom ""

def Failure.face (failure : Failure) : String × Nat × Json :=
  (failure.code, failure.exitCode, failure.response)

/-- Whether no failure shows what the error behind it says. -/
def Hides (wording : DatabaseError → Failure) : Prop :=
  ∀ e, (wording e.withoutText).face = (wording e).face

theorem hides_ofDatabase : Hides Failure.ofDatabase := by
  intro e
  cases e <;> rfl

theorem hides_failure : Hides Migration.failure := by
  intro e
  cases e <;> rfl

theorem Hides.face_eq {wording : DatabaseError → Failure} (h : Hides wording) {e e' : DatabaseError}
    (he : e.withoutText = e'.withoutText) : (wording e).face = (wording e').face := by
  rw [← h e, he, h e']

def Store.Script.withoutTexts (script : Store.Script) : Store.Script :=
  script.map fun r => ⟨r.delay, r.answer.mapError .withoutText⟩

def Migration.Script.withoutTexts (script : Migration.Script) : Migration.Script :=
  script.map (Except.mapError .withoutText)

namespace Store

variable {α : Type} {script script' : Script}

abbrev SameReply (_ : Sql.Request) (r r' : Reply) : Prop :=
  SameUpTo DatabaseError.withoutText r r'

abbrev Conversation.Blind (m : Conversation α) : Prop :=
  Session.Blind SameReply Failure.face m

theorem blind_of_heeds {m : Conversation α} (hm : Heeds m.run) : m.Blind := by
  rw [Conversation.Blind, Session.Blind]
  generalize m.run = session at hm ⊢
  induction session with
  | done r => exact .done rfl
  | ask q next ih =>
    apply Session.Parallel.ask
    intro r r' hr
    obtain ⟨found, rfl, rfl⟩ | ⟨e, e', rfl, rfl, he⟩ := hr.cases
    · exact ih (.ok found) (hm.2 found)
    · -- the conversation is over, and only the face of its failure is compared
      rw [hm.1, hm.1]
      exact .done (.error (hides_ofDatabase.face_eq he))

/-- Whether two scripts are the same but for what errors say. -/
def Script.Same (script script' : Script) : Prop :=
  script.withoutTexts = script'.withoutTexts

theorem Script.same_answer (q : Sql.Request) (script script' : Script) (h : script.Same script') :
    (script.answer q).1.delay = (script'.answer q).1.delay ∧
      SameReply q (script.answer q).1.answer (script'.answer q).1.answer ∧
      (script.answer q).2.Same (script'.answer q).2 := by
  cases script with
  | nil =>
    cases script' with
    | nil => exact ⟨rfl, rfl, rfl⟩
    | cons r' rs' => cases h
  | cons r rs =>
    cases script' with
    | nil => cases h
    | cons r' rs' =>
      obtain ⟨hr, hrs⟩ := List.cons.inj h
      obtain ⟨hdelay, hanswer⟩ := Session.Timed.mk.inj hr
      exact ⟨hdelay, hanswer, hrs⟩

theorem same_withinLimit (limit : Duration) {r r' : Option (Except Failure α)}
    (h : Option.Rel (SameUpTo Failure.face) r r') :
    SameUpTo Failure.face (withinLimit limit r) (withinLimit limit r') := by
  cases h with
  | some hr => exact hr
  | none => rfl

def Connection.Same (conn conn' : Connection) : Prop :=
  conn.script.Same conn'.script ∧ conn.sent = conn'.sent

theorem Connection.same_perform {store : Behaviour} (limit : Duration) {c : Call}
    {conn conn' : Connection} (hstore : (store c).Blind) (h : conn.Same conn') :
    let p := Connection.perform store limit c conn
    let p' := Connection.perform store limit c conn'
    SameUpTo Failure.face p.1 p'.1 ∧ p.2.Same p'.2 := by
  obtain ⟨hresult, hasked, hstate⟩ :=
    Session.Parallel.runWithin Script.same_answer hstore limit ⟨0⟩ h.1
  exact ⟨same_withinLimit limit hresult, hstate, congrArg₂ (· ++ ·) h.2 hasked⟩

end Store

namespace Service

variable {α : Type}

abbrev SameAnswer (c : Store.Call) (r r' : Except Failure c.Answer) : Prop :=
  SameUpTo Failure.face r r'

abbrev Course.Blind (m : Course α) : Prop :=
  Session.Blind SameAnswer Failure.face m

theorem blind_done (r : Except Failure α) : Course.Blind (ExceptT.mk (.done r)) :=
  .done rfl

theorem blind_ask (c : Store.Call) : (ask c).Blind := by
  apply Session.Parallel.ask
  intro r r' hr
  exact .done hr

theorem blind_checkRules (rules : List Rule) : (checkRules rules).Blind := by
  rw [checkRules]
  split
  · exact blind_done _
  · exact blind_done _

theorem blind_checkCode (code : String) (except? : Option Int64) :
    (checkCode code except?).Blind := by
  apply (blind_ask (.findByCode code)).bind
  intro found
  cases found with
  | none => exact blind_done _
  | some e =>
    dsimp only
    split
    · exact blind_done _
    · exact blind_done _

theorem blind_checkChange (id : Int64) (c : Changes) : (checkChange id c).Blind := by
  rw [checkChange]
  split
  · exact blind_checkCode _ _
  · exact blind_done _

theorem blind_get (id : Int64) : (get id).Blind := by
  apply (blind_ask (.findById id)).bind
  intro found
  cases found with
  | none => exact blind_done _
  | some e => exact blind_done _

theorem blind_create (actor : String) (d : Draft) : (create actor d).Blind := by
  apply (blind_checkRules d.broken).bind
  intro _
  apply (blind_checkCode d.code none).bind
  intro _
  exact blind_ask _

theorem blind_update (actor : String) (id : Int64) (c : Changes) : (update actor id c).Blind := by
  by_cases h : c.isEmpty = true
  · rw [update_of_isEmpty h]
    exact blind_done _
  · rw [update_of_not_isEmpty h]
    apply (blind_checkRules c.broken).bind
    intro _
    apply (blind_checkChange id c).bind
    intro _
    exact blind_ask _

theorem blind_perform (actor : String) (c : Call) : (perform actor c).Blind := by
  cases c with
  | list f => exact blind_ask _
  | get id => exact blind_get id
  | create d => exact blind_create actor d
  | update id c => exact blind_update actor id c
  | delete id => exact blind_ask _
  | restore id => exact blind_ask _

end Service

namespace Migration

variable {α : Type} {script script' : Script}

def SameStep : (s : Step) → s.Reply → s.Reply → Prop
  | .begin, r, r' | .commit, r, r' => SameUpTo DatabaseError.withoutText r r'
  | .rollback, _, _ => True
  | .statement _, r, r' => SameUpTo DatabaseError.withoutText r r'

abbrev Course.Blind (m : Course α) : Prop :=
  Session.Blind SameStep DatabaseError.withoutText m

theorem blind_of_plain {m : Course α} (hm : Plain m.run) : m.Blind := by
  rw [Course.Blind, Session.Blind]
  generalize m.run = session at hm ⊢
  induction session with
  | done r => exact .done rfl
  | ask q next ih =>
    cases q with
    | statement s =>
      apply Session.Parallel.ask
      intro r r' hr
      obtain ⟨effect, rfl, rfl⟩ | ⟨e, e', rfl, rfl, he⟩ := SameUpTo.cases hr
      · exact ih _ (hm.2 effect)
      · rw [hm.1, hm.1]
        exact .done (.error he)
    | begin => cases hm
    | commit => cases hm
    | rollback => cases hm

theorem parallel_rollback {e e' : DatabaseError} (he : e.withoutText = e'.withoutText) :
    Session.Parallel SameStep (SameUpTo DatabaseError.withoutText)
      (.ask .rollback fun _ => .done (.error e : Except _ α))
      (.ask .rollback fun _ => .done (.error e')) := by
  apply Session.Parallel.ask
  intro _ _ _
  exact .done (.error he)

theorem parallel_closing {r r' : Except DatabaseError α}
    (h : SameUpTo DatabaseError.withoutText r r') :
    (closing r).Parallel SameStep (SameUpTo DatabaseError.withoutText) (closing r') := by
  obtain ⟨a, rfl, rfl⟩ | ⟨e, e', rfl, rfl, he⟩ := h.cases
  · apply Session.Parallel.ask
    intro r r' hr
    obtain ⟨⟨⟩, rfl, rfl⟩ | ⟨e, e', rfl, rfl, he⟩ := SameUpTo.cases hr
    · exact .done rfl
    · exact parallel_rollback he
  · exact parallel_rollback he

theorem blind_inTransaction {m : Course α} (hm : m.Blind) : (inTransaction m).Blind := by
  rw [Course.Blind, Session.Blind, run_inTransaction]
  apply Session.Parallel.ask
  intro r r' hr
  obtain ⟨⟨⟩, rfl, rfl⟩ | ⟨e, e', rfl, rfl, he⟩ := SameUpTo.cases hr
  · exact Session.Parallel.bind hm fun _ _ => parallel_closing
  · exact .done (.error he)

theorem blind_up : up.Blind :=
  blind_inTransaction (blind_of_plain plain_applyPending)

theorem blind_down : down.Blind :=
  blind_inTransaction (blind_of_plain plain_revertLast)

theorem blind_status : status.Blind :=
  blind_of_plain plain_status

theorem blind_fresh : fresh.Blind := by
  rw [Course.Blind, Session.Blind, run_fresh]
  apply Session.Parallel.ask
  intro r r' hr
  obtain ⟨⟨⟩, rfl, rfl⟩ | ⟨e, e', rfl, rfl, he⟩ := SameUpTo.cases hr
  · apply Session.Parallel.bind (blind_of_plain plain_install)
    intro r r' hr
    apply Session.Parallel.ask
    intro _ _ _
    exact .done (hr.map _)
  · exact .done (.error he)

def Script.Same (script script' : Script) : Prop :=
  script.withoutTexts = script'.withoutTexts

/-- Answers all steps that may fail with the next reply, the bounds of a transaction too. -/
def Script.answerAll : (s : Step) → Script → s.Reply × Script
  | .rollback, script => ((), script)
  | .begin, [] | .commit, [] => (.ok (), [])
  | .begin, r :: rs | .commit, r :: rs => (r.map fun _ => (), rs)
  | .statement _, [] => (.ok ⟨[], 1⟩, [])
  | .statement _, r :: rs => (r, rs)

theorem Script.Same.cases (h : script.Same script') :
    (script = [] ∧ script' = []) ∨ ∃ r rs r' rs', script = r :: rs ∧ script' = r' :: rs' ∧
      SameUpTo DatabaseError.withoutText r r' ∧ Script.Same rs rs' := by
  cases script with
  | nil =>
    cases script' with
    | nil => exact .inl ⟨rfl, rfl⟩
    | cons r' rs' => cases h
  | cons r rs =>
    cases script' with
    | nil => cases h
    | cons r' rs' =>
      obtain ⟨hr, hrs⟩ := List.cons.inj h
      exact .inr ⟨r, rs, r', rs', rfl, rfl, hr, hrs⟩

theorem Script.same_answer (s : Step) (script script' : Script) (h : script.Same script') :
    SameStep s (script.answer s).1 (script'.answer s).1 ∧
      (script.answer s).2.Same (script'.answer s).2 := by
  cases s with
  | begin => exact ⟨rfl, h⟩
  | commit => exact ⟨rfl, h⟩
  | rollback => exact ⟨trivial, h⟩
  | statement s =>
    obtain ⟨rfl, rfl⟩ | ⟨r, rs, r', rs', rfl, rfl, hr, hrs⟩ := h.cases
    · exact ⟨rfl, rfl⟩
    · exact ⟨hr, hrs⟩

theorem Script.same_answerAll (s : Step) (script script' : Script) (h : script.Same script') :
    SameStep s (script.answerAll s).1 (script'.answerAll s).1 ∧
      (script.answerAll s).2.Same (script'.answerAll s).2 := by
  obtain ⟨rfl, rfl⟩ | ⟨r, rs, r', rs', rfl, rfl, hr, hrs⟩ := h.cases
  · cases s with
    | rollback => exact ⟨trivial, rfl⟩
    | _ => exact ⟨rfl, rfl⟩
  · cases s with
    | begin => exact ⟨hr.map _, hrs⟩
    | commit => exact ⟨hr.map _, hrs⟩
    | rollback => exact ⟨trivial, h⟩
    | statement s => exact ⟨hr, hrs⟩

end Migration

namespace Command

/-- Whether a command that ends in one way cannot be told from one that ends in another. -/
structure Output.LooksLike (o o' : Output) : Prop where
  exit : Program.ofOutput o = Program.ofOutput o'
  code : o.result.mapError Failure.code = o'.result.mapError Failure.code
  body : o.result.mapError Failure.response = o'.result.mapError Failure.response

theorem looksLike_fail {f f' : Failure} (h : f.face = f'.face) : (fail f).LooksLike (fail f') := by
  obtain ⟨hcode, h⟩ := Prod.mk.inj h
  obtain ⟨hexit, hbody⟩ := Prod.mk.inj h
  have hexits : Program.ofOutput (fail f) = Program.ofOutput (fail f') := by
    simp only [Program.ofOutput, fail, hexit, hbody]
  exact ⟨hexits, congrArg Except.error hcode, congrArg Except.error hbody⟩

theorem parallel_overStore (actor : String) (c : Service.Call) :
    (overStore actor c).Parallel Service.SameAnswer Output.LooksLike (overStore actor c) := by
  -- the service is called once, so this is the course of the call and then the output
  change (Session.bind _ _).Parallel _ _ (Session.bind _ _)
  apply Session.Parallel.bind (Service.blind_perform actor c)
  intro r r' hr
  apply Session.Parallel.done
  obtain ⟨a, rfl, rfl⟩ | ⟨f, f', rfl, rfl, hf⟩ := hr.cases
  · exact ⟨rfl, rfl, rfl⟩
  · exact looksLike_fail hf

theorem parallel_ending {α : Type} {wording : DatabaseError → Failure} (hw : Hides wording)
    (shown : α → Option Output) {course : Migration.Course α} (h : course.Blind) :
    (migration.ending wording shown course).Parallel Migration.SameStep (Option.Rel Output.LooksLike)
      (migration.ending wording shown course) := by
  apply Session.Parallel.bind h
  intro r r' hr
  apply Session.Parallel.done
  obtain ⟨a, rfl, rfl⟩ | ⟨e, e', rfl, rfl, he⟩ := hr.cases
  · dsimp only
    cases shown a with
    | none => exact .none
    | some o => exact .some ⟨rfl, rfl, rfl⟩
  · exact .some (looksLike_fail (hw.face_eq he))

theorem parallel_migration {wording : DatabaseError → Failure} (hw : Hides wording)
    (action : CommandLine.MigrateAction) :
    (migration wording action).Parallel Migration.SameStep (Option.Rel Output.LooksLike)
      (migration wording action) := by
  cases action with
  | up => exact parallel_ending hw _ Migration.blind_up
  | down => exact parallel_ending hw _ Migration.blind_down
  | status => exact parallel_ending hw _ Migration.blind_status
  | fresh => exact parallel_ending hw _ Migration.blind_fresh

theorem isSome_ending {α σ : Type} {wording : DatabaseError → Failure} {shown : α → Option Output}
    (hshown : ∀ a, (shown a).isSome) (course : Migration.Course α)
    (answer : (s : Migration.Step) → σ → s.Reply × σ) (s : σ) :
    ((migration.ending wording shown course).run answer s).result.isSome := by
  rw [migration.ending, Session.run_bind]
  generalize course.run.run answer s = t
  obtain ⟨a | e, asked, state⟩ := t
  · rfl
  · exact hshown _

theorem isSome_migration {σ : Type} (wording : DatabaseError → Failure)
    {action : CommandLine.MigrateAction} (h : action ≠ .fresh)
    (answer : (s : Migration.Step) → σ → s.Reply × σ) (s : σ) :
    ((migration wording action).run answer s).result.isSome := by
  cases action with
  | fresh => exact absurd rfl h
  | up => exact isSome_ending (fun _ => rfl) _ answer s
  | down => exact isSome_ending (fun _ => rfl) _ answer s
  | status => exact isSome_ending (fun _ => rfl) _ answer s

/-- Commands look and ask the same under scripts that are the same but for what errors say: those on
entries over either store, and those on migrations in either wording of their errors. -/
theorem error_texts_hidden :
    (∀ (s : Settings) (c : Service.Call) (script script' : Store.Script), script.Same script' →
      (run s c script).1.LooksLike (run s c script').1 ∧
        (run s c script).2 = (run s c script').2) ∧
    ∀ (action : CommandLine.MigrateAction) (script script' : Migration.Script),
      script.Same script' →
        ∀ wording ∈ [Failure.ofDatabase, Migration.failure],
        ∀ answer ∈ [Migration.Script.answer, Migration.Script.answerAll],
          let t := (migration wording action).run answer script
          let t' := (migration wording action).run answer script'
          Option.Rel Output.LooksLike t.result t'.result ∧ t.asked = t'.asked ∧
            (action ≠ .fresh → t.result.isSome) := by
  constructor
  · intro s c script script' h
    let answer (call : Store.Call) (conn : Store.Connection) :=
      Store.Connection.perform (storeFor s.backend) s.queryTimeout call conn
    have hanswer (call : Store.Call) (conn conn' : Store.Connection) (hconn : conn.Same conn') :
        Service.SameAnswer call (answer call conn).1 (answer call conn').1 ∧
          (answer call conn).2.Same (answer call conn').2 :=
      Store.Connection.same_perform s.queryTimeout
        (Store.blind_of_heeds (Store.heeds_storeFor s.backend call)) hconn
    have hstart : Store.Connection.Same ⟨script, []⟩ ⟨script', []⟩ := ⟨h, rfl⟩
    obtain ⟨hresult, _, hstate⟩ := (parallel_overStore s.actor c).run hanswer hstart
    exact ⟨hresult, hstate.2⟩
  · intro action script script' h wording hwording answer hanswer
    have hw : Hides wording := by
      rcases List.mem_pair.1 hwording with rfl | rfl
      · exact hides_ofDatabase
      · exact hides_failure
    have hsame : ∀ q (script script' : Migration.Script), script.Same script' →
        Migration.SameStep q (answer q script).1 (answer q script').1 ∧
          (answer q script).2.Same (answer q script').2 := by
      rcases List.mem_pair.1 hanswer with rfl | rfl
      · exact Migration.Script.same_answer
      · exact Migration.Script.same_answerAll
    obtain ⟨hresult, hasked, _⟩ := (parallel_migration hw action).run hsame h
    exact ⟨hresult, hasked, fun hfresh => isSome_migration wording hfresh answer script⟩

/-- The connection is lost while an entry is made, and a statement of a migration fails. -/
theorem error_texts_hidden_lost_connection :
    let script (text : String) : Store.Script :=
      [⟨⟨1⟩, .ok []⟩, ⟨⟨1⟩, .error (.connection text)⟩]
    let replies (text : String) : Migration.Script := [.error (.query text)]
    let o := (run {} (.create ⟨"A", "first"⟩) (script "password hunter2")).1
    let o' := (run {} (.create ⟨"A", "first"⟩) (script "refused")).1
    let status := migration Migration.failure .status
    let t := status.run Migration.Script.answer (replies "password hunter2")
    let t' := status.run Migration.Script.answer (replies "refused")
    (script "password hunter2").Same (script "refused") ∧ o.LooksLike o' ∧
      (Program.ofOutput o).code = 69 ∧
      (replies "password hunter2").Same (replies "refused") ∧
      Option.Rel Output.LooksLike t.result t'.result ∧
      t.result.map (fun o => (Program.ofOutput o).code) = some 70 := by
  intro script replies o o' status t t'
  have hscript : (script "password hunter2").Same (script "refused") := rfl
  have hreplies : (replies "password hunter2").Same (replies "refused") := rfl
  have ho := (error_texts_hidden.1 {} (.create ⟨"A", "first"⟩) _ _ hscript).1
  have ht := (error_texts_hidden.2 .status _ _ hreplies Migration.failure (by simp)
    Migration.Script.answer (by simp)).1
  exact ⟨hscript, ho, by decide +kernel, hreplies, ht, by decide +kernel⟩

end Command

end Catalog
