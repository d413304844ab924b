import Catalog.Proofs.Session.Interleaving
import Catalog.Proofs.Store.Heeding
import Catalog.Proofs.Table.Audit

namespace Catalog

namespace Session

variable {Q : Type} {R : Q → Type} {α σ : Type}

/-- The same session where an answer may fail to come in time, and then it ends with `late`. -/
def cutOff (late : α) : Session Q R α → Session Q (fun q => Option (R q)) α
  | .done a => .done a
  | .ask q next => .ask q fun
    | some r => (next r).cutOff late
    | none => .done late

/-- The answer that comes within the limit, after the time that has gone already. -/
def inTime (limit : Duration) (answer : (q : Q) → σ → Timed (R q) × σ) (q : Q)
    (s : Duration × σ) : Option (R q) × Duration × σ :=
  let reply := answer q s.2
  let now : Duration := ⟨s.1.nanos + reply.1.delay.nanos⟩
  (if limit.nanos < now.nanos then none else some reply.1.answer, now, reply.2)

theorem run_cutOff (limit elapsed : Duration) (answer : (q : Q) → σ → Timed (R q) × σ) (s : σ)
    (late : α) (m : Session Q R α) :
    let t := (m.cutOff late).run (inTime limit answer) (elapsed, s)
    let u := m.runWithin limit answer elapsed s
    t.result = u.result.getD late ∧ t.asked = u.asked ∧ t.state.2 = u.state := by
  induction m generalizing elapsed s with
  | done a => exact ⟨rfl, rfl, rfl⟩
  | ask q next ih =>
    by_cases hlate : limit.nanos < elapsed.nanos + (answer q s).1.delay.nanos
    · simp only [cutOff, run, runWithin, inTime, if_pos hlate]
      exact ⟨rfl, trivial, trivial⟩
    · simp only [cutOff, run, runWithin, inTime, if_neg hlate]
      obtain ⟨hresult, hasked, hstate⟩ := ih (answer q s).1.answer
        ⟨elapsed.nanos + (answer q s).1.delay.nanos⟩ (answer q s).2
      exact ⟨hresult, congrArg (q :: ·) hasked, hstate⟩

end Session

namespace Store

open Sql

variable {like : String → String → Bool} {α β : Type}

structure Errand where
  backend : Backend
  limit : Duration
  call : Call

def Errand.course (x : Errand) :
    Session Request (fun _ => Option Reply) (Except Failure x.call.Answer) :=
  (Command.storeFor x.backend x.call).run.cutOff (.error (.timeout x.limit))

/-- A call over a connection takes this course. -/
theorem Errand.perform_eq (x : Errand) (script : Script) :
    let t := x.course.run (Session.inTime x.limit Script.answer) (⟨0⟩, script)
    perform (Command.storeFor x.backend) x.limit x.call script =
      ⟨t.result, t.asked, t.state.2⟩ := by
  obtain ⟨hresult, hasked, hstate⟩ := Session.run_cutOff x.limit ⟨0⟩ Script.answer script
    (.error (.timeout x.limit)) (Command.storeFor x.backend x.call).run
  dsimp only [course]
  rw [hresult, hasked, hstate, perform]
  cases ((Command.storeFor x.backend x.call).run.runWithin x.limit Script.answer ⟨0⟩
    script).result <;> rfl

/-- What becomes of a statement and its reply. A statement whose reply is an error, or does not come
in time, may still have run, with the stamp given: also after its call is over, since nothing else
is asked for that call. -/
inductive Fate where
  | answered (s : Stamp)
  | failed (e : DatabaseError) (ran : Option Stamp)
  | late (ran : Option Stamp)

def afterRun (like : String → String → Bool) (q : Request) (t : Table) :
    Option Stamp → Table
  | some s => (t.answer like s q).2
  | none => t

def Fate.answer (like : String → String → Bool) :
    Fate → (q : Request) → Table → Option Reply × Table
  | .answered s, q, t => (some (Table.answer like s q t).1, (Table.answer like s q t).2)
  | .failed e ran, q, t => (some (.error e), afterRun like q t ran)
  | .late ran, q, t => (none, afterRun like q t ran)

theorem ensures_cutOff {good : Table → Table → Prop} {post : Except Failure α → Prop}
    (hrefl : ∀ t, good t t) (herror : ∀ failure, post (.error failure))
    {m : Session Request (fun _ => Reply) (Except Failure α)} (hm : Heeds m)
    (h : m.Ensures (Table.answer like) good post) (failure : Failure) :
    (m.cutOff (.error failure)).Ensures (Fate.answer like) good post := by
  induction m with
  | done r => exact h
  | ask q next ih =>
    have hran (t : Table) (ran : Option Stamp) : good t (afterRun like q t ran) := by
      cases ran with
      | none => exact hrefl t
      | some s => exact (h s t).1
    have hfailed (e : DatabaseError) :
        ((next (.error e)).cutOff (.error failure)).Ensures (Fate.answer like) good post := by
      rw [hm.1 e]
      exact herror _
    simp only [Session.cutOff, Session.Ensures]
    intro fate t
    cases fate with
    | answered s =>
      refine ⟨(h s t).1, ?_⟩
      have hnext := (h s t).2
      change ((next (Table.answer like s q t).1).cutOff _).Ensures _ _ _
      cases hr : (Table.answer like s q t).1 with
      | error e => exact hfailed e
      | ok found =>
        rw [hr] at hnext
        exact ih _ (hm.2 found) hnext
    | failed e ran => exact ⟨hran t ran, hfailed e⟩
    | late ran => exact ⟨hran t ran, herror failure⟩

section Ensures

variable {good : Table → Table → Prop}

theorem ensures_bind {m : Conversation α} {f : α → Conversation β} {post : Except Failure β → Prop}
    (hm : m.run.Ensures (Table.answer like) good fun _ => True)
    (hf : ∀ a, (f a).run.Ensures (Table.answer like) good post)
    (herror : ∀ failure, post (.error failure)) :
    (m >>= f).run.Ensures (Table.answer like) good post := by
  change (m.run.bind (ExceptT.bindCont f)).Ensures (Table.answer like) good post
  rw [Session.ensures_bind]
  refine hm.mono fun r _ => ?_
  cases r with
  | ok a => exact hf a
  | error failure => exact herror failure

theorem ensures_of_asksAtMost {m : Conversation α} {post : Except Failure α → Prop}
    (h : m.run.AsksAtMost 1)
    (hon : ∀ s t, good t (m.on like s t).2 ∧ post (m.on like s t).1) :
    m.run.Ensures (Table.answer like) good post := by
  simp only [Conversation.on] at hon
  cases hr : m.run with
  | done r =>
    rw [hr] at hon
    exact (hon .first .empty).2
  | ask q next =>
    rw [hr] at h hon
    intro s t
    obtain ⟨hnext, hstate⟩ := h.next_eq (Table.answer like s) t
    rw [hnext, hstate]
    exact hon s t

end Ensures

theorem Written.ensures_store (c : Call) :
    (Written.store c).run.Ensures (Table.answer like) Table.Precedes (ShowsActive c) := by
  refine ensures_of_asksAtMost (asksAtMost_store c) fun s t => ?_
  change t.Precedes (Written.store.on like s c t).2 ∧ ShowsActive c (Written.store.on like s c t).1
  rw [Written.on_table c]
  exact ⟨precedes_machine c, showsActive_machine c⟩

namespace Mapped

variable {c : Call} {w : Amendment c}

theorem faithful_change (h : amendment? c = some w) (s : Stamp) : Faithful (w.change s) := by
  cases c with
  | update id c actor =>
    cases h
    exact faithful_changed s.time actor c
  | delete id actor =>
    cases h
    exact faithful_deleted s.time actor
  | restore id actor =>
    cases h
    exact faithful_restored s.time actor
  | list | findById | findByCode | create => cases h

theorem showsActive_of_amendment (h : amendment? c = some w) (r : Except Failure c.Answer) :
    ShowsActive c r := by
  intro a _ e he
  cases c with
  | update | delete | restore => cases he
  | list | findById | findByCode | create => cases h

theorem ensures_write (h : amendment? c = some w) (id : Int64) :
    (w.write id).run.Ensures (Table.answer like) Table.Precedes (ShowsActive c) := by
  refine ensures_of_asksAtMost (w.asksAtMost_write id) fun s t => ?_
  refine ⟨?_, showsActive_of_amendment h _⟩
  -- the entry is there still, but maybe not in the state in which it was found
  rw [w.on_write]
  change t.Precedes (t.modify (fun e => e.id = id) (w.change s) (w.id_change s))
  exact Table.precedes_modify (faithful_change h s)

theorem ensures_store (c : Call) :
    (store c).run.Ensures (Table.answer like) Table.Precedes (ShowsActive c) := by
  cases h : amendment? c with
  | none =>
    refine ensures_of_asksAtMost (asksAtMost_store h) fun s t => ?_
    change t.Precedes (store.on like s c t).2 ∧ ShowsActive c (store.on like s c t).1
    rw [on_table c]
    exact ⟨precedes_machine c, showsActive_machine c⟩
  | some w =>
    rw [w.store_eq]
    refine ensures_bind ?_ ?_ (showsActive_error c)
    · refine ensures_of_asksAtMost (asksAtMost_firstEntry _) fun s t => ⟨?_, trivial⟩
      rw [on_findWhere w.meetsAll_lookup]
      exact .refl t
    · intro found
      cases found with
      | none => exact showsActive_error c w.refusal
      | some e => exact ensures_write h e.id

end Mapped

theorem ensures_storeFor (b : Backend) (c : Call) :
    (Command.storeFor b c).run.Ensures (Table.answer like) Table.Precedes (ShowsActive c) := by
  cases b with
  | orm => exact Mapped.ensures_store c
  | sql => exact Written.ensures_store c

theorem ensures_course (x : Errand) :
    x.course.Ensures (Fate.answer like) Table.Precedes (ShowsActive x.call) :=
  ensures_cutOff Table.Precedes.refl (showsActive_error x.call) (heeds_storeFor x.backend x.call)
    (ensures_storeFor x.backend x.call) (.timeout x.limit)

theorem precedes_play {S : Scene Request (fun _ => Option Reply)
      (fun x : Errand => Except Failure x.call.Answer) Table}
    (hS : ∀ task ∈ S.tasks,
      task.rest.Ensures (Fate.answer like) Table.Precedes (ShowsActive task.call.call))
    (moves : List (Move Errand Fate)) :
    let T := S.play Errand.course (Fate.answer like) moves
    S.state.Precedes T.state ∧ ∀ task ∈ T.tasks,
      task.rest.Ensures (Fate.answer like) Table.Precedes (ShowsActive task.call.call) :=
  Scene.play_ensures Table.Precedes.refl (fun _ _ _ => Table.Precedes.trans) ensures_course hS moves

/-- At all times when clients have begun with no entries, all that is recorded of entries is
complete. From one time to any other after it, no entry goes away and none changes its origin, and
no call ever hands out an entry that is deleted. The courses of the clients are those that calls take
over a connection. -/
theorem audit_kept (like : String → String → Bool) (moves moves' : List (Move Errand Fate)) :
    let S := (Scene.start Table.empty).play Errand.course (Fate.answer like) moves
    let T := S.play Errand.course (Fate.answer like) moves'
    S.state.Audited ∧ S.state.origins <+: T.state.origins ∧
      (∀ task ∈ S.tasks, ∀ a, task.rest = .done (.ok a) →
        ∀ e ∈ task.call.call.shown a, e.isActive = true) ∧
      ∀ (x : Errand) (script : Script),
        let t := x.course.run (Session.inTime x.limit Script.answer) (⟨0⟩, script)
        perform (Command.storeFor x.backend) x.limit x.call script =
          ⟨t.result, t.asked, t.state.2⟩ := by
  obtain ⟨hS, htasks⟩ := precedes_play (S := Scene.start Table.empty) (fun _ h => nomatch h) moves
  obtain ⟨hT, _⟩ := precedes_play htasks moves'
  refine ⟨hS.1 fun _ h => absurd h List.not_mem_nil, hT.2, ?_, Errand.perform_eq⟩
  intro task htask a hrest
  have hshown := htasks task htask
  rw [hrest] at hshown
  exact hshown a rfl

end Store

end Catalog
