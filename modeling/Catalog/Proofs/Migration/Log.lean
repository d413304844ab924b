import Catalog.Proofs.Migration.Attempt

namespace Catalog.Migration

inductive Event where
  | begin (reply : Except DatabaseError Unit)
  | commit (reply : Except DatabaseError Unit)
  | rollback
  | statement (s : Statement) (reply : Except DatabaseError Effect)

namespace Event

def of : (q : Step) → q.Reply → Event
  | .begin, r => begin r
  | .commit, r => commit r
  | .rollback, _ => rollback
  | .statement s, r => statement s r

def step : Event → Step
  | begin _ => .begin
  | commit _ => .commit
  | rollback => .rollback
  | statement s _ => .statement s

theorem step_of (q : Step) (r : q.Reply) : (of q r).step = q := by
  cases q <;> rfl

end Event

def Sent (s : Statement) (log : List Event) : Prop := ∃ r, .statement s r ∈ log

def Done (s : Statement) (log : List Event) : Prop := ∃ effect, .statement s (.ok effect) ∈ log

section Log

variable {α β σ : Type} {answer : (q : Step) → σ → q.Reply × σ} {st : σ}

def log (answer : (q : Step) → σ → q.Reply × σ) (st : σ) :
    Session Step Step.Reply α → List Event
  | .done _ => []
  | .ask q next => .of q (answer q st).1 :: log answer (answer q st).2 (next (answer q st).1)

theorem map_step_log (m : Session Step Step.Reply α) :
    (log answer st m).map Event.step = (m.run answer st).asked := by
  induction m generalizing st with
  | done a => rfl
  | ask q next ih =>
    rw [log, List.map_cons, Event.step_of, ih]
    rfl

theorem log_sessionBind (m : Session Step Step.Reply α) (f : α → Session Step Step.Reply β) :
    log answer st (m.bind f) =
      log answer st m ++ log answer (m.run answer st).state (f (m.run answer st).result) := by
  induction m generalizing st with
  | done a => rfl
  | ask q next ih => exact congrArg (_ :: ·) (ih _)

theorem log_bind {m : Course α} {f : α → Course β} :
    log answer st (m >>= f).run = log answer st m.run ++
      match (m.run.run answer st).result with
      | .ok a => log answer (m.run.run answer st).state (f a).run
      | .error _ => [] := by
  change log answer st (m.run.bind (ExceptT.bindCont f)) = _
  rw [log_sessionBind]
  cases (m.run.run answer st).result <;> rfl

end Log

def Effect.unread? (effect : Effect) : Option DatabaseError :=
  match effect.rows.mapM VersionRow.decode with
  | .error e => some e
  | .ok versions =>
    match versions.filter fun v => !isKnown v with
    | [] => none
    | unknown => some (.unknownMigrations unknown.eraseDups)

/-- What is wrong with a statement that has been sent: the error in the reply to it, a record that
cannot be read or has an unknown version in it, or a version that has not been put on record. -/
def Statement.error? : Statement → Except DatabaseError Effect → Option DatabaseError
  | _, .error e => some e
  | readVersions, .ok effect => effect.unread?
  | record _, .ok effect => if effect.written = 0 then some .notInserted else none
  | _, .ok _ => none

def Statement.IsPlain (s : Statement) : Prop := ∀ effect, s.error? (.ok effect) = none

/-- Events of statements that are sent in turn, up to the first with which something is wrong. -/
inductive InTurn : List Statement → List Event → Option DatabaseError → Prop where
  | nil : InTurn [] [] none
  | stops {s : Statement} {r : Except DatabaseError Effect} {e : DatabaseError}
    (h : s.error? r = some e) (ss : List Statement) : InTurn (s :: ss) [.statement s r] (some e)
  | goesOn {s : Statement} {r : Except DatabaseError Effect} {ss : List Statement}
    {events : List Event} {e? : Option DatabaseError} (h : s.error? r = none)
    (hs : InTurn ss events e?) : InTurn (s :: ss) (.statement s r :: events) e?

section InTurn

variable {s : Statement} {before after ss ss' : List Statement} {events events' : List Event}
  {e? : Option DatabaseError} {e : DatabaseError}

theorem InTurn.append (h : InTurn ss events none) (h' : InTurn ss' events' e?) :
    InTurn (ss ++ ss') (events ++ events') e? := by
  generalize hnone : none = n at h
  induction h with
  | nil => exact h'
  | stops => cases hnone
  | goesOn hgood _ ih => exact .goesOn hgood (ih hnone)

theorem InTurn.stopped (h : InTurn ss events (some e)) (ss' : List Statement) :
    InTurn (ss ++ ss') events (some e) := by
  generalize hsome : some e = n at h
  induction h with
  | nil => cases hsome
  | stops hbad ss => exact .stops hbad (ss ++ ss')
  | goesOn hgood _ ih => exact .goesOn hgood (ih hsome)

theorem InTurn.mem_of_sent (h : InTurn ss events e?) (hs : Sent s events) : s ∈ ss := by
  obtain ⟨r, hr⟩ := hs
  induction h with
  | nil => cases hr
  | stops =>
    cases List.mem_singleton.1 hr
    exact List.mem_cons_self
  | goesOn _ _ ih =>
    rcases List.mem_cons.1 hr with hr | hr
    · cases hr
      exact List.mem_cons_self
    · exact List.mem_cons_of_mem _ (ih hr)

theorem sent_cons_of_ne {x : Event} (h : x.step ≠ .statement s) :
    Sent s (x :: events) ↔ Sent s events := by
  refine exists_congr fun r => ⟨fun hr => ?_, List.mem_cons_of_mem x⟩
  rcases List.mem_cons.1 hr with rfl | hr
  · exact absurd rfl h
  · exact hr

theorem done_cons_of_ne {x : Event} (h : x.step ≠ .statement s) :
    Done s (x :: events) ↔ Done s events := by
  refine exists_congr fun effect => ⟨fun hr => ?_, List.mem_cons_of_mem x⟩
  rcases List.mem_cons.1 hr with rfl | hr
  · exact absurd rfl h
  · exact hr

theorem InTurn.sent_iff (h : InTurn (before ++ s :: after) events e?)
    (hplain : ∀ s' ∈ before, s'.IsPlain) (hnodup : (before ++ s :: after).Nodup) :
    Sent s events ↔ ∀ s' ∈ before, Done s' events := by
  induction before generalizing events with
  | nil =>
    refine iff_of_true ?_ (List.forall_mem_nil _)
    cases h with
    | stops => exact ⟨_, List.mem_cons_self⟩
    | goesOn => exact ⟨_, List.mem_cons_self⟩
  | cons s₀ before ih =>
    obtain ⟨hfirst, hbefore⟩ := List.forall_mem_cons.1 hplain
    obtain ⟨hnotMem, hnodup⟩ := List.nodup_cons.1 hnodup
    have hne {s' : Statement} (hs' : s' ∈ before ++ s :: after) (r : Except DatabaseError Effect) :
        (Event.statement s₀ r).step ≠ .statement s' := by
      intro heq
      cases heq
      exact hnotMem hs'
    have hs : s ∈ before ++ s :: after := List.mem_append_right _ List.mem_cons_self
    cases h with
    | @stops _ r e hbad =>
      -- neither is the statement sent nor the first one done
      rw [sent_cons_of_ne (hne hs r)]
      refine iff_of_false (fun ⟨_, h⟩ => nomatch h) fun hall => ?_
      obtain ⟨effect, hdone⟩ := hall s₀ List.mem_cons_self
      cases List.mem_singleton.1 hdone
      cases (hfirst effect).symm.trans hbad
    | @goesOn _ r _ events _ hgood hrest =>
      cases r with
      | error e => cases hgood
      | ok effect =>
        rw [sent_cons_of_ne (hne hs _), ih hrest hbefore hnodup, List.forall_mem_cons]
        have hdone : Done s₀ (.statement s₀ (.ok effect) :: events) := ⟨effect, List.mem_cons_self⟩
        rw [iff_true_intro hdone, true_and]
        refine forall₂_congr fun s' hs' => (done_cons_of_ne ?_).symm
        exact hne (List.mem_append_left _ hs') _

end InTurn

section Course

variable {α β σ : Type} {answer : (q : Step) → σ → q.Reply × σ} {st : σ} {s : Statement}
  {m : Course α} {f : α → Course β} {ss ss' : List Statement}

def errorOf : Except DatabaseError α → Option DatabaseError
  | .ok _ => none
  | .error e => some e

/-- Whether a course sends statements in turn and ends with what is wrong with the last of them, if
anything is. -/
def Course.Sends (answer : (q : Step) → σ → q.Reply × σ) (st : σ) (m : Course α)
    (ss : List Statement) : Prop :=
  InTurn ss (log answer st m.run) (errorOf (m.run.run answer st).result)

theorem sends_pure (a : α) : (pure a : Course α).Sends answer st [] := InTurn.nil

theorem sends_bind (hm : m.Sends answer st ss)
    (hf : ∀ a, (m.run.run answer st).result = .ok a →
      (f a).Sends answer (m.run.run answer st).state ss') :
    (m >>= f).Sends answer st (ss ++ ss') := by
  rw [Course.Sends] at hm ⊢
  cases hr : (m.run.run answer st).result with
  | error e =>
    rw [hr] at hm
    simp only [run_courseBind, log_bind, hr, List.append_nil]
    exact hm.stopped ss'
  | ok a =>
    rw [hr] at hm
    simp only [run_courseBind, log_bind, hr]
    exact hm.append (hf a hr)

theorem sends_of_ask {g : Except DatabaseError Effect → Except DatabaseError α}
    (hm : m.run = .ask (.statement s) fun (r : Except DatabaseError Effect) => .done (g r))
    (hg : ∀ r, errorOf (g r) = s.error? r) : m.Sends answer st [s] := by
  rw [Course.Sends, hm]
  change InTurn [s] [.statement s (answer (.statement s) st).1]
    (errorOf (g (answer (.statement s) st).1))
  generalize (answer (.statement s) st).1 = r
  cases h : errorOf (g r) with
  | none => exact .goesOn ((hg r).symm.trans h) .nil
  | some e => exact .stops ((hg r).symm.trans h) []

theorem sends_execute (hs : s.IsPlain) : (execute s).Sends answer st [s] := by
  refine sends_of_ask (g := fun r => r) rfl fun r => ?_
  cases r with
  | ok effect => exact (hs effect).symm
  | error e => rfl

theorem sends_send (hs : s.IsPlain) : (do let _ ← execute s : Course Unit).Sends answer st [s] := by
  have hsends : (do let _ ← execute s : Course Unit).Sends answer st ([s] ++ []) :=
    sends_bind (sends_execute hs) fun _ _ => sends_pure _
  exact hsends

theorem sends_executeAll (hss : ∀ s ∈ ss, s.IsPlain) :
    (executeAll ss).Sends answer st ss := by
  induction ss generalizing st with
  | nil => exact sends_pure _
  | cons s ss ih =>
    obtain ⟨hs, hss⟩ := List.forall_mem_cons.1 hss
    have hsends : (executeAll (s :: ss)).Sends answer st ([s] ++ ss) :=
      sends_bind (sends_send hs) fun _ _ => ih hss
    exact hsends

end Course

end Catalog.Migration
