import Catalog.Proofs.Migration.Log

namespace Catalog.Migration

variable {σ : Type} {answer : (q : Step) → σ → q.Reply × σ} {st : σ} {s : Statement}
  {ss : List Statement} {events events' : List Event} {e : DatabaseError}

def Event.Succeeds : Event → Prop
  | statement s r => s.error? r = none
  | _ => False

/-- The events of a transaction, and what it ends with. Its end is asked for only after statements
that have all succeeded. The first one that has not is the last, and then, or if the end itself
fails, there is nothing more but the way back. -/
inductive Bracketed : List Event → Except DatabaseError Unit → Prop where
  | refused (e : DatabaseError) : Bracketed [.begin (.error e)] (.error e)
  | committed {body : List Event} (h : ∀ x ∈ body, x.Succeeds) :
    Bracketed (.begin (.ok ()) :: (body ++ [.commit (.ok ())])) (.ok ())
  | uncommitted {body : List Event} (h : ∀ x ∈ body, x.Succeeds) (e : DatabaseError) :
    Bracketed (.begin (.ok ()) :: (body ++ [.commit (.error e), .rollback])) (.error e)
  | undone {body : List Event} {s : Statement} {r : Except DatabaseError Effect}
    {e : DatabaseError} (h : ∀ x ∈ body, x.Succeeds) (hbad : s.error? r = some e) :
    Bracketed (.begin (.ok ()) :: (body ++ [.statement s r, .rollback])) (.error e)

theorem InTurn.succeeds (h : InTurn ss events none) : ∀ x ∈ events, x.Succeeds := by
  generalize hnone : none = n at h
  induction h with
  | nil => exact List.forall_mem_nil _
  | stops => cases hnone
  | goesOn hgood _ ih => exact List.forall_mem_cons.2 ⟨hgood, ih hnone⟩

theorem InTurn.exists_last (h : InTurn ss events (some e)) :
    ∃ body s r, events = body ++ [.statement s r] ∧ (∀ x ∈ body, x.Succeeds) ∧
      s.error? r = some e := by
  generalize hsome : some e = n at h
  induction h with
  | nil => cases hsome
  | stops hbad =>
    cases hsome
    exact ⟨[], _, _, rfl, List.forall_mem_nil _, hbad⟩
  | goesOn hgood _ ih =>
    obtain ⟨body, s, r, rfl, hbody, hbad⟩ := ih hsome
    exact ⟨_ :: body, s, r, rfl, List.forall_mem_cons.2 ⟨hgood, hbody⟩, hbad⟩

/-- A transaction whose end does not fail ends with it, if it asks for it. -/
theorem Bracketed.commit_last {result : Except DatabaseError Unit} (h : Bracketed events result)
    (hend : ∀ e, .commit (.error e) ∉ events) (hmem : .commit ∈ events.map Event.step) :
    ∃ before, events.map Event.step = before ++ [.commit] ∧ .commit ∉ before := by
  have hbody {body : List Event} (hgood : ∀ x ∈ body, x.Succeeds) :
      .commit ∉ body.map Event.step := by
    intro h
    obtain ⟨x, hx, hstep⟩ := List.mem_map.1 h
    have hsucceeds := hgood x hx
    cases x with
    | statement s r => cases hstep
    | begin r => cases hsucceeds
    | commit r => cases hsucceeds
    | rollback => cases hsucceeds
  cases h with
  | refused e => cases List.mem_singleton.1 hmem
  | @committed body hgood =>
    refine ⟨.begin :: body.map Event.step, ?_, ?_⟩
    · rw [List.map_cons, List.map_append]
      rfl
    · rw [List.mem_cons, not_or]
      exact ⟨nofun, hbody hgood⟩
  | @uncommitted body hgood e =>
    refine absurd ?_ (hend e)
    exact List.mem_cons_of_mem _ (List.mem_append_right _ List.mem_cons_self)
  | @undone body s r e hgood hbad =>
    rw [List.map_cons, List.map_append, List.mem_cons, List.mem_append] at hmem
    rcases hmem with h | h | h
    · cases h
    · exact absurd h (hbody hgood)
    · rcases List.mem_cons.1 h with h | h
      · cases h
      · cases List.mem_singleton.1 h

theorem commit_ok_of_script {α : Type} (m : Session Step Step.Reply α) (script : Script)
    (e : DatabaseError) : .commit (.error e) ∉ log Script.answer script m := by
  induction m generalizing script with
  | done a => exact List.not_mem_nil
  | ask q next ih =>
    rw [log, List.mem_cons, not_or]
    refine ⟨fun h => ?_, ih _ _⟩
    cases q <;> cases h

section Bounds

variable {m : Course Unit}

theorem log_closing (answer : (q : Step) → σ → q.Reply × σ) (st : σ)
    (r : Except DatabaseError Unit) :
    let ending := log answer st (closing r)
    let result := ((closing r).run answer st).result
    (∃ e, r = .error e ∧ ending = [.rollback] ∧ result = .error e) ∨
      r = .ok () ∧ ((ending = [.commit (.ok ())] ∧ result = .ok ()) ∨
        ∃ e, ending = [.commit (.error e), .rollback] ∧ result = .error e) := by
  obtain e | ⟨⟩ := r
  · exact .inl ⟨e, rfl, rfl, rfl⟩
  · refine .inr ⟨rfl, ?_⟩
    simp only [closing, log, Session.run]
    generalize answer .commit st = p
    obtain ⟨e | ⟨⟩, st'⟩ := p
    · exact .inr ⟨e, rfl, rfl⟩
    · exact .inl ⟨rfl, rfl⟩

theorem log_inTransaction (answer : (q : Step) → σ → q.Reply × σ) (st : σ) (m : Course Unit) :
    let events := log answer st (inTransaction m).run
    let result := ((inTransaction m).run.run answer st).result
    let t := m.run.run answer (answer .begin st).2
    (∃ e, (answer .begin st).1 = .error e ∧ events = [.begin (.error e)] ∧ result = .error e) ∨
      (answer .begin st).1 = .ok () ∧
      events = .begin (.ok ()) ::
        (log answer (answer .begin st).2 m.run ++ log answer t.state (closing t.result)) ∧
      result = ((closing t.result).run answer t.state).result := by
  simp only [run_inTransaction, log, Session.run]
  generalize answer .begin st = p
  obtain ⟨e | ⟨⟩, st'⟩ := p
  · exact .inl ⟨e, rfl, rfl, rfl⟩
  · refine .inr ⟨rfl, ?_, ?_⟩
    · exact congrArg (Event.begin (.ok ()) :: ·) (log_sessionBind m.run closing)
    · have hend := congrArg Session.Trace.result (Session.run_bind answer st' m.run closing)
      exact hend

theorem bracketed_inTransaction (hm : m.Sends answer (answer .begin st).2 ss) :
    Bracketed (log answer st (inTransaction m).run)
      ((inTransaction m).run.run answer st).result := by
  rw [Course.Sends] at hm
  rcases log_inTransaction answer st m with
    ⟨e, _, hlog, hresult⟩ | ⟨_, hlog, hresult⟩
  · rw [hlog, hresult]
    exact .refused e
  · rw [hlog, hresult]
    generalize m.run.run answer (answer .begin st).2 = t at hm ⊢
    rcases log_closing answer t.state t.result with
      ⟨e, hr, hending, hend⟩ | ⟨hr, ⟨hending, hend⟩ | ⟨e, hending, hend⟩⟩
    · rw [hr] at hm
      obtain ⟨body, s, r, hbody, hgood, hbad⟩ := hm.exists_last
      rw [hending, hend, hbody, List.append_assoc]
      exact .undone hgood hbad
    · rw [hr] at hm
      rw [hending, hend]
      exact .committed hm.succeeds
    · rw [hr] at hm
      rw [hending, hend]
      exact .uncommitted hm.succeeds e

theorem mem_log_inTransaction_iff {r : Except DatabaseError Effect} :
    .statement s r ∈ log answer st (inTransaction m).run ↔
      (answer .begin st).1 = .ok () ∧ .statement s r ∈ log answer (answer .begin st).2 m.run := by
  rcases log_inTransaction answer st m with
    ⟨e, hbegin, hlog, _⟩ | ⟨hbegin, hlog, _⟩
  · rw [hlog, hbegin]
    refine iff_of_false (fun h => ?_) fun h => nomatch h.1
    cases List.mem_singleton.1 h
  · rw [hlog, List.mem_cons, List.mem_append, and_iff_right hbegin, or_iff_right (nomatch ·)]
    generalize m.run.run answer (answer .begin st).2 = t
    refine or_iff_left fun h => ?_
    rcases log_closing answer t.state t.result with
      ⟨_, _, hending, _⟩ | ⟨_, ⟨hending, _⟩ | ⟨_, hending, _⟩⟩
    · rw [hending] at h
      cases List.mem_singleton.1 h
    · rw [hending] at h
      cases List.mem_singleton.1 h
    · rw [hending] at h
      rcases List.mem_cons.1 h with h | h
      · cases h
      · cases List.mem_singleton.1 h

theorem result_inTransaction (hm : (m.run.run answer (answer .begin st).2).result = .error e) :
    ∃ e, ((inTransaction m).run.run answer st).result = .error e := by
  rcases log_inTransaction answer st m with
    ⟨e, _, _, hresult⟩ | ⟨_, _, hresult⟩
  · exact ⟨e, hresult⟩
  · rw [hm] at hresult
    exact ⟨e, hresult⟩

end Bounds

end Catalog.Migration
