import Catalog.Proofs.Store.Heeding

namespace Catalog.Store

open Session (Trace)

variable {α : Type} {m : Session Sql.Request (fun _ => Reply) α} {limit elapsed : Duration}
  {script : Script}

namespace Script

def delay : Script → Nat
  | [] => 0
  | r :: rs => r.delay.nanos + delay rs

def instant (script : Script) : Script :=
  script.map fun r => { r with delay := ⟨0⟩ }

/-- The next reply, however long it takes. -/
def next (q : Sql.Request) (script : Script) : Reply × Script :=
  ((answer q script).1.answer, (answer q script).2)

theorem delay_take_succ (q : Sql.Request) (script : Script) (n : Nat) :
    delay (script.take (n + 1)) =
      (answer q script).1.delay.nanos + delay ((answer q script).2.take n) := by
  cases script with
  | nil => rw [answer, List.take_nil, List.take_nil, Nat.zero_add]
  | cons r rs => rfl

theorem answer_instant (q : Sql.Request) (script : Script) :
    answer q script.instant =
      ({ (answer q script).1 with delay := ⟨0⟩ }, (answer q script).2.instant) := by
  cases script <;> rfl

theorem delay_instant (script : Script) (n : Nat) : delay (script.instant.take n) = 0 := by
  induction script generalizing n with
  | nil => rw [instant, List.map_nil, List.take_nil, delay]
  | cons r rs ih =>
    cases n with
    | zero => rfl
    | succ n => exact (Nat.zero_add _).trans (ih n)

end Script

open Script

theorem run_instant (m : Session Sql.Request (fun _ => Reply) α) (script : Script) :
    m.run next script.instant =
      { m.run next script with state := (m.run next script).state.instant } := by
  induction m generalizing script with
  | done a => rfl
  | ask q rest ih =>
    simp only [Session.run, next, answer_instant]
    rw [ih]

theorem runWithin_of_le
    (h : elapsed.nanos + delay (script.take (m.run next script).asked.length) ≤ limit.nanos) :
    m.runWithin limit answer elapsed script =
      { m.run next script with result := some (m.run next script).result } := by
  induction m generalizing elapsed script with
  | done a => rfl
  | ask q rest ih =>
    simp only [Session.run, List.length_cons, delay_take_succ q] at h
    rw [Session.runWithin, if_neg (by dsimp only; omega), ih]
    · rfl
    · dsimp only [next] at h ⊢
      omega

theorem runWithin_of_lt (he : elapsed.nanos ≤ limit.nanos)
    (h : limit.nanos < elapsed.nanos + delay (script.take (m.run next script).asked.length)) :
    (m.runWithin limit answer elapsed script).result = none ∧
      ∃ k < (m.run next script).asked.length,
        (m.runWithin limit answer elapsed script).asked = (m.run next script).asked.take (k + 1) ∧
        elapsed.nanos + delay (script.take k) ≤ limit.nanos ∧
        limit.nanos < elapsed.nanos + delay (script.take (k + 1)) := by
  induction m generalizing elapsed script with
  | done a =>
    -- no reply is taken, so none can be late
    exact absurd h (Nat.not_lt.2 he)
  | ask q rest ih =>
    simp only [Session.run, List.length_cons, delay_take_succ q] at h ⊢
    rw [Session.runWithin]
    dsimp only
    split
    · rename_i hlate
      exact ⟨rfl, 0, Nat.succ_pos _, rfl, he, hlate⟩
    · rename_i hnow
      have hrest : limit.nanos < elapsed.nanos + (answer q script).1.delay.nanos +
          delay ((answer q script).2.take
            ((rest (answer q script).1.answer).run next (answer q script).2).asked.length) := by
        dsimp only [next] at h
        omega
      obtain ⟨hr, k, hk, hasked, hle, hlt⟩ := ih _ (Nat.not_lt.1 hnow) hrest
      refine ⟨hr, k + 1, Nat.succ_lt_succ hk, ?_, ?_, ?_⟩
      · rw [List.take_succ_cons]
        exact congrArg (q :: ·) hasked
      · rw [delay_take_succ q]
        dsimp only at hle
        omega
      · dsimp only at hlt
        omega

theorem run_next_error {q : Sql.Request}
    {rest : Reply → Session Sql.Request (fun _ => Reply) (Except Failure α)}
    (hm : Heeds (.ask q rest)) (d : Duration) (e : DatabaseError) (rs : Script) :
    (Session.ask q rest).run next (⟨d, .error e⟩ :: rs) = ⟨.error (.ofDatabase e), [q], rs⟩ := by
  have h := congrArg (Session.run next rs) (hm.1 e)
  simp only [Session.run, next, answer] at h ⊢
  rw [h]

theorem failure_of_heeds {m : Session Sql.Request (fun _ => Reply) (Except Failure α)}
    (hm : Heeds m) {script : Script} {failure : Failure}
    (h : (m.run next script).result = .error failure) :
    failure.IsOwn ∨ ∃ r ∈ script.take (m.run next script).asked.length,
      ∃ e, r.answer = .error e ∧ failure = .ofDatabase e := by
  induction m generalizing script with
  | done r => exact .inl (hm failure h)
  | ask q rest ih =>
    cases script with
    | nil =>
      rcases ih (.ok []) (hm.2 []) h with hown | ⟨_, hr, _⟩
      · exact .inl hown
      · exact absurd (List.mem_of_mem_take hr) List.not_mem_nil
    | cons r rs =>
      obtain ⟨d, e | found⟩ := r
      · rw [run_next_error hm] at h ⊢
        exact .inr ⟨_, List.mem_cons_self, e, rfl, (Except.error.inj h).symm⟩
      · rcases ih (.ok found) (hm.2 found) h with hown | ⟨r, hr, hfailure⟩
        · exact .inl hown
        · exact .inr ⟨r, List.mem_cons_of_mem _ hr, hfailure⟩

theorem result_ne_timeout {m : Session Sql.Request (fun _ => Reply) (Except Failure α)}
    (hm : Heeds m) (script : Script) (limit : Duration) :
    (m.run next script).result ≠ .error (.timeout limit) := by
  intro h
  rcases failure_of_heeds hm h with hown | ⟨_, _, e, _, he⟩
  · exact hown
  · cases e <;> cases he

theorem perform_of_le {store : Behaviour} {c : Call}
    (h : delay (script.take ((store c).run.run next script).asked.length) ≤ limit.nanos) :
    perform store limit c script = (store c).run.run next script := by
  rw [← Nat.zero_add (delay _)] at h
  rw [perform, runWithin_of_le h]
  rfl

theorem perform_of_lt {store : Behaviour} {c : Call}
    (h : limit.nanos < delay (script.take ((store c).run.run next script).asked.length)) :
    (perform store limit c script).result = .error (.timeout limit) ∧
      ∃ k < ((store c).run.run next script).asked.length,
        (perform store limit c script).asked =
          ((store c).run.run next script).asked.take (k + 1) ∧
        delay (script.take k) ≤ limit.nanos ∧ limit.nanos < delay (script.take (k + 1)) := by
  rw [← Nat.zero_add (delay _)] at h
  have he : (⟨0⟩ : Duration).nanos ≤ limit.nanos := Nat.zero_le _
  obtain ⟨hr, k, hk, hasked, hle, hlt⟩ := runWithin_of_lt he h
  rw [Nat.zero_add] at hle hlt
  refine ⟨?_, k, hk, hasked, hle, hlt⟩
  rw [perform, hr]
  rfl

theorem perform_of_taken {store : Behaviour} {c : Call}
    (h : delay (script.take (perform store limit c script).asked.length) ≤ limit.nanos) :
    perform store limit c script = (store c).run.run next script := by
  rcases Nat.lt_or_ge limit.nanos
    (delay (script.take ((store c).run.run next script).asked.length)) with hlt | hle
  · obtain ⟨_, k, hk, hasked, _, hlate⟩ := perform_of_lt hlt
    rw [hasked, List.length_take_of_le hk] at h
    exact absurd hlate (Nat.not_lt.2 h)
  · exact perform_of_le hle

theorem perform_instant (store : Behaviour) (limit : Duration) (c : Call) (script : Script) :
    perform store limit c script.instant =
      { (store c).run.run next script with
        state := ((store c).run.run next script).state.instant } := by
  rw [perform_of_le, run_instant]
  rw [delay_instant]
  exact Nat.zero_le _

/-- The replies that a call takes when they all come at once decide what the limit does to it. If
they take no longer than the limit together, the call answers and sends the same; if they do, it
runs out of time, and sends nothing more after the statement whose reply is the first to be late. -/
theorem deadline_law (b : Backend) (limit : Duration) (c : Call) (script : Script) :
    let t := perform (Command.storeFor b) limit c script
    let u := perform (Command.storeFor b) limit c script.instant
    (t.result = .error (.timeout limit) ↔ limit.nanos < delay (script.take u.asked.length)) ∧
    (delay (script.take u.asked.length) ≤ limit.nanos →
      t.result = u.result ∧ t.asked = u.asked) ∧
    (limit.nanos < delay (script.take u.asked.length) →
      ∃ k < u.asked.length, t.asked = u.asked.take (k + 1) ∧
        delay (script.take k) ≤ limit.nanos ∧ limit.nanos < delay (script.take (k + 1))) := by
  rw [perform_instant]
  dsimp only
  refine ⟨⟨?_, fun h => (perform_of_lt h).1⟩, ?_, fun h => (perform_of_lt h).2⟩
  · intro ht
    by_contra hle
    rw [perform_of_le (Nat.not_lt.1 hle)] at ht
    exact result_ne_timeout (heeds_storeFor b c) script limit ht
  · intro hle
    rw [perform_of_le hle]
    exact ⟨rfl, rfl⟩

end Catalog.Store
