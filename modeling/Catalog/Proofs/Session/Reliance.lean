import Catalog.Proofs.Session.Interleaving

namespace Catalog

variable {Q C W σ α : Type} {R : Q → Type} {A : C → Type}

/-- Whether each answer to a session does as `step` says, from one state to another and with what is
left of the session, if the state has moved as `rely` says since the answer before. -/
def Session.Relies (answer : W → (q : Q) → σ → R q × σ) (rely : σ → σ → Prop)
    (step : σ → Session Q R α → σ → Prop) : Session Q R α → σ → Prop
  | .done _, _ => True
  | .ask q next, s => ∀ w t, rely s t →
      step t (next (answer w q t).1) (answer w q t).2 ∧
        (next (answer w q t).1).Relies answer rely step (answer w q t).2

theorem Session.Relies.of_rely {answer : W → (q : Q) → σ → R q × σ} {rely : σ → σ → Prop}
    {step : σ → Session Q R α → σ → Prop} {m : Session Q R α} {s t : σ}
    (h : m.Relies answer rely step s) (hst : ∀ u, rely t u → rely s u) :
    m.Relies answer rely step t := by
  cases m with
  | done a => trivial
  | ask q next => exact fun w u htu => h w u (hst u htu)

def Task.isOpen (task : Task Q R A) : Bool :=
  match task.rest with
  | .done _ => false
  | .ask .. => true

namespace Scene

variable {course : (c : C) → Session Q R (A c)} {answer : W → (q : Q) → σ → R q × σ}
  {S : Scene Q R A σ} {i : Nat} {c : C} {q : Q} {next : R q → Session Q R (A c)}

theorem move_cases (course : (c : C) → Session Q R (A c)) (answer : W → (q : Q) → σ → R q × σ)
    (S : Scene Q R A σ) (m : Move C W) :
    S.move course answer m = S ∨
      (∃ c, S.move course answer m = S.begun ⟨c, course c⟩) ∨
      ∃ i c q next w, S.tasks[i]? = some ⟨c, .ask q next⟩ ∧ S.move course answer m =
        S.answered i ⟨c, next (answer w q S.state).1⟩ (answer w q S.state).2 := by
  cases m with
  | begins c => exact .inr (.inl ⟨c, rfl⟩)
  | answers i w =>
    rw [move]
    split
    · rename_i c q next htask
      exact .inr (.inr ⟨i, c, q, next, w, htask, rfl⟩)
    · exact .inl rfl

theorem endings_subset_move (S : Scene Q R A σ) (m : Move C W) :
    S.endings ⊆ (S.move course answer m).endings := by
  rcases S.move_cases course answer m with
    h | ⟨c, h⟩ | ⟨i, c, q, next, w, _, h⟩
  · exact fun e he => h.symm ▸ he
  · exact fun e he => h.symm ▸ List.mem_append_left _ he
  · exact fun e he => h.symm ▸ List.mem_append_left _ he

theorem endings_subset_play (S : Scene Q R A σ) (moves : List (Move C W)) :
    S.endings ⊆ (S.play course answer moves).endings := by
  induction moves generalizing S with
  | nil => exact List.Subset.refl _
  | cons m moves ih => exact List.Subset.trans (S.endings_subset_move m) (ih _)

/-- Whether something is true of a scene and of all that moves lead to, one after the other. -/
def Always (course : (c : C) → Session Q R (A c)) (answer : W → (q : Q) → σ → R q × σ)
    (P : Scene Q R A σ → Prop) : Scene Q R A σ → List (Move C W) → Prop
  | S, [] => P S
  | S, m :: moves => P S ∧ Always course answer P (S.move course answer m) moves

instance decidableAlways (P : Scene Q R A σ → Prop) [DecidablePred P] :
    (S : Scene Q R A σ) → (moves : List (Move C W)) → Decidable (Always course answer P S moves)
  | S, [] => inferInstanceAs (Decidable (P S))
  | S, m :: moves =>
    have := decidableAlways P (S.move course answer m) moves
    inferInstanceAs (Decidable (P S ∧ Always course answer P (S.move course answer m) moves))

theorem Always.head {P : Scene Q R A σ → Prop} {moves : List (Move C W)}
    (h : Always course answer P S moves) : P S := by
  cases moves with
  | nil => exact h
  | cons m moves => exact h.1

variable {rely : C → σ → σ → Prop} {step : (c : C) → σ → Session Q R (A c) → σ → Prop}

/-- All that has been relied on since each task was answered last has come true. -/
def Reliable (answer : W → (q : Q) → σ → R q × σ) (rely : C → σ → σ → Prop)
    (step : (c : C) → σ → Session Q R (A c) → σ → Prop) (S : Scene Q R A σ) : Prop :=
  ∀ task ∈ S.tasks, task.rest.Relies answer (rely task.call) (step task.call) S.state

theorem Reliable.begun (h : S.Reliable answer rely step) (c : C)
    (hcourse : (course c).Relies answer (rely c) (step c) S.state) :
    (S.begun ⟨c, course c⟩).Reliable answer rely step := by
  intro task htask
  rcases List.mem_append.1 htask with htask | htask
  · exact h task htask
  · cases List.mem_singleton.1 htask
    exact hcourse

theorem Reliable.answered (h : S.Reliable answer rely step)
    (htask : S.tasks[i]? = some ⟨c, .ask q next⟩) (w : W)
    (hrefl : rely c S.state S.state) :
    step c S.state (next (answer w q S.state).1) (answer w q S.state).2 ∧
      ((∀ j task, j ≠ i → S.tasks[j]? = some task → task.isOpen = true →
        ∀ s, rely task.call (answer w q S.state).2 s → rely task.call S.state s) →
      (S.answered i ⟨c, next (answer w q S.state).1⟩ (answer w q S.state).2).Reliable
        answer rely step) := by
  obtain ⟨hstep, hnext⟩ := h _ (List.mem_of_getElem? htask) w S.state hrefl
  refine ⟨hstep, fun hothers task hmem => ?_⟩
  obtain ⟨j, hj⟩ := List.getElem?_of_mem hmem
  change (S.tasks.set i _)[j]? = some task at hj
  by_cases hji : j = i
  · cases hji
    rw [List.getElem?_set_self (List.getElem?_eq_some_iff.1 htask).1] at hj
    cases hj
    exact hnext
  · rw [List.getElem?_set_ne (Ne.symm hji)] at hj
    cases hrest : task.rest with
    | done a => trivial
    | ask q' next' =>
      have hopen : task.isOpen = true := by rw [Task.isOpen, hrest]
      rw [← hrest]
      exact (h task (List.mem_of_getElem? hj)).of_rely (hothers j task hji hj hopen)

end Scene

end Catalog
