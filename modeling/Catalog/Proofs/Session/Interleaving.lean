import Catalog.Session

namespace Catalog

variable {Q C W σ α β : Type} {R : Q → Type} {A : C → Type}

structure Task (Q : Type) (R : Q → Type) {C : Type} (A : C → Type) where
  call : C
  rest : Session Q R (A call)

/-- The end of a call: its result, and the state before and after the last answer to it. -/
structure Ending {C : Type} (A : C → Type) (σ : Type) where
  call : C
  result : A call
  before : σ
  after : σ

def Task.endings (task : Task Q R A) (before after : σ) : List (Ending A σ) :=
  match task.rest with
  | .done a => [⟨task.call, a, before, after⟩]
  | .ask .. => []

theorem Task.endings_of_done {task : Task Q R A} {a : A task.call} (h : task.rest = .done a)
    (before after : σ) : task.endings before after = [⟨task.call, a, before, after⟩] := by
  rw [endings, h]

theorem Task.endings_of_ask {task : Task Q R A} {q : Q} {next : R q → Session Q R (A task.call)}
    (h : task.rest = .ask q next) (before after : σ) : task.endings before after = [] := by
  rw [endings, h]

/-- What may happen next: a call begins, or the question that a task waits with is answered in some
way. -/
inductive Move (C W : Type) where
  | begins (c : C)
  | answers (i : Nat) (w : W)

structure Scene (Q : Type) (R : Q → Type) {C : Type} (A : C → Type) (σ : Type) where
  state : σ
  tasks : List (Task Q R A)
  endings : List (Ending A σ)

namespace Scene

def start (s : σ) : Scene Q R A σ := ⟨s, [], []⟩

def begun (S : Scene Q R A σ) (task : Task Q R A) : Scene Q R A σ where
  state := S.state
  tasks := S.tasks ++ [task]
  endings := S.endings ++ task.endings S.state S.state

def answered (S : Scene Q R A σ) (i : Nat) (task : Task Q R A) (s : σ) : Scene Q R A σ where
  state := s
  tasks := S.tasks.set i task
  endings := S.endings ++ task.endings S.state s

variable (course : (c : C) → Session Q R (A c)) (answer : W → (q : Q) → σ → R q × σ)

def move (S : Scene Q R A σ) : Move C W → Scene Q R A σ
  | .begins c => S.begun ⟨c, course c⟩
  | .answers i w =>
    match S.tasks[i]? with
    | some ⟨c, .ask q next⟩ =>
      let reply := answer w q S.state
      S.answered i ⟨c, next reply.1⟩ reply.2
    | _ => S

def play (S : Scene Q R A σ) (moves : List (Move C W)) : Scene Q R A σ :=
  moves.foldl (move course answer) S

variable {course answer} {S : Scene Q R A σ}

theorem play_induction {P : Scene Q R A σ → Prop}
    (hbegun : ∀ S c, P S → P (S.begun ⟨c, course c⟩))
    (hanswered : ∀ S i c q next w, P S → S.tasks[i]? = some ⟨c, .ask q next⟩ →
      P (S.answered i ⟨c, next (answer w q S.state).1⟩ (answer w q S.state).2))
    (hS : P S) (moves : List (Move C W)) : P (S.play course answer moves) := by
  induction moves generalizing S with
  | nil => exact hS
  | cons m moves ih =>
    apply ih
    cases m with
    | begins c => exact hbegun S c hS
    | answers i w =>
      rw [move]
      split
      · rename_i c q next htask
        exact hanswered S i c q next w hS htask
      · exact hS

end Scene

/-- Each answer to a session moves the state as `good` says, whatever the state has become since the
answer before, and the result is as `post` says. -/
def Session.Ensures (answer : W → (q : Q) → σ → R q × σ) (good : σ → σ → Prop) (post : α → Prop) :
    Session Q R α → Prop
  | .done a => post a
  | .ask q next =>
    ∀ w s, good s (answer w q s).2 ∧ (next (answer w q s).1).Ensures answer good post

section Ensures

variable {answer : W → (q : Q) → σ → R q × σ} {good : σ → σ → Prop}

theorem Session.Ensures.mono {m : Session Q R α} {post post' : α → Prop}
    (h : m.Ensures answer good post) (hpost : ∀ a, post a → post' a) :
    m.Ensures answer good post' := by
  induction m with
  | done a => exact hpost a h
  | ask q next ih => exact fun w s => ⟨(h w s).1, ih _ (h w s).2⟩

theorem Session.ensures_bind {m : Session Q R α} {f : α → Session Q R β} {post : β → Prop} :
    (m.bind f).Ensures answer good post ↔
      m.Ensures answer good fun a => (f a).Ensures answer good post := by
  induction m with
  | done a => exact Iff.rfl
  | ask q next ih => exact forall₂_congr fun w s => and_congr_right fun _ => ih _

theorem Scene.play_ensures {course : (c : C) → Session Q R (A c)} {post : (c : C) → A c → Prop}
    (hrefl : ∀ s, good s s) (htrans : ∀ s t u, good s t → good t u → good s u)
    (hcourse : ∀ c, (course c).Ensures answer good (post c)) {S : Scene Q R A σ}
    (hS : ∀ task ∈ S.tasks, task.rest.Ensures answer good (post task.call))
    (moves : List (Move C W)) :
    good S.state (S.play course answer moves).state ∧
      ∀ task ∈ (S.play course answer moves).tasks,
        task.rest.Ensures answer good (post task.call) := by
  apply play_induction (P := fun T => good S.state T.state ∧
    ∀ task ∈ T.tasks, task.rest.Ensures answer good (post task.call))
  · rintro T c ⟨hgood, hT⟩
    refine ⟨hgood, fun task htask => ?_⟩
    rcases List.mem_append.1 htask with htask | htask
    · exact hT task htask
    · cases List.mem_singleton.1 htask
      exact hcourse c
  · rintro T i c q next w ⟨hgood, hT⟩ htask
    obtain ⟨hstep, hnext⟩ := hT _ (List.mem_of_getElem? htask) w T.state
    refine ⟨htrans _ _ _ hgood hstep, fun task htask => ?_⟩
    rcases List.mem_or_eq_of_mem_set htask with htask | rfl
    · exact hT task htask
    · exact hnext
  · exact ⟨hrefl _, hS⟩

end Ensures

end Catalog
