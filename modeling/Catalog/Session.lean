import Catalog.Duration

namespace Catalog

/-- A course of questions and answers that ends with a result. An answer to `q` has the type
`R q`. -/
inductive Session (Q : Type) (R : Q → Type) (α : Type) where
  | done (result : α)
  | ask (q : Q) (next : R q → Session Q R α)

namespace Session

variable {Q Q' : Type} {R : Q → Type} {R' : Q' → Type} {α β σ : Type}

def bind : Session Q R α → (α → Session Q R β) → Session Q R β
  | done a, f => f a
  | ask q next, f => ask q fun r => (next r).bind f

theorem bind_done (m : Session Q R α) : m.bind done = m := by
  induction m with
  | done a => rfl
  | ask q next ih =>
    simp only [bind]
    congr 1
    funext r
    exact ih r

theorem bind_assoc {γ : Type} (m : Session Q R α) (f : α → Session Q R β) (g : β → Session Q R γ) :
    (m.bind f).bind g = m.bind fun a => (f a).bind g := by
  induction m with
  | done a => rfl
  | ask q next ih =>
    simp only [bind]
    congr 1
    funext r
    exact ih r

instance : Monad (Session Q R) where
  pure := done
  bind := bind

instance : LawfulMonad (Session Q R) :=
  LawfulMonad.mk' (Session Q R) bind_done (fun _ _ => rfl) bind_assoc

def question (q : Q) : Session Q R (R q) :=
  ask q done

/-- Answers each question by a session of another kind. -/
def through (answer : (q : Q) → Session Q' R' (R q)) : Session Q R α → Session Q' R' α
  | done a => done a
  | ask q next => (answer q).bind fun r => (next r).through answer

/-- What is left behind by a session: the questions that it asked and the state that answering them
led to. -/
structure Trace (Q σ α : Type) where
  result : α
  asked : List Q
  state : σ

def run (answer : (q : Q) → σ → R q × σ) (s : σ) : Session Q R α → Trace Q σ α
  | done a => ⟨a, [], s⟩
  | ask q next =>
    let reply := answer q s
    let t := (next reply.1).run answer reply.2
    { t with asked := q :: t.asked }

theorem run_bind (answer : (q : Q) → σ → R q × σ) (s : σ) (m : Session Q R α)
    (f : α → Session Q R β) :
    (m.bind f).run answer s =
      let t := m.run answer s
      let u := (f t.result).run answer t.state
      { u with asked := t.asked ++ u.asked } := by
  induction m generalizing s with
  | done a => rfl
  | ask q next ih => simp only [bind, run, ih, List.cons_append]

structure Timed (α : Type) where
  delay : Duration
  answer : α

/-- A session under someone who takes time to answer and a limit on the time that all of its answers
take together. It has no result if the limit is passed, and then nothing more is asked. -/
def runWithin (limit : Duration) (answer : (q : Q) → σ → Timed (R q) × σ) (elapsed : Duration)
    (s : σ) : Session Q R α → Trace Q σ (Option α)
  | done a => ⟨some a, [], s⟩
  | ask q next =>
    let reply := answer q s
    let now : Duration := ⟨elapsed.nanos + reply.1.delay.nanos⟩
    if limit.nanos < now.nanos then ⟨none, [q], reply.2⟩
    else
      let t := (next reply.1.answer).runWithin limit answer now reply.2
      { t with asked := q :: t.asked }

end Session

end Catalog
