import Catalog.Session

namespace Catalog

variable {Q : Type} {R : Q → Type} {α β γ δ ε κ σ : Type}

/-- Whether two results are the same but for what `face` leaves out of an error. -/
def SameUpTo (face : ε → κ) (r r' : Except ε α) : Prop :=
  r.mapError face = r'.mapError face

theorem SameUpTo.error {face : ε → κ} {e e' : ε} (h : face e = face e') :
    SameUpTo face (.error e : Except ε α) (.error e') :=
  congrArg Except.error h

theorem SameUpTo.cases {face : ε → κ} {r r' : Except ε α} (h : SameUpTo face r r') :
    (∃ a, r = .ok a ∧ r' = .ok a) ∨ ∃ e e', r = .error e ∧ r' = .error e' ∧ face e = face e' := by
  cases r with
  | ok a =>
    cases r' with
    | ok a' =>
      cases h
      exact .inl ⟨a, rfl, rfl⟩
    | error e' => cases h
  | error e =>
    cases r' with
    | ok a' => cases h
    | error e' => exact .inr ⟨e, e', rfl, rfl, Except.error.inj h⟩

theorem SameUpTo.map {face : ε → κ} {r r' : Except ε α} (h : SameUpTo face r r') (f : α → β) :
    SameUpTo face (r.map f) (r'.map f) := by
  obtain ⟨a, rfl, rfl⟩ | ⟨e, e', rfl, rfl, he⟩ := h.cases
  · rfl
  · exact .error he

namespace Session

/-- Whether two sessions ask the same for as long as `same` is true of the answers to them, and then
end as `post` says. -/
inductive Parallel (same : (q : Q) → R q → R q → Prop) (post : α → β → Prop) :
    Session Q R α → Session Q R β → Prop where
  | done {a : α} {b : β} : post a b → Parallel same post (.done a) (.done b)
  | ask {q : Q} {next : R q → Session Q R α} {next' : R q → Session Q R β} :
    (∀ r r', same q r r' → Parallel same post (next r) (next' r')) →
      Parallel same post (.ask q next) (.ask q next')

variable {same : (q : Q) → R q → R q → Prop} {post : α → β → Prop} {m : Session Q R α}
  {m' : Session Q R β}

theorem Parallel.bind {post' : γ → δ → Prop} {f : α → Session Q R γ} {f' : β → Session Q R δ}
    (h : m.Parallel same post m') (hf : ∀ a b, post a b → (f a).Parallel same post' (f' b)) :
    (m.bind f).Parallel same post' (m'.bind f') := by
  induction h with
  | done hab => exact hf _ _ hab
  | ask _ ih => exact .ask ih

structure Trace.Match (post : α → β → Prop) (agree : σ → σ → Prop) (t : Trace Q σ α)
    (t' : Trace Q σ β) : Prop where
  result : post t.result t'.result
  asked : t.asked = t'.asked
  state : agree t.state t'.state

theorem Parallel.run {answer : (q : Q) → σ → R q × σ} {agree : σ → σ → Prop}
    (hanswer : ∀ q s s', agree s s' →
      same q (answer q s).1 (answer q s').1 ∧ agree (answer q s).2 (answer q s').2)
    (h : m.Parallel same post m') {s s' : σ} (hs : agree s s') :
    (m.run answer s).Match post agree (m'.run answer s') := by
  induction h generalizing s s' with
  | done hab => exact ⟨hab, rfl, hs⟩
  | @ask q _ _ _ ih =>
    obtain ⟨hr, hs⟩ := hanswer q s s' hs
    obtain ⟨hresult, hasked, hstate⟩ := ih _ _ hr hs
    exact ⟨hresult, congrArg (q :: ·) hasked, hstate⟩

theorem Parallel.runWithin {answer : (q : Q) → σ → Timed (R q) × σ} {agree : σ → σ → Prop}
    (hanswer : ∀ q s s', agree s s' → (answer q s).1.delay = (answer q s').1.delay ∧
      same q (answer q s).1.answer (answer q s').1.answer ∧ agree (answer q s).2 (answer q s').2)
    (h : m.Parallel same post m') (limit elapsed : Duration) {s s' : σ} (hs : agree s s') :
    (m.runWithin limit answer elapsed s).Match (Option.Rel post) agree
      (m'.runWithin limit answer elapsed s') := by
  induction h generalizing elapsed s s' with
  | done hab => exact ⟨.some hab, rfl, hs⟩
  | @ask q _ _ _ ih =>
    obtain ⟨hdelay, hr, hs⟩ := hanswer q s s' hs
    rw [Session.runWithin, Session.runWithin, ← hdelay]
    split
    · exact ⟨.none, rfl, hs⟩
    · obtain ⟨hresult, hasked, hstate⟩ := ih _ _ hr _ hs
      exact ⟨hresult, congrArg (q :: ·) hasked, hstate⟩

/-- Whether a course asks and ends the same with other answers of which `same` is true, but for what
`face` leaves out of the error that it may end with. -/
def Blind (same : (q : Q) → R q → R q → Prop) (face : ε → κ) (m : ExceptT ε (Session Q R) α) :
    Prop :=
  m.run.Parallel same (SameUpTo face) m.run

theorem Blind.bind {face : ε → κ} {m : ExceptT ε (Session Q R) α}
    {f : α → ExceptT ε (Session Q R) β} (h : Blind same face m) (hf : ∀ a, Blind same face (f a)) :
    Blind same face (m >>= f) := by
  change (m.run.bind (ExceptT.bindCont f)).Parallel _ _ (m.run.bind (ExceptT.bindCont f))
  apply Parallel.bind h
  intro r r' hr
  obtain ⟨a, rfl, rfl⟩ | ⟨e, e', rfl, rfl, he⟩ := hr.cases
  · exact hf a
  · exact .done (.error he)

end Session

end Catalog
