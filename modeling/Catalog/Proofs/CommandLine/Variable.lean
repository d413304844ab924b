import Catalog.Program
import Catalog.Proofs.Settings.Backend
import Catalog.Proofs.Settings.EnvFile
import Mathlib.Control.Monad.Basic

namespace Catalog

theorem bind_eq_ok_iff {ε α β : Type} {r : Except ε α} {f : α → Except ε β} {b : β} :
    (r >>= f) = .ok b ↔ ∃ a, r = .ok a ∧ f a = .ok b := by
  cases r with
  | ok a =>
    constructor
    · intro h
      exact ⟨a, rfl, h⟩
    · rintro ⟨_, ⟨⟩, h⟩
      exact h
  | error e =>
    constructor
    · rintro ⟨⟩
    · rintro ⟨_, ⟨⟩, _⟩

namespace CommandLine

variable {l : Level}

def Level.namesBackend (l : Level) : Bool :=
  match l.resolve with
  | .ok l => l.values.has .backend
  | .error _ => false

def State.levels : State → List Level
  | .reading outer l => l :: outer
  | .helping _ => []

theorem Level.of_finish_none {isLast : Bool} {vs : Values} (h : l.finish none isLast = .ok vs) :
    ∃ l', l.resolve = .ok l' ∧ (isLast && !l'.scope.commands.isEmpty) = false ∧ vs = l'.values := by
  rw [Level.finish] at h
  obtain ⟨l', hl, h⟩ := bind_eq_ok_iff.1 h
  change (if !l'.values.has .backend then _ else _) = _ at h
  rw [ite_self] at h
  cases hlast : isLast && !l'.scope.commands.isEmpty with
  | true =>
    rw [if_pos hlast] at h
    cases h
  | false =>
    rw [hlast] at h
    cases h
    exact ⟨l', hl, hlast, rfl⟩

theorem State.of_finish_none {outer : List Level} {i : Invocation}
    (h : (State.reading outer l).finish none = .ok i) :
    ∃ vs build command around, l.finish none true = .ok vs ∧ l.scope.build? = some build ∧
      build vs = .ok command ∧ finishOuter none outer = .ok around ∧
      i = State.invocation none command (vs :: around) := by
  rw [State.finish] at h
  obtain ⟨vs, hl, h⟩ := bind_eq_ok_iff.1 h
  cases hbuild : l.scope.build? with
  | none =>
    rw [hbuild] at h
    cases h
  | some build =>
    rw [hbuild] at h
    obtain ⟨command, hcommand, h⟩ := bind_eq_ok_iff.1 h
    obtain ⟨around, haround, h⟩ := bind_eq_ok_iff.1 h
    cases h
    exact ⟨vs, build, command, around, hl, rfl, hcommand, haround, rfl⟩

def checked {α : Type} (isRight : Bool) (a : α) : Except UsageError α :=
  if isRight then .ok a else .error (.invalidValue .backend)

theorem checked_bind {α β : Type} {isRight isRight' : Bool} {a : α} {b : β}
    {f : α → Except UsageError β} (h : f a = checked isRight' b) :
    (checked isRight a >>= f) = checked (isRight && isRight') b := by
  cases isRight with
  | true => exact h
  | false => rfl

theorem checked_map {α β : Type} (isRight : Bool) (a : α) (g : α → β) :
    (do return g (← checked isRight a)) = checked isRight (g a) := by
  cases isRight <;> rfl

/-- Whether the text of a variable is right for a level: it names a backend, or the option goes
before it there. -/
def Level.tolerates (v : String) (l : Level) : Bool :=
  (Backend.ofOption? true v).isSome || l.namesBackend

theorem Level.finish_some {isLast : Bool} {vs : Values} (h : l.finish none isLast = .ok vs)
    (v : String) : l.finish (some v) isLast = checked (l.tolerates v) vs := by
  obtain ⟨l', hl, hlast, rfl⟩ := Level.of_finish_none h
  rw [Level.finish, Level.tolerates, Level.namesBackend, hl]
  change (if !l'.values.has .backend then (Key.backend.read v).bind _ else _) = _
  rw [Key.read, checked]
  cases hb : l'.values.has .backend <;> cases Backend.ofOption? true v <;>
    simp [Except.bind, hb, hlast]

theorem State.finishOuter_some {ls : List Level} {vss : List Values}
    (h : finishOuter none ls = .ok vss) (v : String) :
    finishOuter (some v) ls = checked (ls.all (Level.tolerates v)) vss := by
  induction ls generalizing vss with
  | nil =>
    cases h
    rfl
  | cons l ls ih =>
    rw [finishOuter] at h ⊢
    obtain ⟨vs, hl, h⟩ := bind_eq_ok_iff.1 h
    obtain ⟨rest, hrest, h⟩ := bind_eq_ok_iff.1 h
    cases h
    rw [Level.finish_some hl, ih hrest, List.all_cons]
    exact checked_bind (checked_map _ rest (vs :: ·))

theorem State.finish_some {state : State} {i : Invocation} (h : state.finish none = .ok i)
    (v : String) :
    state.finish (some v) = checked (state.levels.all (Level.tolerates v))
      { i with backend := i.backend <|> Backend.ofOption? true v } := by
  cases state with
  | helping commands => cases h
  | reading outer l =>
    obtain ⟨vs, build, command, around, hl, hbuild, hcommand, haround, rfl⟩ :=
      State.of_finish_none h
    rw [State.finish, Level.finish_some hl, State.levels, List.all_cons]
    apply checked_bind
    rw [hbuild]
    change (build vs).bind _ = _
    rw [hcommand]
    change (do return State.invocation (some v) command (vs :: (← finishOuter (some v) outer))) = _
    rw [State.finishOuter_some haround, checked_map]
    simp [State.invocation]

theorem all_tolerates (v : String) (ls : List Level) :
    ls.all (Level.tolerates v) = ((Backend.ofOption? true v).isSome || ls.all Level.namesBackend) := by
  change (ls.all fun l => (Backend.ofOption? true v).isSome || l.namesBackend) = _
  cases (Backend.ofOption? true v).isSome with
  | true => exact List.all_eq_true.2 fun _ _ => rfl
  | false => rfl

def levels (words : List String) : List Level :=
  match words.foldlM State.step (.reading [] (.ofScope root true)) with
  | .ok state => state.levels
  | .error _ => []

theorem parse_some {words : List String} {i : Invocation} (h : parse none words = .ok i)
    (v : String) : parse (some v) words = checked ((levels words).all (Level.tolerates v))
      { i with backend := i.backend <|> Backend.ofOption? true v } := by
  rw [parse] at h ⊢
  obtain ⟨state, hstate, h⟩ := bind_eq_ok_iff.1 h
  rw [levels, hstate]
  exact State.finish_some h v

end CommandLine

namespace Program

open CommandLine

variable {env env' : Environment} {words : List String} {i : Invocation} {v : String}

theorem backend_settings (hv : env'.get? backendVariable = some v) (file : Option String) :
    (settings env' file { i with backend := i.backend <|> Backend.ofOption? true v }).backend =
      (i.backend <|> Backend.ofVariable? v).getD .default := by
  have hload : ((file.map (EnvFile.load env')).getD env').get? backendVariable = some v := by
    cases file with
    | none => exact hv
    | some content => exact EnvFile.get?_load hv content
  have henv : (Settings.ofEnvironment ((file.map (EnvFile.load env')).getD env')).backend =
      (Backend.ofVariable? v).getD .default := by
    rw [Settings.ofEnvironment]
    change ((Environment.get? _ backendVariable).bind _).getD _ = _
    rw [hload]
    rfl
  rw [settings]
  cases hi : i.backend with
  | some b => rfl
  | none =>
    cases ho : Backend.ofOption? true v with
    | some b =>
      rw [Backend.ofVariable?_of_ofOption? ho]
      rfl
    | none => exact henv

/-- With the variable set, a command line that can be read without it comes to the same command with
the backend that is expected if and only if the text names a backend as the option does, or the
option stands at each level. Otherwise the text is refused. -/
theorem variable_harmless_iff (hunset : env.get? backendVariable = none)
    (hi : invocation env words = .ok i) (hv : env'.get? backendVariable = some v) :
    ((∃ i', invocation env' words = .ok i' ∧ i'.command = i.command ∧ i'.verbose = i.verbose ∧
        ∀ file, (settings env' file i').backend =
          (i.backend <|> Backend.ofVariable? v).getD .default) ↔
      (Backend.ofOption? true v).isSome ∨ ∀ l ∈ levels words, l.namesBackend) ∧
    (¬((Backend.ofOption? true v).isSome ∨ ∀ l ∈ levels words, l.namesBackend) →
      invocation env' words = .error (.invalidValue .backend)) := by
  rw [invocation, hunset] at hi
  have hparse : invocation env' words = checked ((levels words).all (Level.tolerates v))
      { i with backend := i.backend <|> Backend.ofOption? true v } := by
    rw [invocation, hv]
    exact parse_some hi v
  have hall : (levels words).all (Level.tolerates v) = true ↔
      (Backend.ofOption? true v).isSome ∨ ∀ l ∈ levels words, l.namesBackend := by
    rw [all_tolerates, Bool.or_eq_true, List.all_eq_true]
  rw [hparse, ← hall, checked]
  cases (levels words).all (Level.tolerates v) with
  | true =>
    refine ⟨iff_of_true ⟨_, rfl, rfl, rfl, backend_settings hv⟩ rfl, fun h => absurd rfl h⟩
  | false =>
    refine ⟨iff_of_false ?_ Bool.false_ne_true, fun _ => rfl⟩
    rintro ⟨i', h, _⟩
    cases h

theorem variable_harmless_raw :
    let env' : Environment := [(backendVariable, "raw")]
    let i : Invocation := { verbose := false, backend := none, command := .sql {} }
    invocation [] ["sql"] = .ok i ∧ env'.get? backendVariable = some "raw" ∧
      (Backend.ofOption? true "raw").isSome ∧
      ∃ i', invocation env' ["sql"] = .ok i' ∧ i'.command = i.command ∧ i'.verbose = i.verbose ∧
        ∀ file, (settings env' file i').backend =
          (i.backend <|> Backend.ofVariable? "raw").getD .default := by
  intro env' i
  have hi : invocation [] ["sql"] = .ok i := by decide +kernel
  have hv : env'.get? backendVariable = some "raw" := by decide +kernel
  have hraw : (Backend.ofOption? true "raw").isSome := by decide +kernel
  exact ⟨hi, hv, hraw, (variable_harmless_iff rfl hi hv).1.2 (.inl hraw)⟩

/-- A command line that can be read is refused when the variable is set to no name of a backend, and
also when it is set to one with blanks around it. -/
theorem variable_refused :
    invocation [] ["sql"] = .ok { verbose := false, backend := none, command := .sql {} } ∧
      invocation [(backendVariable, "mongo")] ["sql"] = .error (.invalidValue .backend) ∧
      Backend.ofVariable? " orm " = some .orm ∧
      invocation [(backendVariable, " orm ")] ["sql"] = .error (.invalidValue .backend) := by
  decide +kernel

end Program

end Catalog
