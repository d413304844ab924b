import Catalog.Settings.EnvFile
import Mathlib.Data.List.TakeWhile

namespace Catalog

theorem Environment.get?_append (env vs : Environment) (name : String) :
    Environment.get? (env ++ vs) name = (env.get? name).or (Environment.get? vs name) :=
  List.findSome?_append

namespace EnvFile

variable {env : Environment} {cs rest name value : List Char} {resolve : List Char → List Char}

def definitions (env : Environment) (defined : List (String × String)) :
    List (Option (List Char)) → List (String × String)
  | [] => []
  | none :: _ => []
  | some l :: ls =>
    match definition? (resolveIn env defined) l with
    | none => []
    | some none => definitions env defined ls
    | some (some (name, value)) =>
      let v := (String.ofList name, String.ofList value)
      v :: definitions (env.setDefault v.1 v.2) (v :: defined) ls

/-- The names and values that a file is read as in an environment. -/
def pairs (env : Environment) (content : String) : List (String × String) :=
  definitions env [] (logicalLines (dropByteOrderMark content.toList))

theorem loadLines_eq (env : Environment) (defined : List (String × String))
    (ls : List (Option (List Char))) : loadLines env defined ls = env ++ definitions env defined ls := by
  induction ls generalizing env defined with
  | nil => exact (List.append_nil env).symm
  | cons line ls ih =>
    cases line with
    | none => exact (List.append_nil env).symm
    | some l =>
      rw [loadLines, definitions]
      cases definition? (resolveIn env defined) l with
      | none => exact (List.append_nil env).symm
      | some said =>
        cases said with
        | none => exact ih env defined
        | some v =>
          apply (ih _ _).trans
          rw [Environment.setDefault, List.append_assoc]
          rfl

theorem load_eq (env : Environment) (content : String) :
    load env content = env ++ pairs env content :=
  loadLines_eq env [] _

theorem get?_load {name v : String} (h : env.get? name = some v) (content : String) :
    (load env content).get? name = some v := by
  rw [load_eq, Environment.get?_append, h, Option.some_or]

theorem notMem_of_name? (h : name? cs = some (name, rest)) : '=' ∉ name := by
  rw [name?.eq_def] at h
  split at h
  · cases h
  · split at h
    · cases h
      intro hmem
      cases List.mem_takeWhile_imp hmem
    · cases h

theorem notMem_of_target? (h : target? cs = some (name, rest)) : '=' ∉ name := by
  rw [target?] at h
  obtain ⟨first, hfirst, h⟩ := Option.bind_eq_some_iff.1 h
  dsimp only at h
  split at h
  · cases h
    exact notMem_of_name? hfirst
  · split at h
    · obtain ⟨second, hsecond, h⟩ := Option.bind_eq_some_iff.1 h
      obtain ⟨_, _, h⟩ := Option.bind_eq_some_iff.1 h
      cases h
      exact notMem_of_name? hsecond
    · cases h

theorem notMem_of_definition? (h : definition? resolve cs = some (some (name, value))) :
    '=' ∉ name := by
  rw [definition?] at h
  dsimp only at h
  split at h
  · cases h
  · obtain ⟨target, htarget, h⟩ := Option.bind_eq_some_iff.1 h
    split at h
    · cases h
      exact notMem_of_target? htarget
    · obtain ⟨_, _, h⟩ := Option.bind_eq_some_iff.1 h
      cases h
      exact notMem_of_target? htarget

theorem notMem_of_mem_definitions {defined : List (String × String)}
    {ls : List (Option (List Char))} : ∀ v ∈ definitions env defined ls, '=' ∉ v.1.toList := by
  induction ls generalizing env defined with
  | nil => exact List.forall_mem_nil _
  | cons line ls ih =>
    cases line with
    | none => exact List.forall_mem_nil _
    | some l =>
      rw [definitions]
      cases h : definition? (resolveIn env defined) l with
      | none => exact List.forall_mem_nil _
      | some said =>
        cases said with
        | none => exact ih
        | some v =>
          apply List.forall_mem_cons.2 ⟨?_, ih⟩
          rw [String.toList_ofList]
          exact notMem_of_definition? h

theorem get?_pairs {name : String} (hn : '=' ∉ name.toList) (content : String) :
    Environment.get? (pairs env content) name = (pairs env content).lookup name :=
  Environment.get?_eq_lookup hn notMem_of_mem_definitions

end EnvFile

end Catalog
