import Catalog.Json.Record
import Mathlib.Data.List.Perm.Basic

namespace Catalog.Json

variable {ms ms' : List (Option String × Json)} {name : String}

def named (name : String) (ms : List (Option String × Json)) : List (Option String × Json) :=
  ms.filter fun m => m.1 == some name

/-- The value of the first member that has a name. -/
def valueOf (ms : List (Option String × Json)) (name : String) : Option Json :=
  (named name ms).head?.map Prod.snd

theorem named_append (name : String) (ms ms' : List (Option String × Json)) :
    named name (ms ++ ms') = named name ms ++ named name ms' :=
  List.filter_append ..

theorem named_eq_nil (h : ∀ m ∈ ms, m.1 ≠ some name) : named name ms = [] :=
  List.filter_eq_nil_iff.2 fun m hm heq => h m hm (beq_iff_eq.1 heq)

theorem member?_of_le (h : (named name ms).length ≤ 1) :
    member? ms name = some (valueOf ms name) := by
  rw [named] at h
  rw [member?, valueOf, named]
  generalize (ms.filter fun m => m.1 == some name) = found at *
  obtain _ | ⟨m, _ | ⟨m', found⟩⟩ := found
  · rfl
  · rfl
  · simp at h

theorem member?_of_lt (h : 1 < (named name ms).length) : member? ms name = none := by
  rw [named] at h
  rw [member?]
  generalize (ms.filter fun m => m.1 == some name) = found at *
  obtain _ | ⟨m, _ | ⟨m', found⟩⟩ := found
  · cases h
  · exact absurd h (Nat.lt_irrefl 1)
  · rfl

theorem valueOf_of_perm (h : (named name ms).Perm (named name ms'))
    (hle : (named name ms).length ≤ 1) : valueOf ms name = valueOf ms' name := by
  rw [valueOf, valueOf]
  generalize named name ms = found at *
  obtain _ | ⟨m, _ | ⟨m', found⟩⟩ := found
  · rw [h.nil_eq]
  · rw [h.singleton_eq]
  · simp at hle

theorem mapM_eq_none {α β : Type} {f : α → Option β} {xs : List α} {x : α} (hx : x ∈ xs)
    (h : f x = none) : xs.mapM f = none := by
  induction xs with
  | nil => cases hx
  | cons y xs ih =>
    rw [List.mapM_cons]
    rcases List.mem_cons.1 hx with rfl | hx
    · rw [h]
      rfl
    · rw [ih hx]
      cases f y <;> rfl

theorem mapM_eq_some_map {α β : Type} {f : α → Option β} {g : α → β} {xs : List α}
    (h : ∀ x ∈ xs, f x = some (g x)) : xs.mapM f = some (xs.map g) := by
  induction xs with
  | nil => rfl
  | cons x xs ih =>
    obtain ⟨hx, hxs⟩ := List.forall_mem_cons.1 h
    rw [List.mapM_cons, hx, ih hxs]
    rfl

/-- Whether all keys are texts and none of some names is given twice. -/
def WellNamed (names : List String) (ms : List (Option String × Json)) : Prop :=
  (∀ m ∈ ms, m.1.isSome) ∧ ∀ name ∈ names, (named name ms).length ≤ 1

theorem fields?_obj {names : List String} (h : WellNamed names ms) (mayEndEarly : Bool) :
    (Json.obj ms).fields? names mayEndEarly = some (names.map (valueOf ms)) := by
  have hkeys : keys? ms = some (ms.map fun m => m.1.getD "") := by
    refine mapM_eq_some_map fun m hm => ?_
    obtain ⟨k, hk⟩ := Option.isSome_iff_exists.1 (h.1 m hm)
    rw [hk]
    rfl
  rw [fields?, hkeys, Option.bind_some]
  exact mapM_eq_some_map fun name hname => member?_of_le (h.2 name hname)

theorem fields?_obj_eq_none {names : List String} (h : ¬WellNamed names ms) (mayEndEarly : Bool) :
    (Json.obj ms).fields? names mayEndEarly = none := by
  rw [fields?]
  rcases Decidable.not_and_iff_or_not.1 h with hkeys | hnames
  · have hnone : keys? ms = none := by
      obtain ⟨m, hm, hk⟩ := not_forall₂.1 hkeys
      exact mapM_eq_none hm (Option.not_isSome_iff_eq_none.1 hk)
    rw [hnone]
    rfl
  · obtain ⟨name, hname, hlt⟩ := not_forall₂.1 hnames
    rw [mapM_eq_none hname (member?_of_lt (Nat.lt_of_not_le hlt))]
    cases keys? ms <;> rfl

theorem wellNamed_of_perm {names : List String} (h : ms.Perm ms') :
    WellNamed names ms ↔ WellNamed names ms' := by
  have hlength (name : String) : (named name ms).length = (named name ms').length :=
    (h.filter _).length_eq
  simp only [WellNamed, h.mem_iff, hlength]

theorem named_of_extra {names : List String} {extra : List (Option String × Json)}
    (hextra : ∀ m ∈ extra, ∃ k, m.1 = some k ∧ k ∉ names) (hname : name ∈ names) :
    named name extra = [] := by
  refine named_eq_nil fun m hm hkey => ?_
  obtain ⟨k, hk, hnot⟩ := hextra m hm
  cases hk.symm.trans hkey
  exact hnot hname

theorem wellNamed_append_iff {names : List String} {extra : List (Option String × Json)}
    (hextra : ∀ m ∈ extra, ∃ k, m.1 = some k ∧ k ∉ names) :
    WellNamed names (ms ++ extra) ↔ WellNamed names ms := by
  have hkeys : ∀ m ∈ extra, m.1.isSome := by
    intro m hm
    obtain ⟨k, hk, _⟩ := hextra m hm
    exact Option.isSome_of_eq_some hk
  have hlength : ∀ name ∈ names, (named name (ms ++ extra)).length = (named name ms).length := by
    intro name hname
    rw [named_append, named_of_extra hextra hname, List.append_nil]
  constructor
  · intro h
    refine ⟨(List.forall_mem_append.1 h.1).1, fun name hname => ?_⟩
    rw [← hlength name hname]
    exact h.2 name hname
  · intro h
    refine ⟨List.forall_mem_append.2 ⟨h.1, hkeys⟩, fun name hname => ?_⟩
    rw [hlength name hname]
    exact h.2 name hname

theorem named_cons_self (name : String) (v : Json) (ms : List (Option String × Json)) :
    named name ((some name, v) :: ms) = (some name, v) :: named name ms :=
  List.filter_cons_of_pos (beq_self_eq_true (some name))

theorem named_cons_of_ne {key : String} (h : key ≠ name) (v : Json) :
    named name ((some key, v) :: ms) = named name ms := by
  have hkey : ¬(some key == some name) = true := fun heq => h (Option.some.inj (beq_iff_eq.1 heq))
  rw [named, List.filter_cons, if_neg hkey]
  rfl

theorem wellNamed_cons_iff {names : List String} {key : String}
    (h : named key ms = []) (v : Json) :
    WellNamed names ((some key, v) :: ms) ↔ WellNamed names ms := by
  have hlength (name : String) : (named name ((some key, v) :: ms)).length ≤ 1 ↔
      (named name ms).length ≤ 1 := by
    by_cases hkey : key = name
    · subst hkey
      rw [named_cons_self, h]
      simp
    · rw [named_cons_of_ne hkey]
  simp [WellNamed, hlength]

end Catalog.Json
