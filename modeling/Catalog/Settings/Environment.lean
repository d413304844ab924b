namespace Catalog

/-- Variables and their values. The first value of a variable is the one that counts. -/
abbrev Environment := List (String × String)

namespace Environment

def valueIn? : List Char → List Char → Option (List Char)
  | [], '=' :: value => some value
  | n :: name, c :: cs => if n = c then valueIn? name cs else none
  | _, _ => none

/-- The value that a variable has under a name. A variable is kept as one text, the name before an
equality sign and the value after it. Under a longer name, with equality signs in it, stands what follows
in that text. -/
def valueUnder? (name : String) (v : String × String) : Option String :=
  (valueIn? name.toList (v.1.toList ++ '=' :: v.2.toList)).map String.ofList

def get? (env : Environment) (name : String) : Option String :=
  env.findSome? (valueUnder? name)

def setDefault (env : Environment) (name value : String) : Environment :=
  env ++ [(name, value)]

theorem valueIn?_append {name other : List Char} (hn : '=' ∉ name) (ho : '=' ∉ other)
    (value : List Char) :
    valueIn? name (other ++ '=' :: value) = if name = other then some value else none := by
  induction name generalizing other with
  | nil =>
    cases other with
    | nil => rfl
    | cons c other =>
      have : c ≠ '=' := fun h => ho (h ▸ List.mem_cons_self)
      simp [valueIn?, this]
  | cons n name ih =>
    cases other with
    | nil =>
      have : n ≠ '=' := fun h => hn (h ▸ List.mem_cons_self)
      simp [valueIn?, this]
    | cons c other =>
      have := ih (fun h => hn (.tail n h)) (fun h => ho (.tail c h))
      by_cases h : n = c <;> simp [valueIn?, h, this]

theorem valueUnder?_of_notMem {name : String} {v : String × String} (hn : '=' ∉ name.toList)
    (hv : '=' ∉ v.1.toList) : valueUnder? name v = if name = v.1 then some v.2 else none := by
  rw [valueUnder?, valueIn?_append hn hv]
  by_cases h : name = v.1
  · simp [h]
  · have : name.toList ≠ v.1.toList := fun e => h (String.toList_inj.1 e)
    simp [h, this]

theorem get?_eq_lookup {env : Environment} {name : String} (hn : '=' ∉ name.toList)
    (henv : ∀ v ∈ env, '=' ∉ v.1.toList) : env.get? name = env.lookup name := by
  induction env with
  | nil => rfl
  | cons v env ih =>
    have h := valueUnder?_of_notMem hn (henv v List.mem_cons_self)
    have ih := ih fun w hw => henv w (.tail v hw)
    obtain ⟨key, value⟩ := v
    rw [get?, List.findSome?_cons, h, List.lookup_cons]
    by_cases hv : name = key
    · simp [hv]
    · simpa [hv, beq_eq_false_iff_ne.2 hv, get?] using ih

end Environment

end Catalog
