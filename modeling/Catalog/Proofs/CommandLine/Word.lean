import Catalog.CommandLine.Parser
import Mathlib.Data.List.Basic

namespace Catalog.CommandLine

def textKeys : List Key := [.search, .limit, .offset, .code, .text]

/-- A word that gives a value to an option. -/
inductive Gives : Key × Value → String → Prop where
  | verbose : Gives (.verbose, .on) "--verbose"
  | backend {b : Backend} {name : String} (h : Backend.ofOption? true name = some b) :
      Gives (.backend, .backend b) ("--" ++ Key.backend.long ++ "=" ++ name)
  | text {k : Key} (hk : k ∈ textKeys) (s : String) :
      Gives (k, .text s) ("--" ++ k.long ++ "=" ++ s)

namespace Key

variable {k : Key}

theorem long_injective {k' : Key} (h : k.long = k'.long) : k = k' := by
  revert h
  cases k <;> cases k' <;> decide

theorem find?_long {ks : List Key} (h : k ∈ ks) :
    (ks.find? fun k' => k'.long == k.long) = some k := by
  have hsome : (ks.find? fun k' => k'.long == k.long).isSome :=
    List.find?_isSome.2 ⟨k, h, beq_self_eq_true k.long⟩
  obtain ⟨k', hk'⟩ := Option.isSome_iff_exists.1 hsome
  have hlong : (k'.long == k.long) = true :=
    List.find?_some (p := fun k' : Key => k'.long == k.long) hk'
  rw [hk', long_injective (beq_iff_eq.1 hlong)]

theorem long_ne_nil (k : Key) : k.long.toList ≠ [] := by
  cases k <;> decide

theorem ne_equals_of_mem_long (k : Key) : ∀ c ∈ k.long.toList, (c != '=') = true := by
  rw [← List.all_eq_true]
  cases k <;> decide +kernel

theorem read_of_mem_textKeys (h : k ∈ textKeys) (s : String) :
    k.takesValue = true ∧ k.read s = .ok (.text s) := by
  simp only [textKeys, List.mem_cons, List.not_mem_nil, or_false] at h
  rcases h with rfl | rfl | rfl | rfl | rfl <;> exact ⟨rfl, rfl⟩

end Key

def Scope.IsPlain (s : Scope) : Prop :=
  ∀ c ∈ s.commands, c.name.toList.head? ≠ some '-'

namespace Level

variable {l : Level} {k : Key}

/-- A level at which the next word may be an option. -/
structure IsOpen (l : Level) : Prop where
  pending : l.pending = none
  onlySlots : l.onlySlots = false
  plain : l.scope.IsPlain

theorem IsOpen.resolve (h : l.IsOpen) : l.resolve = .ok l := by
  rw [Level.resolve, h.pending]

theorem isCommand_of_head? (h : l.scope.IsPlain) {word : String}
    (hword : word.toList.head? = some '-') : l.isCommand word = false := by
  have hnames : (l.scope.commands.any (·.name == word)) = false := by
    rw [List.any_eq_false]
    intro c hc heq
    rw [beq_iff_eq] at heq
    exact h c hc (heq ▸ hword)
  have hhelp : (word == "help") = false := by
    rw [beq_eq_false_iff_ne]
    rintro rfl
    cases hword
  rw [isCommand, hnames, hhelp]
  rfl

theorem takeWord_long (hl : l.IsOpen) {word name : String} {rest : List Char}
    (hname : ∀ c ∈ name.toList, (c != '=') = true) (hne : name.toList ≠ [])
    (hrest : rest = [] ∨ rest.head? = some '=')
    (hword : word.toList = '-' :: '-' :: (name.toList ++ rest)) :
    l.takeWord word = l.takeLong name (rest.tail?.map .ofList) := by
  have hstop : rest.takeWhile (· != '=') = [] ∧ rest.dropWhile (· != '=') = rest := by
    cases rest with
    | nil => exact ⟨rfl, rfl⟩
    | cons c cs =>
      rcases hrest with h | h
      · cases h
      · cases h
        exact ⟨rfl, rfl⟩
  have htake : (name.toList ++ rest).takeWhile (· != '=') = name.toList := by
    rw [List.takeWhile_append_of_pos hname, hstop.1, List.append_nil]
  have hdrop : (name.toList ++ rest).dropWhile (· != '=') = rest := by
    rw [List.dropWhile_append_of_pos hname, hstop.2]
  obtain ⟨c, cs, hcs⟩ := List.exists_cons_of_ne_nil hne
  rw [takeWord, hl.onlySlots, if_neg Bool.false_ne_true, hword]
  simp only [hcs, List.cons_append] at htake hdrop ⊢
  rw [htake, hdrop, ← hcs, String.ofList_toList]
  cases rest <;> rfl

theorem takeWord_flag (hl : l.IsOpen) (hk : k ∈ l.keys) (hflag : k.takesValue = false) :
    l.takeWord ("--" ++ k.long) = l.takeFlag k := by
  have hword : ("--" ++ k.long).toList = '-' :: '-' :: (k.long.toList ++ []) := by
    simp
  rw [takeWord_long hl k.ne_equals_of_mem_long k.long_ne_nil (.inl rfl) hword, takeLong,
    Key.find?_long hk]
  simp [hflag]

theorem takeWord_option (hl : l.IsOpen) (hk : k ∈ l.keys) (hvalue : k.takesValue = true)
    (s : String) : l.takeWord ("--" ++ k.long ++ "=" ++ s) = l.takeOption k (some s) := by
  have hword : ("--" ++ k.long ++ "=" ++ s).toList =
      '-' :: '-' :: (k.long.toList ++ '=' :: s.toList) := by
    simp
  rw [takeWord_long hl k.ne_equals_of_mem_long k.long_ne_nil (.inr rfl) hword, takeLong,
    Key.find?_long hk]
  simp [hvalue]

@[simp] theorem values_put (l : Level) (k : Key) (v : Value) :
    (l.put k v).values = l.values ++ [(k, v)] := rfl

theorem IsOpen.put (h : l.IsOpen) (k : Key) (v : Value) : (l.put k v).IsOpen :=
  ⟨h.pending, h.onlySlots, h.plain⟩

theorem settle_of_read {v : Value} {s : String} (hnew : l.values.has k = false)
    (hread : k.read s = .ok v) : l.settle k s = .ok (l.put k v) := by
  rw [settle, hnew, if_neg Bool.false_ne_true, hread]
  rfl

theorem takeWord_gives (hl : l.IsOpen) {kv : Key × Value} {word : String} (hword : Gives kv word)
    (hk : kv.1 ∈ l.keys) (hnew : l.values.has kv.1 = false) :
    l.takeWord word = .ok (l.put kv.1 kv.2) := by
  cases hword with
  | verbose =>
    have htake : l.takeFlag .verbose = .ok (l.put .verbose .on) := by
      rw [takeFlag, hl.resolve]
      change (if l.values.has .verbose then _ else _) = _
      rw [hnew, if_neg Bool.false_ne_true]
    exact (takeWord_flag hl hk rfl).trans htake
  | backend hname =>
    rw [takeWord_option hl hk rfl, takeOption, hl.resolve]
    refine settle_of_read hnew ?_
    rw [Key.read, hname]
  | text htext s =>
    obtain ⟨hvalue, hread⟩ := Key.read_of_mem_textKeys htext s
    rw [takeWord_option hl hk hvalue, takeOption, hl.resolve]
    exact settle_of_read hnew hread

end Level

theorem Gives.head? {kv : Key × Value} {word : String} (h : Gives kv word) :
    word.toList.head? = some '-' := by
  cases h with
  | verbose => rfl
  | backend => simp
  | text => simp

theorem Values.has_eq_false {vs rest : Values} {kv : Key × Value}
    (h : ((vs ++ kv :: rest).map Prod.fst).Nodup) : vs.has kv.1 = false := by
  rw [has, List.any_eq_false]
  intro v hv heq
  rw [List.map_append, List.nodup_append] at h
  exact h.2.2 _ (List.mem_map_of_mem hv) _ List.mem_cons_self (beq_iff_eq.1 heq)

namespace State

variable {l : Level} {outer : List Level}

theorem step_option (hl : l.IsOpen) {kv : Key × Value} {word : String} (hword : Gives kv word)
    (hk : kv.1 ∈ l.keys) (hnew : l.values.has kv.1 = false) :
    step (reading outer l) word = .ok (reading outer (l.put kv.1 kv.2)) := by
  have hcommand : l.isCommand word = false := Level.isCommand_of_head? hl.plain hword.head?
  rw [step, hcommand, Bool.not_false, Bool.or_true, if_pos rfl,
    Level.takeWord_gives hl hword hk hnew]
  rfl

theorem foldlM_options {kvs : Values} {words : List String} (hwords : List.Forall₂ Gives kvs words)
    (hl : l.IsOpen) (hk : ∀ kv ∈ kvs, kv.1 ∈ l.keys)
    (hnodup : ((l.values ++ kvs).map Prod.fst).Nodup) :
    words.foldlM step (reading outer l) =
      .ok (reading outer { l with values := l.values ++ kvs }) := by
  induction hwords generalizing l with
  | nil =>
    rw [List.append_nil]
    rfl
  | @cons kv word kvs words hword hwords ih =>
    rw [List.foldlM_cons, step_option hl hword (hk kv List.mem_cons_self) (Values.has_eq_false hnodup)]
    change words.foldlM step (reading outer (l.put kv.1 kv.2)) = _
    rw [ih (hl.put kv.1 kv.2) (fun _ h => hk _ (List.mem_cons_of_mem _ h))]
    · rw [Level.values_put, List.append_assoc]
      rfl
    · rwa [Level.values_put, List.append_assoc]

end State

end Catalog.CommandLine
