import Catalog.Program
import Catalog.Proofs.Settings.Backend
import Catalog.Proofs.Text.Letter
import Mathlib.Data.List.Forall2

namespace Catalog.Backend

/-- Whether a character stands for a letter: it is the letter or its capital. -/
def IsLetter (n c : Char) : Prop := c = n ∨ c.toNat + 32 = n.toNat

/-- Whether a text is a name, letter for letter. -/
def Spells (name s : String) : Prop := List.Forall₂ IsLetter name.toList s.toList

variable {b : Backend} {n s : String} {c : Char}

theorem isSmall_of_mem_names (h : n ∈ b.names) (hc : c ∈ n.toList) :
    97 ≤ c.toNat ∧ c.toNat ≤ 122 := by
  have hall : ∀ b ∈ all, ∀ n ∈ b.names, (n.toList.all fun c => 97 ≤ c.toNat && c.toNat ≤ 122) := by
    decide +kernel
  have hsmall := List.all_eq_true.1 (hall b (mem_all b) n h) c hc
  rwa [Bool.and_eq_true, decide_eq_true_eq, decide_eq_true_eq] at hsmall

theorem find?_of_mem_names (h : n ∈ b.names) :
    (all.find? fun b => b.names.contains n) = some b := by
  have hall : ∀ b ∈ all, ∀ n ∈ b.names, (all.find? fun b => b.names.contains n) = some b := by
    decide +kernel
  exact hall b (mem_all b) n h

theorem forall₂_isLetter_iff {ns cs : List Char} (h : ∀ n ∈ ns, 97 ≤ n.toNat ∧ n.toNat ≤ 122) :
    List.Forall₂ IsLetter ns cs ↔ cs.map Char.toLower = ns := by
  induction ns generalizing cs with
  | nil => rw [List.forall₂_nil_left_iff, List.map_eq_nil_iff]
  | cons n ns ih =>
    obtain ⟨hn, hns⟩ := List.forall_mem_cons.1 h
    cases cs with
    | nil => exact iff_of_false (fun h => nomatch h) (List.cons_ne_nil n ns).symm
    | cons c cs =>
      rw [List.forall₂_cons, List.map_cons, List.cons.injEq, ih hns, Text.toLower_eq_iff hn,
        IsLetter]

theorem spells_iff (h : n ∈ b.names) : Spells n s ↔ s.toLower = n := by
  have hlower : s.toLower.toList = s.toList.map Char.toLower := String.toList_map
  rw [Spells, forall₂_isLetter_iff fun c hc => isSmall_of_mem_names h hc, ← hlower,
    String.toList_inj]

theorem ofOption?_eq_some_iff : ofOption? true s = some b ↔ ∃ n ∈ b.names, Spells n s := by
  rw [ofOption?_eq]
  constructor
  · intro h
    have hname := List.find?_some h
    rw [List.contains_iff_mem] at hname
    exact ⟨_, hname, (spells_iff hname).2 rfl⟩
  · rintro ⟨n, hn, hs⟩
    rw [(spells_iff hn).1 hs]
    exact find?_of_mem_names hn

theorem IsLetter.isAlpha {n : Char} (h : IsLetter n c) (hn : 97 ≤ n.toNat ∧ n.toNat ≤ 122) :
    c.isAlpha = true := by
  rw [Text.isAlpha_iff]
  rcases h with rfl | h
  · exact .inr hn
  · omega

theorem isAlpha_of_ofOption? (h : ofOption? true s = some b) :
    ∀ c ∈ s.toList, c.isAlpha = true := by
  obtain ⟨n, hn, hs⟩ := ofOption?_eq_some_iff.1 h
  intro c hc
  obtain ⟨i, hi, rfl⟩ := List.mem_iff_getElem.1 hc
  have hi' : i < n.toList.length := hs.length_eq ▸ hi
  have hletter : IsLetter n.toList[i] s.toList[i] := hs.get hi' hi
  exact hletter.isAlpha (isSmall_of_mem_names hn (List.getElem_mem hi'))

theorem read_backend_eq_ok_iff :
    CommandLine.Key.backend.read s = .ok (.backend b) ↔ ofOption? true s = some b := by
  rw [CommandLine.Key.read]
  cases ofOption? true s with
  | none => exact iff_of_false (fun h => nomatch h) fun h => nomatch h
  | some b' => rw [Except.ok.injEq, CommandLine.Value.backend.injEq, Option.some.injEq]

theorem backend_ofEnvironment {env : Environment} (h : ofVariable? s = some b)
    (henv : env.get? Program.backendVariable = some s) :
    (Settings.ofEnvironment env).backend = b := by
  change ((env.get? Program.backendVariable).bind ofVariable?).getD .default = b
  rw [henv, Option.bind_some, h, Option.getD_some]

/-- A variable names a backend if and only if its text without the blanks around it does so as an
option, which is by a name in letters of either case, and both name the same one. What can be given as
an option can then be set in the environment, with the same meaning. No letters but those of English
are taken for those of a name. -/
theorem variable_reads_as_option (s : String) :
    (∃! t, Text.IsTrimmed s t) ∧
    (∀ b, ofVariable? s = some b ↔ ∃ t, Text.IsTrimmed s t ∧ ofOption? true t = some b) ∧
    (∀ b, ofOption? true s = some b ↔ ∃ n ∈ b.names, Spells n s) ∧
    (∀ b, CommandLine.Key.backend.read s = .ok (.backend b) →
      ∀ env : Environment, env.get? Program.backendVariable = some s →
        ofVariable? s = some b ∧ (Settings.ofEnvironment env).backend = b) ∧
    ∀ b t, ofVariable? s = some b → Text.IsTrimmed s t → ∀ c ∈ t.toList, c.isAlpha = true := by
  have htrim (t : String) : Text.IsTrimmed s t ↔ t = Text.trim s := Text.isTrimmed_iff
  simp only [htrim]
  refine ⟨existsUnique_eq, ?_, fun _ => ofOption?_eq_some_iff, ?_, ?_⟩
  · intro b
    rw [ofVariable?_eq, exists_eq_left]
  · intro b hread env henv
    have hvariable := ofVariable?_of_ofOption? (read_backend_eq_ok_iff.1 hread)
    exact ⟨hvariable, backend_ofEnvironment hvariable henv⟩
  · rintro b t hvariable rfl
    rw [ofVariable?_eq] at hvariable
    exact isAlpha_of_ofOption? hvariable

/-- The long s, a letter whose capital is that of `s`, is not taken for it. -/
example : ofVariable? " SQL\t" = some .sql ∧ ofVariable? "\u017fql" = none := by
  decide +kernel

end Catalog.Backend
