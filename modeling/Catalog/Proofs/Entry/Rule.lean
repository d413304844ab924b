import Catalog.Entry.Basic
import Mathlib.Data.List.Sort
import Mathlib.Data.List.Sublists
import Mathlib.Data.String.Basic

namespace Catalog

namespace Rule

def FitsCode (code : String) : Prop := 1 ≤ code.length ∧ code.length ≤ 50

theorem allowsCode_iff {code : String} : allowsCode code = true ↔ FitsCode code := by
  rw [allowsCode, Bool.and_eq_true, decide_eq_true_eq, decide_eq_true_eq, FitsCode]

theorem allowsText_iff {text : String} : allowsText text = true ↔ 1 ≤ text.length := by
  rw [allowsText, decide_eq_true_eq]

end Rule

def Draft.Proper (d : Draft) : Prop := Rule.FitsCode d.code ∧ 1 ≤ d.text.length

structure Changes.Proper (c : Changes) : Prop where
  given : c.code ≠ none ∨ c.text ≠ none
  code : ∀ code, c.code = some code → Rule.FitsCode code
  text : ∀ text, c.text = some text → 1 ≤ text.length

def Changes.Violates (c : Changes) : Rule → Prop
  | .codeLength => ∃ code, c.code = some code ∧ ¬Rule.FitsCode code
  | .textLength => c.text = some ""

def Draft.Violates (d : Draft) : Rule → Prop
  | .codeLength => ¬Rule.FitsCode d.code
  | .textLength => d.text = ""

namespace Changes

variable {c : Changes} {rule : Rule}

theorem broken_eq_nil_iff : c.broken = [] ↔
    (∀ code, c.code = some code → Rule.FitsCode code) ∧
      ∀ text, c.text = some text → 1 ≤ text.length := by
  have hif (b : Bool) (rule : Rule) : (if b then [] else [rule]) = [] ↔ b = true := by
    cases b with
    | true => exact iff_of_true rfl rfl
    | false => exact iff_of_false (List.cons_ne_nil _ _) Bool.false_ne_true
  rw [broken, List.append_eq_nil_iff, hif, hif, Option.all_eq_true, Option.all_eq_true]
  simp only [Rule.allowsCode_iff, Rule.allowsText_iff]

theorem isEmpty_iff : c.isEmpty = true ↔ c.code = none ∧ c.text = none := by
  rw [isEmpty, Bool.and_eq_true, Option.isNone_iff_eq_none, Option.isNone_iff_eq_none]

theorem proper_iff : c.Proper ↔ ¬c.isEmpty = true ∧ c.broken = [] := by
  rw [isEmpty_iff, not_and_or, broken_eq_nil_iff]
  exact ⟨fun h => ⟨h.given, h.code, h.text⟩, fun ⟨given, code, text⟩ => ⟨given, code, text⟩⟩

def breaks (c : Changes) : Rule → Bool
  | .codeLength => !c.code.all Rule.allowsCode
  | .textLength => !c.text.all Rule.allowsText

theorem broken_eq (c : Changes) : c.broken = [Rule.codeLength, .textLength].filter c.breaks := by
  cases hcode : c.code.all Rule.allowsCode <;> cases htext : c.text.all Rule.allowsText <;>
    simp [broken, breaks, hcode, htext]

theorem breaks_iff : c.breaks rule = true ↔ c.Violates rule := by
  obtain ⟨code?, text?⟩ := c
  cases rule with
  | codeLength =>
    cases code? with
    | none => exact iff_of_false Bool.false_ne_true fun ⟨_, h, _⟩ => nomatch h
    | some code =>
      rw [breaks, Option.all_some, Bool.not_eq_true', ← Bool.not_eq_true, Rule.allowsCode_iff]
      constructor
      · intro h
        exact ⟨code, rfl, h⟩
      · rintro ⟨_, ⟨⟩, h⟩
        exact h
  | textLength =>
    cases text? with
    | none => exact iff_of_false Bool.false_ne_true fun h => nomatch h
    | some text =>
      rw [breaks, Option.all_some, Bool.not_eq_true', ← Bool.not_eq_true, Rule.allowsText_iff,
        Nat.not_le, Nat.lt_one_iff, String.length_eq_zero_iff]
      exact (Option.some_inj (a := text)).symm

theorem mem_broken_iff : rule ∈ c.broken ↔ c.Violates rule := by
  rw [broken_eq, List.mem_filter, breaks_iff]
  exact and_iff_right (by cases rule <;> decide)

theorem nodup_broken (c : Changes) : c.broken.Nodup := by
  rw [broken_eq]
  exact List.Nodup.filter _ (by decide)

end Changes

namespace Draft

variable {d : Draft} {rule : Rule}

theorem broken_eq_nil_iff : d.broken = [] ↔ d.Proper := by
  rw [broken, Changes.broken_eq_nil_iff, Proper]
  simp only [Option.some.injEq, forall_eq']

theorem mem_broken_iff : rule ∈ d.broken ↔ d.Violates rule := by
  rw [broken, Changes.mem_broken_iff]
  cases rule with
  | codeLength =>
    constructor
    · rintro ⟨_, ⟨⟩, h⟩
      exact h
    · intro h
      exact ⟨d.code, rfl, h⟩
  | textLength => exact Option.some_inj

end Draft

namespace Rule

variable {broken : Rule → Prop} {rules : List Rule}

/-- Whether a text tells which rules are broken: with the message of each, once and in alphabetical
order. It is the same in whatever order the rules are listed. -/
structure Tells (broken : Rule → Prop) (problem : String) : Prop where
  sorted : ∃ messages : List String, messages.Pairwise (· < ·) ∧
    (∀ m, m ∈ messages ↔ ∃ rule, broken rule ∧ rule.message = m) ∧
    problem = ", ".intercalate messages
  listed : ∀ rules : List Rule, rules.Nodup → (∀ rule, rule ∈ rules ↔ broken rule) →
    problem = summary rules

theorem message_injective : Function.Injective message := by
  intro a b h
  cases a <;> cases b
  · rfl
  · exact absurd h (by decide)
  · exact absurd h (by decide)
  · rfl

theorem pairwise_sorted (messages : List String) :
    (messages.mergeSort fun a b => a ≤ b).Pairwise (· ≤ ·) :=
  List.pairwise_mergeSort' (· ≤ ·) messages

theorem summary_perm {others : List Rule} (h : others.Perm rules) :
    summary others = summary rules := by
  have hsorted : ((others.map message).mergeSort fun a b => a ≤ b).Perm
      ((rules.map message).mergeSort fun a b => a ≤ b) :=
    (List.mergeSort_perm _ _).trans ((h.map message).trans (List.mergeSort_perm _ _).symm)
  rw [summary, hsorted.eq_of_pairwise' (pairwise_sorted _) (pairwise_sorted _), summary]

theorem tells_summary (hnodup : rules.Nodup) (hrules : ∀ rule, rule ∈ rules ↔ broken rule) :
    Tells broken (summary rules) := by
  constructor
  · refine ⟨(rules.map message).mergeSort fun a b => a ≤ b, ?_, ?_, rfl⟩
    · have hdistinct : ((rules.map message).mergeSort fun a b => a ≤ b).Nodup :=
        (List.mergeSort_perm _ _).nodup_iff.2 (hnodup.map message_injective)
      exact ((pairwise_sorted _).and hdistinct).imp fun h => lt_of_le_of_ne h.1 h.2
    · intro m
      rw [List.mem_mergeSort, List.mem_map]
      simp only [hrules]
  · intro others hothers hmem
    apply summary_perm
    rw [List.perm_ext_iff_of_nodup hnodup hothers]
    exact fun rule => (hrules rule).trans (hmem rule).symm

theorem summary_broken (c : Changes) :
    summary c.broken = ", ".intercalate (c.broken.map message) := by
  have hsublist : (c.broken.map message).Sublist ([codeLength, textLength].map message) := by
    rw [c.broken_eq]
    exact List.filter_sublist.map message
  have hsorted : (c.broken.map message).Pairwise (· ≤ ·) := by
    apply List.Pairwise.sublist hsublist
    decide
  rw [summary]
  exact congrArg (", ".intercalate ·) (List.mergeSort_eq_self (· ≤ ·) hsorted)

theorem summary_broken_ne (c : Changes) : summary c.broken ≠ "Nothing to update" := by
  have hall : ∀ rules ∈ [codeLength, textLength].sublists,
      ", ".intercalate (rules.map message) ≠ "Nothing to update" := by decide +kernel
  rw [summary_broken, c.broken_eq]
  exact hall _ (List.mem_sublists.2 List.filter_sublist)

end Rule

/-- What changes are refused with: that there are none, or which rules they break. -/
def Changes.Told (c : Changes) (problem : String) : Prop :=
  if c.code = none ∧ c.text = none then problem = "Nothing to update"
  else Rule.Tells c.Violates problem

namespace Changes

variable {c : Changes}

theorem told_iff {problem : String} (h : c.Told problem) :
    problem = "Nothing to update" ↔ c.code = none ∧ c.text = none := by
  rw [Told] at h
  split at h
  · rename_i hnone
    exact iff_of_true h hnone
  · rename_i hsome
    rw [h.listed c.broken c.nodup_broken fun _ => mem_broken_iff]
    exact iff_of_false (Rule.summary_broken_ne c) hsome

end Changes

end Catalog
