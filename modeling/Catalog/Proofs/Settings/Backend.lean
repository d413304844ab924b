import Catalog.Proofs.Text.Blank
import Catalog.Settings.Backend

namespace Catalog

namespace Backend

theorem mem_all (b : Backend) : b ∈ all := by
  cases b <;> decide

theorem toLower_of_mem_names {b : Backend} {n : String} (h : n ∈ b.names) : n.toLower = n := by
  have hall : ∀ b ∈ all, ∀ n ∈ b.names, n.toLower = n := by decide +kernel
  exact hall b (mem_all b) n h

theorem not_isBlank_of_mem_names {b : Backend} {n : String} {c : Char} (h : n ∈ b.names)
    (hc : c ∈ n.toList) : Text.isBlank c = false := by
  have hall : ∀ b ∈ all, ∀ n ∈ b.names, n.toList.any Text.isBlank = false := by decide +kernel
  exact Bool.eq_false_iff.2 (List.any_eq_false.1 (hall b (mem_all b) n h) c hc)

theorem ofOption?_eq (s : String) :
    ofOption? true s = all.find? fun b => b.names.contains s.toLower := by
  have hnames (b : Backend) :
      (b.names.any fun n => sameLetters n s) = b.names.contains s.toLower := by
    rw [Bool.eq_iff_iff, List.any_eq_true, List.contains_iff_mem]
    constructor
    · rintro ⟨n, hn, h⟩
      rw [sameLetters, toLower_of_mem_names hn, beq_iff_eq] at h
      exact h ▸ hn
    · intro h
      refine ⟨_, h, ?_⟩
      rw [sameLetters, toLower_of_mem_names h, beq_iff_eq]
  simp only [ofOption?, if_true, hnames]

theorem ofOption?_name (b : Backend) : ofOption? true b.name = some b := by
  cases b <;> decide +kernel

theorem ofVariable?_eq (s : String) : ofVariable? s = ofOption? true (Text.trim s) := by
  rw [ofOption?_eq, ofVariable?, normalized]
  generalize (Text.trim s).toLower = t
  split
  · rfl
  · rfl
  · rfl
  · rename_i horm hsql hraw
    have hnot (b : Backend) : b.names.contains t = false := by
      cases b with
      | orm => simpa [names, name] using horm
      | sql => simpa [names, name] using ⟨hsql, hraw⟩
    simp only [all, List.find?_cons, hnot, List.find?_nil]

theorem ofVariable?_of_ofOption? {s : String} {b : Backend} (h : ofOption? true s = some b) :
    ofVariable? s = some b := by
  rw [ofVariable?_eq, Text.trim_eq_self, h]
  intro c hc
  rw [ofOption?_eq] at h
  have hs := List.find?_some h
  rw [List.contains_iff_mem] at hs
  have hlower : c.toLower ∈ s.toLower.toList := by
    change c.toLower ∈ (s.map Char.toLower).toList
    rw [String.toList_map]
    exact List.mem_map_of_mem hc
  have hnot := not_isBlank_of_mem_names hs hlower
  cases hblank : Text.isBlank c with
  | false => rfl
  | true =>
    rw [Text.toLower_of_isBlank hblank, hblank] at hnot
    cases hnot

end Backend

end Catalog
