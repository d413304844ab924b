import Catalog.Uuid

namespace Catalog.Uuid

variable {a b c d e cs : List Char}

theorem unhyphenate?_groups (ha : a.length = 8) (hb : b.length = 4) (hc : c.length = 4)
    (hd : d.length = 4) (he : e.length = 12) :
    unhyphenate? (a ++ '-' :: (b ++ '-' :: (c ++ '-' :: (d ++ '-' :: e)))) =
      some (a ++ b ++ c ++ d ++ e) := by
  simp [unhyphenate?, List.drop_append, ha, hb, hc, hd, he,
    List.drop_of_length_le]

theorem hyphenate_eq (cs : List Char) :
    hyphenate cs = cs.take 8 ++ '-' :: ((cs.drop 8).take 4 ++ '-' :: ((cs.drop 12).take 4 ++ '-' ::
      ((cs.drop 16).take 4 ++ '-' :: cs.drop 20))) := by
  simp only [hyphenate, List.append_assoc, List.cons_append]

theorem unhyphenate?_hyphenate (h : cs.length = 32) : unhyphenate? (hyphenate cs) = some cs := by
  have hcs : cs.take 8 ++ (cs.drop 8).take 4 ++ (cs.drop 12).take 4 ++ (cs.drop 16).take 4 ++
      cs.drop 20 = cs := by
    rw [← List.take_add, ← List.take_add, ← List.take_add, List.take_append_drop]
  rw [hyphenate_eq, unhyphenate?_groups, hcs] <;> simp [h]

theorem length_hyphenate (h : cs.length = 32) : (hyphenate cs).length = 36 := by
  simp [hyphenate_eq, h]

theorem mapM_digit? (ds : List (Fin 16)) :
    (ds.map fun d => Nat.digitChar d.val).mapM digit? = some ds := by
  have hdigit : (digit? ∘ fun d : Fin 16 => Nat.digitChar d.val) = fun d => pure (id d) := by
    funext d
    revert d
    decide
  rw [List.mapM_map, hdigit, List.mapM_pure, List.map_id]
  rfl

theorem parse?_text (u : Uuid) : parse? u.text = some u := by
  have hlength : (u.digits.map fun d => Nat.digitChar d.val).length = 32 := by
    rw [List.length_map, u.length_digits]
  have hbare : bare? u.chars = some (u.digits.map fun d => Nat.digitChar d.val) := by
    simp only [bare?, chars, length_hyphenate hlength]
    exact unhyphenate?_hyphenate hlength
  rw [parse?, text, String.toList_ofList, hbare]
  change ((u.digits.map fun d => Nat.digitChar d.val).mapM digit?).bind ofDigits? = some u
  rw [mapM_digit?, Option.bind_some, ofDigits?, dif_pos u.length_digits]

end Catalog.Uuid
