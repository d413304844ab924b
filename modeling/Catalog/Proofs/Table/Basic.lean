import Catalog.Entry.Basic
import Mathlib.Data.List.Nodup

namespace Catalog

/-- The entries in the order in which they are found. No two have one number. -/
structure Table where
  entries : List Entry
  nodup : (entries.map Entry.id).Nodup

namespace Table

def empty : Table := ⟨[], List.nodup_nil⟩

variable {t : Table} {p q : Entry → Bool} {g : Entry → Entry} {e e' : Entry}

@[ext] theorem ext {t u : Table} (h : t.entries = u.entries) : t = u := by
  cases t
  cases u
  cases h
  rfl

theorem eq_of_id (he : e ∈ t.entries) (he' : e' ∈ t.entries) (h : e.id = e'.id) : e = e' :=
  List.inj_on_of_nodup_map t.nodup he he' h

def modify (t : Table) (p : Entry → Bool) (g : Entry → Entry) (hg : ∀ e, (g e).id = e.id) :
    Table where
  entries := t.entries.map fun e => if p e then g e else e
  nodup := by
    have hid : (Entry.id ∘ fun e => if p e then g e else e) = Entry.id := by
      funext e
      simp only [Function.comp_apply]
      split
      · exact hg e
      · rfl
    rw [List.map_map, hid]
    exact t.nodup

theorem map_id_modify (hg : ∀ e, (g e).id = e.id) :
    (t.modify p g hg).entries.map Entry.id = t.entries.map Entry.id := by
  rw [modify, List.map_map]
  apply List.map_congr_left
  intro e _
  rw [Function.comp_apply]
  split
  · exact hg e
  · rfl

theorem nodup_append_iff :
    ((t.entries ++ [e]).map Entry.id).Nodup ↔ e.id ∉ t.entries.map Entry.id := by
  rw [List.map_append, List.map_singleton, ← List.concat_eq_append, List.nodup_concat]
  exact and_iff_left t.nodup

def add (t : Table) (e : Entry) (he : e.id ∉ t.entries.map Entry.id) : Table where
  entries := t.entries ++ [e]
  nodup := nodup_append_iff.2 he

theorem modify_congr (hg : ∀ e, (g e).id = e.id) (h : ∀ e ∈ t.entries, p e = q e) :
    t.modify p g hg = t.modify q g hg := by
  apply ext
  apply List.map_congr_left
  intro e he
  rw [h e he]

theorem modify_of_forall (hg : ∀ e, (g e).id = e.id) (h : ∀ e ∈ t.entries, p e = false) :
    t.modify p g hg = t := by
  apply ext
  change t.entries.map (fun e => if p e then g e else e) = t.entries
  conv_rhs => rw [← List.map_id t.entries]
  apply List.map_congr_left
  intro e he
  rw [h e he]
  rfl

end Table

end Catalog
