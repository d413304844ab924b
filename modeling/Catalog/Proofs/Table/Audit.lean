import Catalog.Proofs.Store.Machine

namespace Catalog

namespace Entry

variable {e : Entry}

/-- A change has a time if and only if it has a name, and so has a deletion. -/
def Audited (e : Entry) : Prop :=
  e.updatedAt.isSome = e.updatedBy.isSome ∧ e.deletedAt.isSome = e.deletedBy.isSome

def origin (e : Entry) : Int64 × Uuid × Instant × String :=
  (e.id, e.uuid, e.createdAt, e.createdBy)

theorem audited_entry (d : Draft) (s : Sql.Stamp) (actor : String) : (d.entry s actor).Audited :=
  ⟨rfl, rfl⟩

theorem Audited.changed (h : e.Audited) (time : Instant) (actor : String) (c : Changes) :
    (e.changed time actor c).Audited :=
  ⟨rfl, h.2⟩

theorem Audited.deleted (h : e.Audited) (time : Instant) (actor : String) :
    (e.deleted time actor).Audited :=
  ⟨h.1, rfl⟩

theorem Audited.restored (time : Instant) (actor : String) : (e.restored time actor).Audited :=
  ⟨rfl, rfl⟩

end Entry

/-- A change of entries that leaves their origins as they are and puts on record all that it has
to. -/
structure Faithful (g : Entry → Entry) : Prop where
  origin : ∀ e, (g e).origin = e.origin
  audited : ∀ e : Entry, e.Audited → (g e).Audited

theorem faithful_changed (time : Instant) (actor : String) (c : Changes) :
    Faithful (Entry.changed time actor c) :=
  ⟨fun _ => rfl, fun _ h => h.changed time actor c⟩

theorem faithful_deleted (time : Instant) (actor : String) : Faithful (Entry.deleted time actor) :=
  ⟨fun _ => rfl, fun _ h => h.deleted time actor⟩

theorem faithful_restored (time : Instant) (actor : String) :
    Faithful (Entry.restored time actor) :=
  ⟨fun _ => rfl, fun _ _ => .restored time actor⟩

namespace Table

variable {t u v : Table} {p : Entry → Bool} {g : Entry → Entry} {hg : ∀ e, (g e).id = e.id}

def Audited (t : Table) : Prop :=
  ∀ e ∈ t.entries, e.Audited

def origins (t : Table) : List (Int64 × Uuid × Instant × String) :=
  t.entries.map Entry.origin

/-- Whether a table may come after another: it stays audited, and all entries are there still, in
their places and with their origins. -/
def Precedes (t u : Table) : Prop :=
  (t.Audited → u.Audited) ∧ t.origins <+: u.origins

theorem Precedes.refl (t : Table) : t.Precedes t :=
  ⟨fun h => h, List.prefix_refl _⟩

theorem Precedes.trans (h : t.Precedes u) (h' : u.Precedes v) : t.Precedes v :=
  ⟨fun ht => h'.1 (h.1 ht), h.2.trans h'.2⟩

theorem precedes_modify (h : Faithful g) : t.Precedes (t.modify p g hg) := by
  constructor
  · intro ht e he
    obtain ⟨x, hx, rfl⟩ := List.mem_map.1 he
    split
    · exact h.audited x (ht x hx)
    · exact ht x hx
  · have ho : (t.modify p g hg).origins = t.origins := by
      rw [origins, modify, List.map_map]
      apply List.map_congr_left
      intro e _
      rw [Function.comp_apply]
      split
      · exact h.origin e
      · rfl
    exact ho ▸ List.prefix_refl t.origins

theorem precedes_add {e : Entry} {he : e.id ∉ t.entries.map Entry.id} (h : e.Audited) :
    t.Precedes (t.add e he) := by
  constructor
  · intro ht x hx
    rcases List.mem_append.1 hx with hx | hx
    · exact ht x hx
    · cases List.mem_singleton.1 hx
      exact h
  · rw [origins, origins, add, List.map_append]
    exact List.prefix_append _ _

theorem precedes_write {refusal : Failure} {r : Except Failure Entry} (h : Faithful g)
    (hw : t.write p g hg refusal = (r, u)) : t.Precedes u := by
  rcases write_cases hw with ⟨_, rfl⟩ | ⟨_, _, _, _, rfl⟩
  · exact .refl u
  · exact precedes_modify h

theorem precedes_insert {e : Entry} {r : Except Failure Entry} (h : e.Audited)
    (hi : t.insert e = (r, u)) : t.Precedes u := by
  rcases insert_cases hi with ⟨_, rfl⟩ | ⟨he, _, rfl⟩
  · exact .refl u
  · exact precedes_add h

theorem Precedes.ids_subset (h : t.Precedes u) :
    t.entries.map Entry.id ⊆ u.entries.map Entry.id := by
  have hid (t : Table) : t.entries.map Entry.id = t.origins.map Prod.fst := by
    rw [origins, List.map_map]
    rfl
  rw [hid, hid]
  exact List.map_subset _ h.2.subset

end Table

namespace Store

open Sql

variable {like : String → String → Bool} {s : Stamp} {t : Table}

theorem precedes_machine (c : Call) : t.Precedes (machine like s c t).2 := by
  cases c with
  | list f => exact .refl t
  | findById id => exact .refl t
  | findByCode code => exact .refl t
  | create d actor => exact Table.precedes_insert (Entry.audited_entry d s actor) rfl
  | update id c actor => exact Table.precedes_write (faithful_changed s.time actor c) rfl
  | delete id actor => exact Table.precedes_write (faithful_deleted s.time actor) rfl
  | restore id actor => exact Table.precedes_write (faithful_restored s.time actor) rfl

def Call.shown : (c : Call) → c.Answer → List Entry
  | .list _, entries => entries
  | .findById _, found | .findByCode _, found => (show Option Entry from found).toList
  | .create .., _ | .update .., _ | .delete .., _ | .restore .., _ => []

def ShowsActive (c : Call) (r : Except Failure c.Answer) : Prop :=
  ∀ a, r = .ok a → ∀ e ∈ c.shown a, e.isActive = true

theorem showsActive_error (c : Call) (failure : Failure) : ShowsActive c (.error failure) := by
  rintro _ ⟨⟩

theorem mem_of_mem_window {limit offset : Option Nat} {e : Entry} {es : List Entry}
    (h : e ∈ window limit offset es) : e ∈ es := by
  cases limit with
  | none => exact List.mem_of_mem_drop h
  | some n => exact List.mem_of_mem_drop (List.mem_of_mem_take h)

theorem isActive_of_mem_listed {f : Filter} {e : Entry} (h : e ∈ f.listed like t.entries) :
    e.isActive = true := by
  have hselects := (List.mem_filter.1 (mem_of_mem_window h)).2
  rw [Filter.selects] at hselects
  exact (Bool.and_eq_true_iff.1 hselects).1

theorem isActive_of_mem_find? {q : Entry → Bool} {e : Entry}
    (h : e ∈ (t.entries.find? fun e => q e && e.isActive).toList) : e.isActive = true := by
  have he := List.find?_some (Option.mem_toList.1 h)
  exact (Bool.and_eq_true_iff.1 he).2

theorem showsActive_machine (c : Call) : ShowsActive c (machine like s c t).1 := by
  cases c with
  | list f =>
    intro entries h e he
    change okUnless f.refusal? _ = .ok entries at h
    cases hf : f.refusal? with
    | none =>
      rw [hf] at h
      cases h
      exact isActive_of_mem_listed he
    | some failure =>
      rw [hf] at h
      cases h
  | findById id =>
    rintro _ ⟨⟩ e he
    exact isActive_of_mem_find? he
  | findByCode code =>
    rintro _ ⟨⟩ e he
    exact isActive_of_mem_find? he
  | create d actor => exact fun _ _ _ he => absurd he List.not_mem_nil
  | update id c actor => exact fun _ _ _ he => absurd he List.not_mem_nil
  | delete id actor => exact fun _ _ _ he => absurd he List.not_mem_nil
  | restore id actor => exact fun _ _ _ he => absurd he List.not_mem_nil

end Store

end Catalog
