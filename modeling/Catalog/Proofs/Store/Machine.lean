import Catalog.Proofs.Listing.Basic

namespace Catalog

open Sql

def Draft.entry (d : Draft) (s : Stamp) (actor : String) : Entry where
  id := s.id
  code := d.code
  text := d.text
  createdAt := s.time
  createdBy := actor
  updatedAt := none
  updatedBy := none
  deletedAt := none
  deletedBy := none
  uuid := s.uuid

namespace Entry

variable (time : Instant) (actor : String)

def changed (c : Changes) (e : Entry) : Entry :=
  { e with
    code := c.code.getD e.code
    text := c.text.getD e.text
    updatedAt := some time
    updatedBy := some actor }

theorem id_changed (c : Changes) (e : Entry) : (e.changed time actor c).id = e.id := rfl

def deleted (e : Entry) : Entry :=
  { e with deletedAt := some time, deletedBy := some actor }

theorem id_deleted (e : Entry) : (e.deleted time actor).id = e.id := rfl

def restored (e : Entry) : Entry :=
  { e with deletedAt := none, deletedBy := none, updatedAt := some time, updatedBy := some actor }

theorem id_restored (e : Entry) : (e.restored time actor).id = e.id := rfl

end Entry

namespace Table

def write (t : Table) (p : Entry → Bool) (g : Entry → Entry) (hg : ∀ e, (g e).id = e.id)
    (refusal : Failure) : Except Failure Entry × Table :=
  match t.entries.find? p with
  | some e => (.ok (g e), t.modify p g hg)
  | none => (.error refusal, t)

def insert (t : Table) (e : Entry) : Except Failure Entry × Table :=
  if he : e.id ∉ t.entries.map Entry.id then (.ok e, t.add e he)
  else (.error (.database idTaken), t)

variable {t : Table} {p : Entry → Bool} {g : Entry → Entry} {hg : ∀ e, (g e).id = e.id}
  {refusal failure : Failure}

theorem write_cases {r : Except Failure Entry} {u : Table} (h : t.write p g hg refusal = (r, u)) :
    (r = .error refusal ∧ u = t) ∨
      ∃ e ∈ t.entries, p e = true ∧ r = .ok (g e) ∧ u = t.modify p g hg := by
  rw [write] at h
  cases he : t.entries.find? p with
  | none =>
    rw [he] at h
    cases h
    exact .inl ⟨rfl, rfl⟩
  | some e =>
    rw [he] at h
    cases h
    exact .inr ⟨e, List.mem_of_find?_eq_some he, List.find?_some he, rfl, rfl⟩

theorem write_ok_iff :
    (∃ a, (t.write p g hg refusal).1 = .ok a) ↔ ∃ e ∈ t.entries, p e = true := by
  rw [← List.find?_isSome, write]
  cases t.entries.find? p with
  | some e => exact iff_of_true ⟨g e, rfl⟩ rfl
  | none =>
    apply iff_of_false
    · rintro ⟨a, h⟩
      cases h
    · exact Bool.false_ne_true

theorem write_refused (h : (t.write p g hg refusal).1 = .error failure) :
    (t.write p g hg refusal).2 = t := by
  rcases write_cases (Prod.ext h rfl) with ⟨_, hu⟩ | ⟨_, _, _, hr, _⟩
  · exact hu
  · cases hr

theorem insert_cases {e : Entry} {r : Except Failure Entry} {u : Table} (h : t.insert e = (r, u)) :
    (r = .error (.database idTaken) ∧ u = t) ∨ ∃ he, r = .ok e ∧ u = t.add e he := by
  rw [insert] at h
  split at h
  · rename_i he
    cases h
    exact .inr ⟨he, rfl, rfl⟩
  · cases h
    exact .inl ⟨rfl, rfl⟩

theorem insert_ok_iff {e : Entry} :
    (∃ a, (t.insert e).1 = .ok a) ↔ e.id ∉ t.entries.map Entry.id := by
  rw [insert]
  split
  · rename_i he
    exact iff_of_true ⟨e, rfl⟩ he
  · rename_i he
    apply iff_of_false _ he
    rintro ⟨a, h⟩
    cases h

theorem insert_refused {e : Entry} (h : (t.insert e).1 = .error failure) : (t.insert e).2 = t := by
  rcases insert_cases (Prod.ext h rfl) with ⟨_, hu⟩ | ⟨_, hr, _⟩
  · exact hu
  · cases hr

end Table

namespace Store

/-- What a call answers and leaves behind. -/
def machine (like : String → String → Bool) (s : Stamp) :
    (c : Call) → Table → Except Failure c.Answer × Table
  | .list f, t => (okUnless f.refusal? (f.listed like t.entries), t)
  | .findById id, t => (.ok (t.entries.find? fun e => e.id = id && e.isActive), t)
  | .findByCode code, t => (.ok (t.entries.find? fun e => e.code = code && e.isActive), t)
  | .create d actor, t => t.insert (d.entry s actor)
  | .update id c actor, t =>
    t.write (fun e => e.id = id && e.isActive) _ (Entry.id_changed s.time actor c) .notFound
  | .delete id actor, t =>
    let (answer, u) :=
      t.write (fun e => e.id = id && e.isActive) _ (Entry.id_deleted s.time actor) .notFound
    (answer.map fun _ => (), u)
  | .restore id actor, t =>
    t.write (fun e => e.id = id && !e.isActive) _ (Entry.id_restored s.time actor) nothingToRestore

/-- Whether a call has what it is about: proper counts, a number that is free, an active entry to
change or delete, a deleted one to restore. -/
def admits (s : Stamp) (t : Table) : Call → Prop
  | .list f => f.refusal? = none
  | .findById _ | .findByCode _ => True
  | .create .. => s.id ∉ t.entries.map Entry.id
  | .update id .. | .delete id _ => ∃ e ∈ t.entries, e.id = id ∧ e.isActive = true
  | .restore id _ => ∃ e ∈ t.entries, e.id = id ∧ e.isActive = false

variable {like : String → String → Bool} {s : Stamp} {t : Table} {failure : Failure}

theorem machine_ok_iff (c : Call) : (∃ a, (machine like s c t).1 = .ok a) ↔ admits s t c := by
  cases c with
  | list f => exact exists_okUnless_iff
  | findById id => exact iff_of_true ⟨_, rfl⟩ trivial
  | findByCode code => exact iff_of_true ⟨_, rfl⟩ trivial
  | create d actor => exact Table.insert_ok_iff
  | update id c actor =>
    refine Table.write_ok_iff.trans ?_
    simp only [Bool.and_eq_true, decide_eq_true_eq, admits]
  | delete id actor =>
    refine (exists_map_ok_iff.trans Table.write_ok_iff).trans ?_
    simp only [Bool.and_eq_true, decide_eq_true_eq, admits]
  | restore id actor =>
    refine Table.write_ok_iff.trans ?_
    simp only [Bool.and_eq_true, decide_eq_true_eq, Bool.not_eq_true', admits]

theorem machine_refused (c : Call) (h : (machine like s c t).1 = .error failure) :
    (machine like s c t).2 = t := by
  cases c with
  | list f => rfl
  | findById id => rfl
  | findByCode code => rfl
  | create d actor => exact Table.insert_refused h
  | update id c actor => exact Table.write_refused h
  | delete id actor =>
    exact Table.write_refused (map_eq_error_iff.1 h)
  | restore id actor => exact Table.write_refused h

end Store

end Catalog
