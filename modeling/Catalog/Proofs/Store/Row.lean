import Catalog.Proofs.Listing.Basic

namespace Catalog

open Sql

namespace Sql.Column

def Cell : Column → Type
  | id => Int64
  | code | text | createdBy | updatedBy | deletedBy => String
  | createdAt | updatedAt | deletedAt => Instant
  | uuid => Uuid

def isRequired : Column → Bool
  | updatedAt | updatedBy | deletedAt | deletedBy => false
  | _ => true

end Sql.Column

def Entry.value? (e : Entry) : (c : Column) → Option c.Cell
  | .id => some e.id
  | .code => some e.code
  | .text => some e.text
  | .createdAt => some e.createdAt
  | .createdBy => some e.createdBy
  | .updatedAt => e.updatedAt
  | .updatedBy => e.updatedBy
  | .deletedAt => e.deletedAt
  | .deletedBy => e.deletedBy
  | .uuid => some e.uuid

namespace Store

namespace Row

def value? (r : Row) : (c : Column) → Option c.Cell
  | .id => r.id
  | .code => r.code
  | .text => r.text
  | .createdAt => r.createdAt
  | .createdBy => r.createdBy
  | .updatedAt => r.updatedAt
  | .updatedBy => r.updatedBy
  | .deletedAt => r.deletedAt
  | .deletedBy => r.deletedBy
  | .uuid => r.uuid

def lacks? (r : Row) : Option Column :=
  Column.all.find? fun c => c.isRequired && (r.value? c).isNone

theorem value?_row (e : Entry) (c : Column) : e.row.value? c = e.value? c := by
  cases c <;> rfl

/-- A row is that of an entry, or there is a first column that it lacks, and that is what is said of
it. -/
theorem entry_cases (r : Row) :
    (∃ c, r.lacks? = some c ∧ r.entry = .error (.nullColumn c.name)) ∨
      ∃ e : Entry, r.lacks? = none ∧ r = e.row := by
  obtain ⟨id?, code?, text?, createdAt?, createdBy?, updatedAt, updatedBy, deletedAt, deletedBy,
    uuid?⟩ := r
  -- the cells are taken in the order of the table, so that the first null decides
  rcases id? with _ | id
  · exact .inl ⟨.id, rfl, rfl⟩
  rcases code? with _ | code
  · exact .inl ⟨.code, rfl, rfl⟩
  rcases text? with _ | text
  · exact .inl ⟨.text, rfl, rfl⟩
  rcases createdAt? with _ | createdAt
  · exact .inl ⟨.createdAt, rfl, rfl⟩
  rcases createdBy? with _ | createdBy
  · exact .inl ⟨.createdBy, rfl, rfl⟩
  rcases uuid? with _ | uuid
  · exact .inl ⟨.uuid, rfl, rfl⟩
  let e : Entry :=
    ⟨id, code, text, createdAt, createdBy, updatedAt, updatedBy, deletedAt, deletedBy, uuid⟩
  exact .inr ⟨e, rfl, rfl⟩

variable {r : Row} {e : Entry} {c : Column} {error : DatabaseError} {found : List Row}

theorem entry_eq_error (h : r.lacks? = some c) : r.entry = .error (.nullColumn c.name) := by
  rcases r.entry_cases with ⟨c', hc, hr⟩ | ⟨e, he, _⟩
  · cases h.symm.trans hc
    exact hr
  · cases h.symm.trans he

theorem exists_eq_row (h : r.lacks? = none) : ∃ e : Entry, r = e.row := by
  rcases r.entry_cases with ⟨c, hc, _⟩ | ⟨e, _, hr⟩
  · cases h.symm.trans hc
  · exact ⟨e, hr⟩

theorem entry_eq_ok_iff : r.entry = .ok e ↔ r = e.row := by
  constructor
  · intro h
    rcases r.entry_cases with ⟨_, _, hr⟩ | ⟨e', _, rfl⟩
    · cases h.symm.trans hr
    · cases h
      rfl
  · rintro rfl
    exact e.entry_row

theorem nullColumn_of_entry (h : r.entry = .error error) : ∃ c, error = .nullColumn c := by
  rcases r.entry_cases with ⟨c, _, hr⟩ | ⟨e, _, rfl⟩
  · cases h.symm.trans hr
    exact ⟨c.name, rfl⟩
  · cases h

theorem mapM_entry_eq_ok_iff {es : List Entry} :
    found.mapM Row.entry = .ok es ↔ found = es.map Entry.row := by
  simp only [mapM_eq_ok_iff, entry_eq_ok_iff]
  rw [← List.forall₂_map_right_iff, List.forall₂_eq_eq_eq]

theorem mapM_entry_cases (found : List Row) :
    (∃ c, found.findSome? lacks? = some c ∧ found.mapM Row.entry = .error (.nullColumn c.name)) ∨
      ∃ es : List Entry, found.findSome? lacks? = none ∧ found = es.map Entry.row := by
  cases h : found.findSome? lacks? with
  | none =>
    right
    have hrows : ∀ r ∈ found, ∃ e, r.entry = .ok e := by
      intro r hr
      obtain ⟨e, rfl⟩ := exists_eq_row (List.findSome?_eq_none_iff.1 h r hr)
      exact ⟨e, e.entry_row⟩
    obtain ⟨es, hes⟩ := exists_mapM_ok_iff.2 hrows
    exact ⟨es, rfl, mapM_entry_eq_ok_iff.1 hes⟩
  | some c =>
    left
    obtain ⟨before, r, after, rfl, hr, hbefore⟩ := List.findSome?_eq_some_iff.1 h
    refine ⟨c, rfl, mapM_eq_error_iff.2 ⟨before, r, after, rfl, ?_, entry_eq_error hr⟩⟩
    intro r' hr'
    obtain ⟨e, rfl⟩ := exists_eq_row (hbefore r' hr')
    exact ⟨e, e.entry_row⟩

end Row

/-- A row as it is sent. A column may be missing, and one that is there may be null. -/
abbrev SentRow := (c : Column) → Option (Option c.Cell)

namespace SentRow

def row (s : SentRow) : Row where
  id := (s .id).join
  code := (s .code).join
  text := (s .text).join
  createdAt := (s .createdAt).join
  createdBy := (s .createdBy).join
  updatedAt := (s .updatedAt).join
  updatedBy := (s .updatedBy).join
  deletedAt := (s .deletedAt).join
  deletedBy := (s .deletedBy).join
  uuid := (s .uuid).join

theorem value?_row (s : SentRow) (c : Column) : s.row.value? c = (s c).join := by
  cases c <;> rfl

def lacks? (s : SentRow) : Option Column :=
  Column.all.find? fun c => c.isRequired && (s c).join.isNone

theorem lacks?_row (s : SentRow) : s.row.lacks? = s.lacks? := by
  simp only [Row.lacks?, lacks?, value?_row]

/-- Whether an entry has what was sent, in every column. -/
def Gives (s : SentRow) (e : Entry) : Prop :=
  ∀ c, e.value? c = (s c).join

theorem gives_of_row_eq {s : SentRow} {e : Entry} (h : s.row = e.row) : s.Gives e := by
  intro c
  rw [← value?_row, h, Row.value?_row]

theorem forall₂_gives {sent : List SentRow} {es : List Entry}
    (h : sent.map row = es.map Entry.row) : List.Forall₂ Gives sent es := by
  have hrows : List.Forall₂ Eq (sent.map row) (es.map Entry.row) := by
    rw [List.forall₂_eq_eq_eq]
    exact h
  have hpairs := List.forall₂_map_left_iff.1 (List.forall₂_map_right_iff.1 hrows)
  exact hpairs.imp fun _ _ => gives_of_row_eq

end SentRow

end Store

end Catalog
