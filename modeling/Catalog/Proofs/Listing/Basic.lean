import Catalog.Listing.Count
import Catalog.Proofs.Table.Statement
import Mathlib.Data.List.Forall2

namespace Catalog

def okUnless {ε α : Type} (failure? : Option ε) (a : α) : Except ε α :=
  match failure? with
  | some failure => .error failure
  | none => .ok a

section Results

variable {α β ε : Type} {r : Except ε α} {f : α → β} {e : ε}

theorem map_eq_ok_iff {b : β} : r.map f = .ok b ↔ ∃ a, r = .ok a ∧ f a = b := by
  cases r with
  | ok a =>
    constructor
    · rintro ⟨⟩
      exact ⟨a, rfl, rfl⟩
    · rintro ⟨_, ⟨⟩, rfl⟩
      rfl
  | error e =>
    refine iff_of_false (fun h => nomatch h) ?_
    rintro ⟨_, h, _⟩
    cases h

theorem exists_map_ok_iff : (∃ b, r.map f = .ok b) ↔ ∃ a, r = .ok a := by
  simp only [map_eq_ok_iff]
  constructor
  · rintro ⟨_, a, ha, _⟩
    exact ⟨a, ha⟩
  · rintro ⟨a, ha⟩
    exact ⟨f a, a, ha, rfl⟩

theorem map_eq_error_iff : r.map f = .error e ↔ r = .error e := by
  cases r with
  | ok a => exact iff_of_false (fun h => nomatch h) (fun h => nomatch h)
  | error e' => exact ⟨fun h => by cases h; rfl, fun h => by cases h; rfl⟩

theorem exists_okUnless_iff {failure? : Option ε} {a : α} :
    (∃ b, okUnless failure? a = .ok b) ↔ failure? = none := by
  cases failure? with
  | none => exact iff_of_true ⟨a, rfl⟩ rfl
  | some e =>
    apply iff_of_false _ (Option.some_ne_none e)
    rintro ⟨b, h⟩
    cases h

end Results

section Traversal

variable {α β ε : Type} {f : α → Except ε β} {xs : List α} {ys : List β} {e : ε}

theorem mapM_eq_ok_iff : xs.mapM f = .ok ys ↔ List.Forall₂ (fun x y => f x = .ok y) xs ys := by
  induction xs generalizing ys with
  | nil =>
    rw [List.mapM_nil, List.forall₂_nil_left_iff]
    exact Except.ok.injEq [] ys ▸ eq_comm
  | cons x xs ih =>
    rw [List.mapM_cons, List.forall₂_cons_left_iff]
    cases hx : f x with
    | error e =>
      refine iff_of_false (fun h => nomatch h) ?_
      rintro ⟨_, _, h, _⟩
      cases h
    | ok y =>
      cases hxs : xs.mapM f with
      | error e =>
        refine iff_of_false (fun h => nomatch h) ?_
        rintro ⟨_, rest, _, hrest, _⟩
        rw [ih.2 hrest] at hxs
        cases hxs
      | ok rest =>
        constructor
        · rintro ⟨⟩
          exact ⟨y, rest, rfl, ih.1 hxs, rfl⟩
        · rintro ⟨_, _, ⟨⟩, hrest, rfl⟩
          cases hxs.symm.trans (ih.2 hrest)
          rfl

theorem exists_mapM_ok_iff : (∃ ys, xs.mapM f = .ok ys) ↔ ∀ x ∈ xs, ∃ y, f x = .ok y := by
  simp only [mapM_eq_ok_iff]
  induction xs with
  | nil => exact iff_of_true ⟨[], .nil⟩ (List.forall_mem_nil _)
  | cons x xs ih =>
    rw [List.forall_mem_cons, ← ih]
    constructor
    · rintro ⟨_, h⟩
      cases h with
      | cons hx hxs => exact ⟨⟨_, hx⟩, _, hxs⟩
    · rintro ⟨⟨y, hx⟩, ys, hxs⟩
      exact ⟨y :: ys, .cons hx hxs⟩

theorem mapM_eq_error_iff : xs.mapM f = .error e ↔
    ∃ before x after, xs = before ++ x :: after ∧ (∀ y ∈ before, ∃ b, f y = .ok b) ∧
      f x = .error e := by
  induction xs with
  | nil =>
    refine iff_of_false (fun h => nomatch h) ?_
    rintro ⟨before, x, after, h, _⟩
    exact List.append_ne_nil_of_right_ne_nil before (List.cons_ne_nil x after) h.symm
  | cons x xs ih =>
    rw [List.mapM_cons]
    cases hx : f x with
    | error e' =>
      constructor
      · rintro ⟨⟩
        exact ⟨[], x, xs, rfl, List.forall_mem_nil _, hx⟩
      · rintro ⟨_ | ⟨y, before⟩, x', after, h, hbefore, hx'⟩
        · cases h
          cases hx.symm.trans hx'
          rfl
        · cases h
          obtain ⟨b, hb⟩ := hbefore x List.mem_cons_self
          cases hx.symm.trans hb
    | ok y =>
      have hrest : (do let ys ← xs.mapM f; pure (y :: ys) : Except ε (List β)) = .error e ↔
          xs.mapM f = .error e := by
        cases xs.mapM f with
        | error e' => rfl
        | ok ys => exact iff_of_false (fun h => nomatch h) fun h => nomatch h
      refine hrest.trans (ih.trans ?_)
      constructor
      · rintro ⟨before, x', after, rfl, hbefore, hx'⟩
        exact ⟨x :: before, x', after, rfl, List.forall_mem_cons.2 ⟨⟨y, hx⟩, hbefore⟩, hx'⟩
      · rintro ⟨_ | ⟨z, before⟩, x', after, h, hbefore, hx'⟩
        · cases h
          cases hx.symm.trans hx'
        · cases h
          exact ⟨before, x', after, rfl, (List.forall_mem_cons.1 hbefore).2, hx'⟩

end Traversal

namespace Filter

open Sql

def countOf (f : Filter) (field : Field) : Option Int64 :=
  (f.value field).bind count?

def rejected (field : Field) (raw : String) : Option Failure :=
  if field = .search then none
  else
    match count? raw with
    | some _ => none
    | none => some (invalidCount field raw)

/-- Why a listing is refused: the first of its limit and offset that is no count. -/
def refusal? (f : Filter) : Option Failure :=
  [Field.limit, .offset].findSome? fun field => (f.value field).bind (rejected field)

/-- Whether an entry is one that a listing is about: it is active, and its code or text matches the
search text with any text around it. -/
def selects (like : String → String → Bool) (f : Filter) (e : Entry) : Bool :=
  e.isActive && (f.value .search).all fun search =>
    like ("%" ++ search ++ "%") e.code || like ("%" ++ search ++ "%") e.text

/-- The entries that a filter leaves. -/
def listed (like : String → String → Bool) (f : Filter) (es : List Entry) : List Entry :=
  window ((f.countOf .limit).map fun n => n.toInt.toNat)
    ((f.countOf .offset).map fun n => n.toInt.toNat) (es.filter (f.selects like))

end Filter

end Catalog
