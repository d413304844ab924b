import Catalog.Proofs.Listing.Selection
import Catalog.Proofs.Store.Conversation
import Catalog.Proofs.Store.Machine
import Mathlib.Data.List.Find

namespace Catalog.Store

open Sql

variable {like : String → String → Bool} {s : Stamp} {t : Table} {p : Entry → Bool}
  {g : Entry → Entry}

theorem write_eq (hg : ∀ e, (g e).id = e.id) (refusal : Failure) :
    t.write p g hg refusal =
      (match (t.entries.find? p).map g with
        | some e => .ok e
        | none => .error refusal, t.modify p g hg) := by
  rw [Table.write]
  cases h : t.entries.find? p with
  | some e => rfl
  | none =>
    have hp : ∀ e ∈ t.entries, p e = false := by simpa using h
    rw [Table.modify_of_forall hg hp]
    rfl

theorem on_find {r : Request} {conditions : List (Condition Value)}
    (hr : r.bound? = some (.select { conditions })) (hp : meetsAll like s conditions = p) :
    (firstEntry r).on like s t = (.ok (t.entries.find? p), t) := by
  rw [on_firstEntry hr, ← List.head?_filter, ← hp]
  rfl

theorem on_rewrite {r : Request} {settings : List (Column × Setting Value)}
    {conditions : List (Condition Value)} (hg : ∀ e, (g e).id = e.id)
    (hr : r.bound? = some (.update settings conditions))
    (hs : ∀ e, rewritten s settings e = .ok (g e)) (hp : meetsAll like s conditions = p) :
    (firstEntry r).on like s t = (.ok ((t.entries.find? p).map g), t.modify p g hg) := by
  rw [on_firstEntry hr, execute_update conditions hg hs, hp]
  simp only [List.head?_map, List.head?_filter]

theorem meetsAll_active_id (id : Int64) :
    meetsAll like s [.equal .id (.ofInt id), .isNull .deletedAt] =
      fun e => e.id = id && e.isActive := by
  funext e
  rw [meetsAll_cons, meetsAll_cons, meetsAll_nil, Bool.and_true, meets_id, meets_active]

theorem meetsAll_deleted_id (id : Int64) :
    meetsAll like s [.equal .id (.ofInt id), .isNotNull .deletedAt] =
      fun e => e.id = id && !e.isActive := by
  funext e
  rw [meetsAll_cons, meetsAll_cons, meetsAll_nil, Bool.and_true, meets_id, meets_deleted]

theorem meetsAll_active_code (code : String) :
    meetsAll like s [.equal .code (.ofText code), .isNull .deletedAt] =
      fun e => e.code = code && e.isActive := by
  funext e
  rw [meetsAll_cons, meetsAll_cons, meetsAll_nil, Bool.and_true, meets_code, meets_active]

theorem on_insertion {r : Request} {columns : List (Column × Value)} {e : Entry}
    (hr : r.bound? = some (.insert columns))
    (hc : columns.foldlM (fun r p => r.set p.1 (p.2.datum s)) (Row.blank s) = .ok e.row) :
    (firstEntry r).on like s t = ((t.insert e).1.map some, (t.insert e).2) := by
  rw [on_firstEntry hr, execute_insert hc, Table.insert]
  by_cases he : e.id ∉ t.entries.map Entry.id
  · rw [dif_pos he, dif_pos he]
    rfl
  · rw [dif_neg he, dif_neg he]
    rfl

namespace Written

theorem on_list (f : Filter) : (list f).on like s t = machine like s (.list f) t := by
  rw [list, Filter.bindValues_arguments, on_bind, on_lift, machine]
  cases h : f.refusal? with
  | some failure => rfl
  | none =>
    dsimp only [okUnless]
    rw [on_entries (bound?_listing h), execute_listing]
    rfl

theorem on_findById (id : Int64) :
    (findById id).on like s t = machine like s (.findById id) t :=
  on_find rfl (meetsAll_active_id id)

theorem on_findByCode (code : String) :
    (findByCode code).on like s t = machine like s (.findByCode code) t :=
  on_find rfl (meetsAll_active_code code)

theorem on_create (d : Draft) (actor : String) :
    (create d actor).on like s t = machine like s (.create d actor) t := by
  rw [create, on_bind, one, on_insertion (e := d.entry s actor) rfl rfl, machine]
  obtain ⟨answer, u⟩ := t.insert (d.entry s actor)
  cases answer <;> rfl

theorem on_update (id : Int64) (c : Changes) (actor : String) :
    (update id c actor).on like s t = machine like s (.update id c actor) t := by
  have hs (e : Entry) : rewritten s
      [(.code, .toIfGiven (.text c.code)), (.text, .toIfGiven (.text c.text)),
        (.updatedAt, .to .now), (.updatedBy, .to (.ofText actor))] e =
      .ok (e.changed s.time actor c) := by
    obtain ⟨code, text⟩ := c
    cases code <;> cases text <;> rfl
  rw [update, on_bind, one,
    on_rewrite (Entry.id_changed s.time actor c) rfl hs (meetsAll_active_id id), machine, write_eq]
  cases t.entries.find? fun e => e.id = id && e.isActive <;> rfl

theorem on_delete (id : Int64) (actor : String) :
    (delete id actor).on like s t = machine like s (.delete id actor) t := by
  rw [delete, on_bind, one,
    on_rewrite (Entry.id_deleted s.time actor) rfl (fun _ => rfl) (meetsAll_active_id id), machine,
    write_eq]
  cases t.entries.find? fun e => e.id = id && e.isActive <;> rfl

theorem on_restore (id : Int64) (actor : String) :
    (restore id actor).on like s t = machine like s (.restore id actor) t := by
  rw [restore, on_bind, one,
    on_rewrite (Entry.id_restored s.time actor) rfl (fun _ => rfl) (meetsAll_deleted_id id),
    machine, write_eq]
  cases t.entries.find? fun e => e.id = id && !e.isActive <;> rfl

end Written

namespace Mapped

theorem on_list (f : Filter) : (list f).on like s t = machine like s (.list f) t := by
  rw [list, listing_eq, on_bind, on_lift, machine]
  cases f.refusal? with
  | some failure => rfl
  | none =>
    dsimp only [okUnless]
    rw [on_entries (Request.bound?_ofStatement _ _), execute_listing]
    rfl

theorem on_findWhere {conditions : List (Condition Value)} (hp : meetsAll like s conditions = p) :
    (find conditions).on like s t = (.ok (t.entries.find? p), t) := by
  rw [find, on_firstEntry (Request.bound?_ofStatement _ _), ← List.head?_filter, ← hp]
  have h : (Statement.select { conditions, limit := some (.biguint (some 1)) }).execute like s t =
      .ok ((t.entries.filter (meetsAll like s conditions)).take 1, t) := rfl
  rw [h]
  dsimp only
  rw [List.head?_take]
  rfl

theorem decide_id_eq {e : Entry} (he : e ∈ t.entries) (hp : p e = true)
    (hid : ∀ x, p x = true → x.id = e.id) : ∀ x ∈ t.entries, decide (x.id = e.id) = p x := by
  intro x hx
  by_cases h : x.id = e.id
  · cases Table.eq_of_id hx he h
    rw [hp, decide_eq_true rfl]
  · rw [decide_eq_false h]
    exact (Bool.eq_false_iff.2 fun hpx => h (hid x hpx)).symm

/-- A call that finds the entry with a number, in the state that it has to be in, and then changes
it. -/
structure Amendment (c : Call) where
  id : Int64
  state : Condition Value
  wanted : Entry → Bool
  settings : List (Column × Value)
  change : Stamp → Entry → Entry
  refusal : Failure
  answer : Entry → c.Answer
  meets_state : ∀ like s (e : Entry), state.meets like s e.row = wanted e
  id_change : ∀ s e, (change s e).id = e.id
  rewritten_settings : ∀ s e,
    rewritten s (settings.map fun p => (p.1, .to p.2)) e = .ok (change s e)
  store_eq : store c = do
    match ← find [.equal .id (.ofInt id), state] with
    | some e => return answer (← Mapped.change e.id settings)
    | none => throw refusal
  machine_eq : ∀ like s t, machine like s c t =
    let written := t.write (fun e => e.id = id && wanted e) (change s) (id_change s) refusal
    (written.1.map answer, written.2)

namespace Amendment

variable {c : Call} (w : Amendment c)

def write (id : Int64) : Conversation c.Answer :=
  return w.answer (← Mapped.change id w.settings)

theorem meetsAll_lookup :
    meetsAll like s [.equal .id (.ofInt w.id), w.state] = fun e => e.id = w.id && w.wanted e := by
  funext e
  rw [meetsAll_cons, meetsAll_cons, meetsAll_nil, Bool.and_true, meets_id, w.meets_state]

theorem on_write (id : Int64) :
    (w.write id).on like s t =
      (match t.entries.find? fun e => e.id = id with
        | some e => .ok (w.answer (w.change s e))
        | none => .error (.ofDatabase .notUpdated),
      t.modify (fun e => e.id = id) (w.change s) (w.id_change s)) := by
  have hp : meetsAll like s [.equal .id (.ofInt id)] = fun e => decide (e.id = id) := by
    funext e
    rw [meetsAll_cons, meetsAll_nil, Bool.and_true, meets_id]
  rw [write, on_bind, Mapped.change, on_bind,
    on_rewrite (w.id_change s) (Request.bound?_ofStatement _ _) (w.rewritten_settings s) hp]
  cases t.entries.find? fun e => e.id = id <;> rfl

theorem id_of_find? {e : Entry}
    (h : (t.entries.find? fun e => e.id = w.id && w.wanted e) = some e) : e.id = w.id := by
  have he := List.find?_some h
  exact of_decide_eq_true (Bool.and_eq_true_iff.1 he).1

theorem on_write_of_find? {e : Entry}
    (h : (t.entries.find? fun e => e.id = w.id && w.wanted e) = some e) :
    (w.write w.id).on like s t = machine like s c t := by
  have hid (x : Entry) (hx : (decide (x.id = w.id) && w.wanted x) = true) : x.id = w.id :=
    of_decide_eq_true (Bool.and_eq_true_iff.1 hx).1
  have hsame : ∀ x ∈ t.entries, decide (x.id = w.id) = (decide (x.id = w.id) && w.wanted x) := by
    have hsame := decide_id_eq (List.mem_of_find?_eq_some h) (List.find?_some h) fun x hx =>
      (hid x hx).trans (w.id_of_find? h).symm
    rwa [w.id_of_find? h] at hsame
  rw [w.on_write, w.machine_eq, List.find?_congr hsame, Table.modify_congr _ hsame, Table.write, h]
  rfl

include w in
theorem on_store : store.on like s c t = machine like s c t := by
  rw [Behaviour.on, w.store_eq, on_bind, on_findWhere w.meetsAll_lookup]
  cases h : t.entries.find? fun e => e.id = w.id && w.wanted e with
  | none =>
    rw [w.machine_eq, Table.write, h]
    rfl
  | some e =>
    change (w.write e.id).on like s t = _
    rw [w.id_of_find? h]
    exact w.on_write_of_find? h

theorem map_self (p : Except Failure Entry × Table) : (p.1.map fun e => e, p.2) = p := by
  obtain ⟨r, u⟩ := p
  cases r <;> rfl

def ofUpdate (id : Int64) (c : Changes) (actor : String) : Amendment (.update id c actor) where
  id := id
  state := .isNull .deletedAt
  wanted := Entry.isActive
  settings := changedColumns c ++ [(.updatedAt, .now), (.updatedBy, .ofText actor)]
  change s e := e.changed s.time actor c
  refusal := .notFound
  answer e := e
  meets_state _ _ _ := meets_active
  id_change s e := Entry.id_changed s.time actor c e
  rewritten_settings s e := by
    obtain ⟨code, text⟩ := c
    cases code <;> cases text <;> rfl
  store_eq := by
    refine bind_congr fun found => ?_
    cases found with
    | none => rfl
    | some e => exact (bind_pure (Mapped.change e.id _)).symm
  machine_eq _ _ _ := (map_self _).symm

def ofDelete (id : Int64) (actor : String) : Amendment (.delete id actor) where
  id := id
  state := .isNull .deletedAt
  wanted := Entry.isActive
  settings := [(.deletedAt, .now), (.deletedBy, .ofText actor)]
  change s e := e.deleted s.time actor
  refusal := .notFound
  answer _ := ()
  meets_state _ _ _ := meets_active
  id_change s e := Entry.id_deleted s.time actor e
  rewritten_settings _ _ := rfl
  store_eq := by
    refine bind_congr fun found => ?_
    cases found with
    | none => rfl
    | some e => rfl
  machine_eq _ _ _ := rfl

def ofRestore (id : Int64) (actor : String) : Amendment (.restore id actor) where
  id := id
  state := .isNotNull .deletedAt
  wanted e := !e.isActive
  settings := [(.updatedAt, .now), (.updatedBy, .ofText actor), (.deletedAt, .noTime),
    (.deletedBy, .text none)]
  change s e := e.restored s.time actor
  refusal := nothingToRestore
  answer e := e
  meets_state _ _ _ := meets_deleted
  id_change s e := Entry.id_restored s.time actor e
  rewritten_settings _ _ := rfl
  store_eq := by
    refine bind_congr fun found => ?_
    cases found with
    | none => rfl
    | some e => exact (bind_pure (Mapped.change e.id _)).symm
  machine_eq _ _ _ := (map_self _).symm

end Amendment

theorem on_findActive (id : Int64) :
    (findActive id).on like s t = machine like s (.findById id) t :=
  on_findWhere (meetsAll_active_id id)

theorem on_findByCode (code : String) :
    (findByCode code).on like s t = machine like s (.findByCode code) t :=
  on_findWhere (meetsAll_active_code code)

theorem on_create (d : Draft) (actor : String) :
    (create d actor).on like s t = machine like s (.create d actor) t := by
  rw [create, on_bind, on_insertion (e := d.entry s actor) (Request.bound?_ofStatement _ _) rfl,
    machine]
  obtain ⟨answer, u⟩ := t.insert (d.entry s actor)
  cases answer <;> rfl

end Mapped

theorem Mapped.on_table (c : Call) : Mapped.store.on like s c t = machine like s c t := by
  cases c with
  | list f => exact on_list f
  | findById id => exact on_findActive id
  | findByCode code => exact on_findByCode code
  | create d actor => exact on_create d actor
  | update id c actor => exact (Amendment.ofUpdate id c actor).on_store
  | delete id actor => exact (Amendment.ofDelete id actor).on_store
  | restore id actor => exact (Amendment.ofRestore id actor).on_store

theorem Written.on_table (c : Call) : Written.store.on like s c t = machine like s c t := by
  cases c with
  | list f => exact on_list f
  | findById id => exact on_findById id
  | findByCode code => exact on_findByCode code
  | create d actor => exact on_create d actor
  | update id c actor => exact on_update id c actor
  | delete id actor => exact on_delete id actor
  | restore id actor => exact on_restore id actor

/-- Both stores do with a table what the machine does with it. -/
theorem stores_follow_machine (like : String → String → Bool) (s : Stamp) (c : Call) (t : Table) :
    Mapped.store.on like s c t = machine like s c t ∧
      Written.store.on like s c t = machine like s c t ∧
      ((∃ a, (machine like s c t).1 = .ok a) ↔ admits s t c) ∧
      ∀ failure, (machine like s c t).1 = .error failure → (machine like s c t).2 = t :=
  ⟨Mapped.on_table c, Written.on_table c, machine_ok_iff c, fun _ h => machine_refused c h⟩

end Catalog.Store
