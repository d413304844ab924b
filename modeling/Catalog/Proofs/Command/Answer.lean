import Catalog.Command
import Catalog.Proofs.Entry.RoundTrip

namespace Catalog

open Json

/-- What is shown of an entry, with the texts of its times. -/
structure Shown where
  id : Int64
  uuid : Uuid
  code : String
  text : String
  createdAt : String
  createdBy : String
  updatedAt : Option String
  updatedBy : Option String
  deriving DecidableEq

namespace Shown

def of (e : Entry) : Shown where
  id := e.id
  uuid := e.uuid
  code := e.code
  text := e.text
  createdAt := Timestamp.text e.createdAt
  createdBy := e.createdBy
  updatedAt := e.updatedAt.map Timestamp.text
  updatedBy := e.updatedBy

def alwaysNamed : List String := ["id", "uuid", "code", "example", "created_at", "created_by"]

def Names (s : Shown) (name : String) : Prop :=
  name ∈ alwaysNamed ∨ (name = "updated_at" ∧ s.updatedAt.isSome = true) ∨
    (name = "updated_by" ∧ s.updatedBy.isSome = true)

def ofJson? (v : Json) : Option Shown := do
  let [id, uuid, code, text, createdAt, createdBy, updatedAt, updatedBy] ←
    v.fields? (alwaysNamed ++ ["updated_at", "updated_by"]) false | none
  return {
    id := ← required? int64? id
    uuid := ← required? Entry.uuid? uuid
    code := ← required? text? code
    text := ← required? text? text
    createdAt := ← required? text? createdAt
    createdBy := ← required? text? createdBy
    updatedAt := ← optional? text? updatedAt
    updatedBy := ← optional? text? updatedBy }

end Shown

def Json.names? : Json → Option (List String)
  | .obj members => keys? members
  | _ => none

theorem Json.names?_ofMembers (ms : List (String × Json)) :
    (Json.ofMembers ms).names? = some (ms.map Prod.fst) :=
  keys?_ofMembers ms

/-- Whether a document is an object that shows an entry: it says of it what is to be shown, in
members that are there once and no others. -/
structure Entry.ShownBy (e : Entry) (v : Json) : Prop where
  reads : Shown.ofJson? v = some (.of e)
  names : ∃ names, v.names? = some names ∧ names.Nodup ∧
    ∀ name, name ∈ names ↔ (Shown.of e).Names name

namespace Entry

variable (e : Entry)

def shownMembers : List (String × Json) :=
  [("id", .int e.id.toInt), ("uuid", .text e.uuid.text), ("code", .text e.code),
    ("example", .text e.text), ("created_at", instantJson e.createdAt),
    ("created_by", .text e.createdBy)] ++
  ifPresent "updated_at" instantJson e.updatedAt ++ ifPresent "updated_by" .text e.updatedBy

theorem toResponse_eq : e.toResponse = .ofMembers e.shownMembers := rfl

theorem map_fst_ifPresent {α : Type} (name : String) (write : α → Json) (x : Option α) :
    (ifPresent name write x).map Prod.fst = (x.map fun _ => name).toList := by
  cases x with
  | none => rfl
  | some a => rfl

theorem map_fst_shownMembers : e.shownMembers.map Prod.fst =
    Shown.alwaysNamed ++ (e.updatedAt.map fun _ => "updated_at").toList ++
      (e.updatedBy.map fun _ => "updated_by").toList := by
  rw [shownMembers, List.map_append, List.map_append, map_fst_ifPresent, map_fst_ifPresent]
  rfl

theorem nodup_shownMembers : (e.shownMembers.map Prod.fst).Nodup := by
  rw [map_fst_shownMembers]
  cases e.updatedAt <;> cases e.updatedBy <;> simp [Shown.alwaysNamed]

theorem mem_shownMembers_iff (name : String) :
    name ∈ e.shownMembers.map Prod.fst ↔ (Shown.of e).Names name := by
  rw [map_fst_shownMembers, List.mem_append, List.mem_append, or_assoc]
  refine or_congr_right (or_congr ?_ ?_)
  · cases h : e.updatedAt <;> simp [Shown.of, h]
  · cases h : e.updatedBy <;> simp [Shown.of, h]

theorem fields?_toResponse :
    e.toResponse.fields? (Shown.alwaysNamed ++ ["updated_at", "updated_by"]) false = some [
      some (.int e.id.toInt), some (.text e.uuid.text), some (.text e.code), some (.text e.text),
      some (instantJson e.createdAt), some (.text e.createdBy),
      e.updatedAt.map instantJson, e.updatedBy.map .text] := by
  rw [toResponse_eq, fields?_ofMembers e.nodup_shownMembers]
  cases h : e.updatedAt <;> cases h' : e.updatedBy <;>
    simp [shownMembers, Shown.alwaysNamed, ifPresent, List.lookup_cons, h, h']

theorem ofJson?_toResponse : Shown.ofJson? e.toResponse = some (.of e) := by
  have htext (s : String) : Json.text s ≠ .null := fun h => by cases h
  have hinstant (t : Instant) : instantJson t ≠ .null := htext _
  have hread (s : String) : Json.text? (.text s) = some s := rfl
  have hreadInstant (t : Instant) : Json.text? (instantJson t) = some (Timestamp.text t) := rfl
  rw [Shown.ofJson?, fields?_toResponse]
  simp only [Option.bind_eq_bind, Option.bind_some, required?, int64?_int, uuid?_text, hread,
    hreadInstant, optional?_map hreadInstant hinstant, optional?_map hread htext, Option.map_id']
  rfl

theorem shownBy_toResponse : e.ShownBy e.toResponse where
  reads := e.ofJson?_toResponse
  names := ⟨_, names?_ofMembers _, e.nodup_shownMembers, e.mem_shownMembers_iff⟩

theorem proper_toResponse : e.toResponse.Proper := by
  have hinstant (t : Instant) : (instantJson t).Proper := proper_text _
  apply proper_ofMembers
  intro m hm
  rcases List.mem_append.1 hm with hm | hm
  · rcases List.mem_append.1 hm with hm | hm
    · simp only [List.mem_cons, List.not_mem_nil, or_false] at hm
      obtain rfl | rfl | rfl | rfl | rfl | rfl := hm
      · exact proper_int _
      · exact proper_text _
      · exact proper_text _
      · exact proper_text _
      · exact hinstant _
      · exact proper_text _
    · exact proper_ifPresent hinstant _ m hm
  · exact proper_ifPresent proper_text _ m hm

end Entry

namespace Command

variable {c : Service.Call}

/-- Whether a document tells the answer to a call: its entries in their order, its entry, or the
number of the entry that is deleted now. -/
def Tells (c : Service.Call) (a : c.Answer) (v : Json) : Prop :=
  match c with
  | .list _ => ∃ items, v = .arr items ∧ List.Forall₂ Entry.ShownBy (show List Entry from a) items
  | .get _ | .create _ | .update .. | .restore _ => (show Entry from a).ShownBy v
  | .delete id => ∃ n, v = .ofMembers [("deleted", n)] ∧ n.int64? = some id

theorem tells_answer (c : Service.Call) (a : c.Answer) : Tells c a (answer c a) := by
  cases c with
  | list f =>
    refine ⟨_, rfl, List.forall₂_map_right_iff.2 ?_⟩
    exact List.forall₂_same.2 fun e _ => e.shownBy_toResponse
  | get id => exact Entry.shownBy_toResponse a
  | create d => exact Entry.shownBy_toResponse a
  | update id changes => exact Entry.shownBy_toResponse a
  | delete id => exact ⟨_, rfl, int64?_int id⟩
  | restore id => exact Entry.shownBy_toResponse a

theorem proper_answer (c : Service.Call) (a : c.Answer) : (answer c a).Proper := by
  cases c with
  | list f =>
    apply proper_arr
    intro v hv
    obtain ⟨e, _, rfl⟩ := List.mem_map.1 hv
    exact e.proper_toResponse
  | get id => exact Entry.proper_toResponse a
  | create d => exact Entry.proper_toResponse a
  | update id changes => exact Entry.proper_toResponse a
  | delete id => exact proper_ofMembers (List.forall_mem_singleton.2 (proper_int _))
  | restore id => exact Entry.proper_toResponse a

/-- Whether a command ends as the service does: with its failure and nothing printed, or well with
one document printed, which tells the answer. -/
def Output.Mirrors (o : Output) (c : Service.Call) : Except Failure c.Answer → Prop
  | .error f => o.result = .error f ∧ o.printed = ""
  | .ok a => o.result = .ok () ∧ ∃ v, parse? o.printed = some v ∧ Tells c a v

/-- A command on entries makes one call of the service, its own, and what it prints mirrors the
answer, whatever that is. The texts of the times in it say what times they are, but for leap seconds
inside of minutes. -/
theorem output_mirrors_answer {σ : Type}
    (service : (c : Service.Call) → σ → Except Failure c.Answer × σ) (s : σ) (c : Service.Call) :
    let t := (entries c).run service s
    t.asked = [c] ∧ t.state = (service c s).2 ∧ t.result.Mirrors c (service c s).1 ∧
      ∀ time : Instant, Timestamp.parse? (Timestamp.text time) = some time ↔ time.LeapsLast := by
  refine ⟨rfl, rfl, ?_, ?_⟩
  · rw [entries, Session.run]
    cases (service c s).1 with
    | error f => exact ⟨rfl, rfl⟩
    | ok a => exact ⟨rfl, answer c a, parse?_pretty (proper_answer c a), tells_answer c a⟩
  · intro time
    rw [Timestamp.parse?_text, Option.some_inj, Instant.carried_eq_self_iff]

end Command

end Catalog
