import Catalog.Entry.Record
import Catalog.Listing.Record
import Catalog.Proofs.Calendar.Timestamp
import Catalog.Proofs.Json.Record
import Catalog.Proofs.Uuid

namespace Catalog

open Json

namespace Entry

def encode (e : Entry) : String := e.toJson.compact

def decode? (s : String) : Option Entry := (parse? s).bind ofJson?

/-- The text of the entry that a text is read as. -/
def recode? (s : String) : Option String := (decode? s).map encode

/-- An entry whose times have their leap seconds as texts can tell them. -/
def carried (e : Entry) : Entry :=
  { e with
    createdAt := e.createdAt.carried
    updatedAt := e.updatedAt.map Instant.carried
    deletedAt := e.deletedAt.map Instant.carried }

def instants (e : Entry) : List Instant :=
  e.createdAt :: (e.updatedAt.toList ++ e.deletedAt.toList)

theorem instant?_instantJson (t : Instant) : instant? (instantJson t) = some t.carried := by
  have h : instant? (instantJson t) = (some (Timestamp.text t)).bind Timestamp.parse? := rfl
  rw [h, Option.bind_some, Timestamp.parse?_text]

theorem uuid?_text (u : Uuid) : uuid? (.text u.text) = some u := by
  have h : uuid? (.text u.text) = (some u.text).bind Uuid.parse? := rfl
  rw [h, Option.bind_some, Uuid.parse?_text]

theorem optional?_orNull {α β : Type} {read : Json → Option β} {write : α → Json} {f : α → β}
    (hread : ∀ a, read (write a) = some (f a)) (hnull : ∀ a, write a ≠ .null) (x : Option α) :
    optional? read (some (orNull write x)) = some (x.map f) := by
  cases x with
  | none => rfl
  | some a => exact optional?_map hread hnull (some a)

theorem optional?_text (x : Option String) :
    optional? Json.text? (some (orNull .text x)) = some x := by
  cases x with
  | none => rfl
  | some s => rfl

theorem fields?_toJson (e : Entry) : e.toJson.fields? fieldNames false = some [
    some (.int e.id.toInt), some (.text e.code), some (.text e.text),
    some (instantJson e.createdAt), some (.text e.createdBy),
    some (orNull instantJson e.updatedAt), some (orNull .text e.updatedBy),
    e.deletedAt.map instantJson, e.deletedBy.map .text, some (.text e.uuid.text)] := by
  rw [toJson, fields?_ofMembers]
  · cases e.deletedAt <;> cases e.deletedBy <;>
      simp [fieldNames, ifPresent, List.lookup_cons]
  · cases e.deletedAt <;> cases e.deletedBy <;> simp [ifPresent]

theorem ofJson?_toJson (e : Entry) : ofJson? e.toJson = some e.carried := by
  have htext (s : String) : Json.text s ≠ .null := fun h => by cases h
  have hinstant (t : Instant) : instantJson t ≠ .null := htext _
  have hread (s : String) : Json.text? (.text s) = some s := rfl
  rw [ofJson?, fields?_toJson, Option.bind_some, ofFields?]
  simp only [required?, int64?_int, instant?_instantJson, uuid?_text, optional?_text,
    optional?_orNull instant?_instantJson hinstant, optional?_map instant?_instantJson hinstant,
    optional?_map hread htext, Option.map_id']
  rfl

theorem proper_ifPresent {α : Type} {name : String} {write : α → Json}
    (h : ∀ a, (write a).Proper) (x : Option α) : ∀ m ∈ ifPresent name write x, m.2.Proper := by
  cases x with
  | none => exact List.forall_mem_nil _
  | some a => exact List.forall_mem_singleton.2 (h a)

theorem proper_orNull {α : Type} {write : α → Json} (h : ∀ a, (write a).Proper) (x : Option α) :
    (orNull write x).Proper := by
  cases x with
  | none => exact proper_null
  | some a => exact h a

theorem proper_toJson (e : Entry) : e.toJson.Proper := by
  have hinstant (t : Instant) : (instantJson t).Proper := proper_text _
  apply proper_ofMembers
  intro m hm
  rcases List.mem_append.1 hm with hm | hm
  · rcases List.mem_append.1 hm with hm | hm
    · rcases List.mem_append.1 hm with hm | hm
      · simp only [List.mem_cons, List.not_mem_nil, or_false] at hm
        obtain rfl | rfl | rfl | rfl | rfl | rfl | rfl := hm
        · exact proper_int _
        · exact proper_text _
        · exact proper_text _
        · exact hinstant _
        · exact proper_text _
        · exact proper_orNull hinstant _
        · exact proper_orNull proper_text _
      · exact proper_ifPresent hinstant _ m hm
    · exact proper_ifPresent proper_text _ m hm
  · cases List.mem_singleton.1 hm
    exact proper_text _

theorem decode?_encode (e : Entry) : decode? e.encode = some e.carried := by
  rw [decode?, encode, parse?_compact e.proper_toJson, Option.bind_some, ofJson?_toJson]

theorem instantJson_carried (t : Instant) : instantJson t.carried = instantJson t := by
  rw [instantJson, Timestamp.text_carried, instantJson]

theorem encode_carried (e : Entry) : e.carried.encode = e.encode := by
  have hinstant (x : Option Instant) :
      (x.map Instant.carried).map instantJson = x.map instantJson := by
    have hcomp : instantJson ∘ Instant.carried = instantJson := funext instantJson_carried
    rw [Option.map_map, hcomp]
  have hifPresent (name : String) (x : Option Instant) :
      ifPresent name instantJson (x.map Instant.carried) = ifPresent name instantJson x := by
    cases x with
    | none => rfl
    | some t => simp only [Option.map_some, ifPresent, instantJson_carried]
  have htoJson : e.carried.toJson = e.toJson := by
    simp only [toJson, carried, instantJson_carried, orNull, hinstant, hifPresent]
  rw [encode, htoJson, encode]

theorem map_carried_eq_self_iff (x : Option Instant) :
    x.map Instant.carried = x ↔ ∀ t ∈ x.toList, t.LeapsLast := by
  cases x with
  | none => exact iff_of_true rfl (List.forall_mem_nil _)
  | some t =>
    rw [Option.map_some, Option.some_inj, Instant.carried_eq_self_iff, Option.toList_some,
      List.forall_mem_singleton]

theorem carried_eq_self_iff (e : Entry) : e.carried = e ↔ ∀ t ∈ e.instants, t.LeapsLast := by
  rw [instants, List.forall_mem_cons, List.forall_mem_append, ← Instant.carried_eq_self_iff,
    ← map_carried_eq_self_iff, ← map_carried_eq_self_iff]
  constructor
  · intro h
    exact ⟨congrArg createdAt h, congrArg updatedAt h, congrArg deletedAt h⟩
  · rintro ⟨hcreated, hupdated, hdeleted⟩
    rw [carried, hcreated, hupdated, hdeleted]

theorem leapsLast_of_instant? (v : Json) (t : Instant) (h : instant? v = some t) :
    t.LeapsLast := by
  obtain ⟨s, _, hs⟩ := Option.bind_eq_some_iff.1 h
  exact Timestamp.leapsLast_of_parse? hs

theorem leapsLast_of_decode? {s : String} {e : Entry} (h : decode? s = some e) :
    ∀ t ∈ e.instants, t.LeapsLast := by
  obtain ⟨v, _, h⟩ := Option.bind_eq_some_iff.1 h
  obtain ⟨fields, _, h⟩ := Option.bind_eq_some_iff.1 h
  rw [ofFields?.eq_def] at h
  split at h
  · obtain ⟨id, _, h⟩ := Option.bind_eq_some_iff.1 h
    obtain ⟨code, _, h⟩ := Option.bind_eq_some_iff.1 h
    obtain ⟨text, _, h⟩ := Option.bind_eq_some_iff.1 h
    obtain ⟨createdAt, hcreated, h⟩ := Option.bind_eq_some_iff.1 h
    obtain ⟨createdBy, _, h⟩ := Option.bind_eq_some_iff.1 h
    obtain ⟨updatedAt, hupdated, h⟩ := Option.bind_eq_some_iff.1 h
    obtain ⟨updatedBy, _, h⟩ := Option.bind_eq_some_iff.1 h
    obtain ⟨deletedAt, hdeleted, h⟩ := Option.bind_eq_some_iff.1 h
    obtain ⟨deletedBy, _, h⟩ := Option.bind_eq_some_iff.1 h
    obtain ⟨uuid, _, h⟩ := Option.bind_eq_some_iff.1 h
    cases h
    rw [instants, List.forall_mem_cons, List.forall_mem_append]
    exact ⟨of_required? leapsLast_of_instant? hcreated,
      of_optional? leapsLast_of_instant? hupdated, of_optional? leapsLast_of_instant? hdeleted⟩
  · cases h

end Entry

namespace Filter

def encode (f : Filter) : String := f.toJson.compact

def decode? (s : String) : Option Filter := (parse? s).bind ofJson?

theorem fields?_toJson (f : Filter) :
    f.toJson.fields? ["search", "limit", "offset"] true =
      some [some (Entry.orNull .text f.search), some (Entry.orNull .text f.limit),
        some (Entry.orNull .text f.offset)] := by
  rw [toJson, fields?_ofMembers]
  · rfl
  · change ["search", "limit", "offset"].Nodup
    decide

theorem ofJson?_toJson (f : Filter) : ofJson? f.toJson = some f := by
  rw [ofJson?, fields?_toJson]
  simp only [Option.bind_eq_bind, Option.bind_some, Entry.optional?_text]
  rfl

theorem proper_toJson (f : Filter) : f.toJson.Proper := by
  have hvalue (x : Option String) : (Entry.orNull .text x).Proper :=
    Entry.proper_orNull proper_text x
  apply proper_ofMembers
  intro m hm
  simp only [List.mem_cons, List.not_mem_nil, or_false] at hm
  obtain rfl | rfl | rfl := hm
  · exact hvalue _
  · exact hvalue _
  · exact hvalue _

theorem decode?_encode (f : Filter) : decode? f.encode = some f := by
  rw [decode?, encode, parse?_compact f.proper_toJson, Option.bind_some, ofJson?_toJson]

end Filter

/-- Filters are read from their JSON texts as they were, and entries just if their leap seconds end
minutes. One inside of a minute has the text of the next second and is read as that. The text
that an entry is written to again says what the text it was read from said, and is itself written to
no other. -/
theorem records_round_trip :
    (∀ e : Entry, Entry.decode? e.encode = some e ↔ ∀ t ∈ e.instants, t.LeapsLast) ∧
    (∀ e : Entry, Entry.decode? e.encode = some e.carried ∧ e.carried.encode = e.encode) ∧
    (∀ f : Filter, Filter.decode? f.encode = some f) ∧
    ∀ s s', Entry.recode? s = some s' →
      Entry.decode? s' = Entry.decode? s ∧ Entry.recode? s' = some s' := by
  refine ⟨?_, ?_, Filter.decode?_encode, ?_⟩
  · intro e
    rw [Entry.decode?_encode, Option.some_inj, Entry.carried_eq_self_iff]
  · intro e
    exact ⟨e.decode?_encode, e.encode_carried⟩
  · intro s s' h
    obtain ⟨e, he, rfl⟩ := Option.map_eq_some_iff.1 h
    -- what comes from a text is not changed by one
    have hcarried : e.carried = e := e.carried_eq_self_iff.2 (Entry.leapsLast_of_decode? he)
    have hread : Entry.decode? e.encode = some e := by rw [Entry.decode?_encode, hcarried]
    constructor
    · rw [hread, he]
    · rw [Entry.recode?, hread, Option.map_some]

/-- An entry that was made in a leap second inside of a minute is not read from its text. -/
theorem inner_leap_second_lost :
    let e : Entry := {
      id := 1, code := "A", text := "first"
      createdAt := {
        date := { year := 2024, month := 1, day := 1 }
        hour := 23, minute := 56, second := 4, nano := 1_333_333_333 }
      createdBy := "clerk", updatedAt := none, updatedBy := none, deletedAt := none
      deletedBy := none, uuid := ⟨.replicate 32 0, rfl⟩ }
    e.encode = "\x7b\"id\":1,\"code\":\"A\",\"example\":\"first\"," ++
        "\"created_at\":\"2024-01-01T23:56:05.333333333Z\",\"created_by\":\"clerk\"," ++
        "\"updated_at\":null,\"updated_by\":null," ++
        "\"uuid\":\"00000000-0000-0000-0000-000000000000\"\x7d" ∧
      Entry.decode? e.encode ≠ some e := by
  intro e
  constructor
  · decide +kernel
  · rw [e.decode?_encode]
    decide +kernel

end Catalog
