import Catalog.Proofs.Entry.RoundTrip
import Catalog.Proofs.Json.Grammar
import Catalog.Proofs.Json.Member

namespace Catalog

open Json

def Filter.ofFields? : List (Option Json) → Option Filter
  | [search, limit, offset] => do
    return ⟨← optional? Json.text? search, ← optional? Json.text? limit,
      ← optional? Json.text? offset⟩
  | _ => none

def Draft.ofFields? : List (Option Json) → Option Draft
  | [code, text] => do return ⟨← required? Json.text? code, ← required? Json.text? text⟩
  | _ => none

def Changes.ofFields? : List (Option Json) → Option Changes
  | [code, text] => do return ⟨← optional? Json.text? code, ← optional? Json.text? text⟩
  | _ => none

inductive Record where
  | filter
  | draft
  | changes
  | entry

namespace Record

structure Field where
  name : String
  mayBeMissing : Bool
  deriving DecidableEq

def fields : Record → List Field
  | filter => [⟨"search", true⟩, ⟨"limit", true⟩, ⟨"offset", true⟩]
  | draft => [⟨"code", false⟩, ⟨"example", false⟩]
  | changes => [⟨"code", true⟩, ⟨"example", true⟩]
  | entry => [⟨"id", false⟩, ⟨"code", false⟩, ⟨"example", false⟩, ⟨"created_at", false⟩,
      ⟨"created_by", false⟩, ⟨"updated_at", true⟩, ⟨"updated_by", true⟩, ⟨"deleted_at", true⟩,
      ⟨"deleted_by", true⟩, ⟨"uuid", false⟩]

def names (r : Record) : List String := r.fields.map Field.name

def mayEndEarly : Record → Bool
  | filter => true
  | _ => false

abbrev Value : Record → Type
  | filter => Filter
  | draft => Draft
  | changes => Changes
  | entry => Entry

def ofJson? : (r : Record) → Json → Option r.Value
  | filter => Filter.ofJson?
  | draft => Draft.ofJson?
  | changes => Changes.ofJson?
  | entry => Entry.ofJson?

def decode? (r : Record) (s : String) : Option r.Value := (parse? s).bind r.ofJson?

def ofFields? : (r : Record) → List (Option Json) → Option r.Value
  | filter => Filter.ofFields?
  | draft => Draft.ofFields?
  | changes => Changes.ofFields?
  | entry => Entry.ofFields?

variable {r : Record} {ms : List (Option String × Json)} {field : Field}

theorem ofJson?_eq (r : Record) (v : Json) :
    r.ofJson? v = (v.fields? r.names r.mayEndEarly).bind r.ofFields? := by
  cases r with
  | entry => rfl
  | filter =>
    refine congrArg (Option.bind _) (funext fun fields => ?_)
    match fields with
    | [search, limit, offset] => rfl
    | [] | [_] | [_, _] | _ :: _ :: _ :: _ :: _ => rfl
  | draft =>
    refine congrArg (Option.bind _) (funext fun fields => ?_)
    match fields with
    | [code, text] => rfl
    | [] | [_] | _ :: _ :: _ :: _ => rfl
  | changes =>
    refine congrArg (Option.bind _) (funext fun fields => ?_)
    match fields with
    | [code, text] => rfl
    | [] | [_] | _ :: _ :: _ :: _ => rfl

/-- The value of a field, null for one that may be missing and is. -/
def Field.filled (field : Field) (v? : Option Json) : Option Json :=
  if field.mayBeMissing then some (v?.getD .null) else v?

theorem optional?_getD {α : Type} (read : Json → Option α) (v? : Option Json) :
    optional? read (some (v?.getD .null)) = optional? read v? := by
  cases v? <;> rfl

theorem ofFields?_filled (r : Record) (value : Field → Option Json) :
    r.ofFields? (r.fields.map fun field => field.filled (value field)) =
      r.ofFields? (r.fields.map value) := by
  cases r with
  | draft => rfl
  | filter =>
    rw [ofFields?]
    simp only [fields, List.map_cons, List.map_nil, Field.filled, if_true, Filter.ofFields?,
      optional?_getD]
  | changes =>
    rw [ofFields?]
    simp only [fields, List.map_cons, List.map_nil, Field.filled, if_true, Changes.ofFields?,
      optional?_getD]
  | entry =>
    rw [ofFields?]
    simp only [fields, List.map_cons, List.map_nil, Field.filled, if_true, Bool.false_eq_true,
      if_false, Entry.ofFields?, optional?_getD]

theorem ofFields?_eq_none (hfield : field ∈ r.fields) (hrequired : field.mayBeMissing = false)
    {value : Field → Option Json} (h : value field = none) :
    r.ofFields? (r.fields.map value) = none := by
  cases r with
  | filter =>
    simp only [fields, List.mem_cons, List.not_mem_nil, or_false] at hfield
    rcases hfield with rfl | rfl | rfl <;> cases hrequired
  | changes =>
    simp only [fields, List.mem_cons, List.not_mem_nil, or_false] at hfield
    rcases hfield with rfl | rfl <;> cases hrequired
  | draft =>
    rw [ofFields?]
    simp only [fields, List.mem_cons, List.not_mem_nil, or_false] at hfield
    rcases hfield with rfl | rfl <;> simp [fields, Draft.ofFields?, h, required?]
  | entry =>
    rw [ofFields?]
    simp only [fields, List.mem_cons, List.not_mem_nil, or_false] at hfield
    rcases hfield with rfl | rfl | rfl | rfl | rfl | rfl | rfl | rfl | rfl | rfl <;>
      cases hrequired <;> simp [fields, Entry.ofFields?, h, required?]

theorem eq_of_name (r : Record) :
    ∀ field ∈ r.fields, ∀ field' ∈ r.fields, field.name = field'.name → field = field' := by
  cases r <;> decide +kernel

theorem ofJson?_obj (h : WellNamed r.names ms) :
    r.ofJson? (.obj ms) = r.ofFields? (r.fields.map fun field => valueOf ms field.name) := by
  rw [ofJson?_eq, fields?_obj h, Option.bind_some, names, List.map_map]
  rfl

theorem ofJson?_obj_eq_none (h : ¬WellNamed r.names ms) : r.ofJson? (.obj ms) = none := by
  rw [ofJson?_eq, fields?_obj_eq_none h]
  rfl

theorem ofJson?_congr {ms' : List (Option String × Json)}
    (hnamed : WellNamed r.names ms ↔ WellNamed r.names ms')
    (hvalues : WellNamed r.names ms → ∀ field ∈ r.fields,
      field.filled (valueOf ms field.name) = field.filled (valueOf ms' field.name)) :
    r.ofJson? (.obj ms) = r.ofJson? (.obj ms') := by
  by_cases h : WellNamed r.names ms
  · rw [ofJson?_obj h, ofJson?_obj (hnamed.1 h), ← ofFields?_filled,
      List.map_congr_left (hvalues h), ofFields?_filled]
  · rw [ofJson?_obj_eq_none h, ofJson?_obj_eq_none fun h' => h (hnamed.2 h')]

theorem ofJson?_of_perm {ms' : List (Option String × Json)} (h : ms.Perm ms') :
    r.ofJson? (.obj ms) = r.ofJson? (.obj ms') := by
  refine ofJson?_congr (wellNamed_of_perm h) fun hnamed field hfield => ?_
  rw [valueOf_of_perm (h.filter _) (hnamed.2 _ (List.mem_map_of_mem hfield))]

theorem ofJson?_append {extra : List (Option String × Json)}
    (hextra : ∀ m ∈ extra, ∃ k, m.1 = some k ∧ k ∉ r.names) :
    r.ofJson? (.obj (ms ++ extra)) = r.ofJson? (.obj ms) := by
  refine ofJson?_congr (wellNamed_append_iff hextra) fun _ field hfield => ?_
  rw [valueOf, valueOf, named_append, named_of_extra hextra (List.mem_map_of_mem hfield),
    List.append_nil]

theorem ofJson?_cons_null (hfield : field ∈ r.fields) (hmissing : field.mayBeMissing = true)
    (h : named field.name ms = []) :
    r.ofJson? (.obj ((some field.name, .null) :: ms)) = r.ofJson? (.obj ms) := by
  refine ofJson?_congr (wellNamed_cons_iff h _) fun _ field' hfield' => ?_
  by_cases hname : field.name = field'.name
  · cases r.eq_of_name field hfield field' hfield' hname
    rw [Field.filled, Field.filled, if_pos hmissing, if_pos hmissing, valueOf, valueOf,
      named_cons_self, h]
    rfl
  · rw [valueOf, valueOf, named_cons_of_ne hname]

theorem ofJson?_of_repeated (hfield : field ∈ r.fields) (h : 1 < (named field.name ms).length) :
    r.ofJson? (.obj ms) = none :=
  ofJson?_obj_eq_none fun hnamed =>
    absurd h (Nat.not_lt.2 (hnamed.2 _ (List.mem_map_of_mem hfield)))

theorem ofJson?_of_required (hfield : field ∈ r.fields) (hrequired : field.mayBeMissing = false)
    (h : named field.name ms = []) : r.ofJson? (.obj ms) = none := by
  by_cases hnamed : WellNamed r.names ms
  · have hnone : valueOf ms field.name = none := by
      rw [valueOf, h]
      rfl
    rw [ofJson?_obj hnamed, ofFields?_eq_none hfield hrequired hnone]
  · exact ofJson?_obj_eq_none hnamed

theorem ofJson?_arr (hnamed : WellNamed r.names ms)
    (h : ∀ field ∈ r.fields, field.mayBeMissing = false → named field.name ms ≠ []) :
    r.ofJson? (.arr (r.fields.map fun field => (valueOf ms field.name).getD .null)) =
      r.ofJson? (.obj ms) := by
  have hfilled : ∀ field ∈ r.fields,
      some ((valueOf ms field.name).getD .null) = field.filled (valueOf ms field.name) := by
    intro field hfield
    rw [Field.filled]
    split_ifs with hmissing
    · rfl
    · obtain ⟨m, rest, hm⟩ :=
        List.exists_cons_of_ne_nil (h field hfield (Bool.eq_false_iff.2 hmissing))
      rw [valueOf, hm]
      rfl
  have hfields (values : List Json) (hlen : values.length = r.names.length) :
      (Json.arr values).fields? r.names r.mayEndEarly = some (values.map some) := by
    rw [fields?, if_pos (.inl hlen), hlen, Nat.sub_self, List.replicate_zero, List.append_nil]
  rw [ofJson?_obj hnamed, ofJson?_eq, hfields _ (by simp [names]), Option.bind_some, List.map_map]
  change r.ofFields? (r.fields.map fun field => some ((valueOf ms field.name).getD .null)) = _
  rw [List.map_congr_left hfilled, ofFields?_filled]

/-- Of the JSON text of a record only the values of its fields count. -/
structure HeedsFields (r : Record) : Prop where
  /-- Neither the order of the members counts, nor what others there are besides the fields, nor
  how the text is written. -/
  members : ∀ ms ms' extra s s', IsText (.obj ms) s → IsText (.obj ms') s' →
    ms'.Perm (ms ++ extra) → (∀ m ∈ extra, ∃ k, m.1 = some k ∧ k ∉ r.names) →
    r.decode? s' = r.decode? s
  /-- Blanks may stand wherever the text falls apart into tokens. -/
  blanks : ∀ cs cs' blanks ts ts', Spells cs ts → Spells cs' ts' → Spells (cs ++ cs') (ts ++ ts') →
    (∀ c ∈ blanks, isSpace c = true) →
    r.decode? (.ofList (cs ++ blanks ++ cs')) = r.decode? (.ofList (cs ++ cs'))
  /-- A field that may be missing may as well be null. -/
  missing : ∀ field ∈ r.fields, field.mayBeMissing = true → ∀ ms ms' s s',
    named field.name (ms ++ ms') = [] → IsText (.obj (ms ++ ms')) s →
    IsText (.obj (ms ++ (some field.name, .null) :: ms')) s' → r.decode? s = r.decode? s'
  /-- A key whose escapes leave half of a surrogate pair is no text. -/
  keys : ∀ ms s, (∃ m ∈ ms, m.1 = none) → IsText (.obj ms) s → r.decode? s = none
  repeated : ∀ field ∈ r.fields, ∀ ms s, 1 < (named field.name ms).length →
    IsText (.obj ms) s → r.decode? s = none
  required : ∀ field ∈ r.fields, field.mayBeMissing = false → ∀ ms s,
    named field.name ms = [] → IsText (.obj ms) s → r.decode? s = none
  /-- The values alone, in the order of the fields, are as good as the object. -/
  array : ∀ ms s s', WellNamed r.names ms →
    (∀ field ∈ r.fields, field.mayBeMissing = false → named field.name ms ≠ []) →
    IsText (.obj ms) s →
    IsText (.arr (r.fields.map fun field => (valueOf ms field.name).getD .null)) s' →
    r.decode? s' = r.decode? s

theorem decode?_of_isText {v : Json} {s : String} (h : IsText v s) :
    r.decode? s = r.ofJson? v := by
  rw [decode?, parse?_eq_some_iff.2 h]
  rfl

theorem heeds_fields (r : Record) : r.HeedsFields where
  members ms ms' extra s s' hs hs' hperm hextra := by
    rw [decode?_of_isText hs, decode?_of_isText hs', ofJson?_of_perm hperm, ofJson?_append hextra]
  blanks cs cs' blanks ts ts' hcs hcs' hall hblanks := by
    have hscan : scan? (cs ++ blanks ++ cs') = scan? (cs ++ cs') := by
      rw [hall.scan?, (hcs.insert_blanks hcs' hall hblanks).scan?]
    rw [decode?, decode?, parse?, parse?, String.toList_ofList, String.toList_ofList, hscan]
  missing field hfield hmissing ms ms' s s' h hs hs' := by
    rw [decode?_of_isText hs, decode?_of_isText hs', ofJson?_of_perm List.perm_middle,
      ofJson?_cons_null hfield hmissing h]
  keys ms s h hs := by
    obtain ⟨m, hm, hkey⟩ := h
    rw [decode?_of_isText hs]
    apply ofJson?_obj_eq_none
    intro hnamed
    cases hkey ▸ hnamed.1 m hm
  repeated field hfield ms s h hs := by
    rw [decode?_of_isText hs, ofJson?_of_repeated hfield h]
  required field hfield hrequired ms s h hs := by
    rw [decode?_of_isText hs, ofJson?_of_required hfield hrequired h]
  array ms s s' hnamed hgiven hs hs' := by
    rw [decode?_of_isText hs, decode?_of_isText hs', ofJson?_arr hnamed hgiven]

/-- A member is not passed over if its key is half of a surrogate pair. -/
theorem half_pair_heeded :
    IsText (.obj [(some "code", .text "a")]) "\x7b\"code\":\"a\"\x7d" ∧
      IsText (.obj [(none, .num ['1']), (some "code", .text "a")])
        "\x7b\"\\ud800\":1,\"code\":\"a\"\x7d" ∧
      none ∉ changes.names.map some ∧
      changes.decode? "\x7b\"code\":\"a\"\x7d" = some ⟨some "a", none⟩ ∧
      changes.decode? "\x7b\"\\ud800\":1,\"code\":\"a\"\x7d" = none := by
  refine ⟨?_, ?_, ?_, ?_, ?_⟩
  · exact parse?_eq_some_iff.1 rfl
  · exact parse?_eq_some_iff.1 rfl
  · decide
  · rfl
  · rfl

end Record

end Catalog
