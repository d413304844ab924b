import Catalog.Command
import Catalog.Proofs.Json.Record
import Catalog.Proofs.Listing.Agreement
import Catalog.Proofs.Listing.Binding

namespace Catalog

open Json Sql

namespace Filter

variable {f : Filter} {field : Field} {raw : String} {limit : Duration} {script : Store.Script}

theorem arguments_eq (f : Filter) : f.arguments = Field.all.filterMap f.value := by
  rw [arguments, present, List.map_filterMap]
  congr 1
  funext field
  rw [Option.map_map]
  exact Option.map_id'

def request (f : Filter) : Request :=
  Store.Written.request (.select f.query) (f.present.map fun p => boundValue p.1 p.2) true

theorem asked_list : (Store.perform Store.Written.store limit (.list f) script).asked =
    if f.refusal?.isSome then [] else [f.request] := by
  rw [Store.perform]
  change (Session.runWithin limit Store.Script.answer ⟨0⟩ script (Store.Written.list f).run).asked = _
  rw [Store.Written.list, bindValues_arguments]
  cases f.refusal? with
  | some failure => rfl
  | none =>
    change (Session.runWithin limit Store.Script.answer ⟨0⟩ script
      (Store.entries f.request).run).asked = _
    rw [Store.run_entries, Session.runWithin]
    dsimp only
    split
    · rfl
    · rfl

end Filter

namespace Json

def texts? : Json → Option (List String)
  | .arr items => items.mapM text?
  | _ => none

theorem texts?_arr (xs : List String) : texts? (.arr (xs.map .text)) = some xs := by
  have htext : text? ∘ Json.text = fun s => pure (id s) := rfl
  rw [texts?, List.mapM_map, htext, List.mapM_pure, List.map_id]
  rfl

end Json

open Catalog.Filter

/-- A statement, its arguments, and the placeholders of the fields. -/
structure Preview where
  sql : String
  arguments : List String
  search : String
  limit : String
  offset : String

namespace Preview

def token (p : Preview) : Field → String
  | .search => p.search
  | .limit => p.limit
  | .offset => p.offset

def ofJson? (v : Json) : Option Preview := do
  let [sql, arguments, placeholders] ← v.fields? ["sql", "arguments", "placeholders"] false | none
  let [search, limit, offset] ←
    (← placeholders).fields? ["search", "limit", "offset"] false | none
  return {
    sql := ← required? text? sql
    arguments := ← required? texts? arguments
    search := ← required? text? search
    limit := ← required? text? limit
    offset := ← required? text? offset }

def decode? (printed : String) : Option Preview := (parse? printed).bind ofJson?

def of (f : Filter) : Preview where
  sql := f.sql
  arguments := f.arguments
  search := f.token .search
  limit := f.token .limit
  offset := f.token .offset

variable {f : Filter} {field : Field} {raw : String}

theorem token_of : (of f).token field = placeholder (f.position field) := by
  cases field with
  | search => rfl
  | limit => rfl
  | offset => rfl

theorem fields?_preview (f : Filter) :
    (Command.preview f).fields? ["sql", "arguments", "placeholders"] false =
      some [some (.text f.sql), some (.arr (f.arguments.map .text)),
        some (.ofMembers (Field.all.map fun k => (k.name, .text (f.token k))))] := by
  rw [Command.preview, fields?_ofMembers]
  · rfl
  · change ["sql", "arguments", "placeholders"].Nodup
    decide

theorem fields?_tokens (f : Filter) :
    (Json.ofMembers (Field.all.map fun k => (k.name, .text (f.token k)))).fields?
      ["search", "limit", "offset"] false =
      some [some (.text (f.token .search)), some (.text (f.token .limit)),
        some (.text (f.token .offset))] := by
  rw [fields?_ofMembers]
  · rfl
  · change ["search", "limit", "offset"].Nodup
    decide

theorem ofJson?_preview (f : Filter) : ofJson? (Command.preview f) = some (of f) := by
  rw [ofJson?, fields?_preview]
  simp only [Option.bind_eq_bind, Option.bind_some, fields?_tokens, required?, texts?_arr]
  rfl

theorem proper_preview (f : Filter) : (Command.preview f).Proper := by
  have harguments : (Json.arr (f.arguments.map .text)).Proper := by
    apply proper_arr
    intro v hv
    obtain ⟨s, _, rfl⟩ := List.mem_map.1 hv
    exact proper_text s
  have htokens : (Json.ofMembers (Field.all.map fun k => (k.name, .text (f.token k)))).Proper := by
    apply proper_ofMembers
    intro m hm
    obtain ⟨k, _, rfl⟩ := List.mem_map.1 hm
    exact proper_text _
  apply proper_ofMembers
  intro m hm
  simp only [List.mem_cons, List.not_mem_nil, or_false] at hm
  obtain rfl | rfl | rfl := hm
  · exact proper_text f.sql
  · exact harguments
  · exact htokens

theorem decode?_printed (f : Filter) : decode? (Command.sql f).printed = some (of f) := by
  change (parse? ((Command.preview f).pretty ++ "\n")).bind ofJson? = _
  rw [parse?_pretty (proper_preview f), Option.bind_some, ofJson?_preview]

/-- Whether the placeholder of a field is that of a text among the arguments. -/
def Names (p : Preview) (field : Field) (raw : String) : Prop :=
  ∃ n, 1 ≤ n ∧ n ≤ p.arguments.length ∧ p.token field = placeholder n ∧
    p.arguments[n - 1]? = some raw

theorem placeholder_inj {m n : Nat} (h : placeholder m = placeholder n) : m = n := by
  have hreads := (Reads.placeholder m).placeholders_eq
  rw [h, (Reads.placeholder n).placeholders_eq] at hreads
  exact (List.singleton_inj.1 hreads).symm

theorem names_iff : (of f).Names field raw ↔ f.value field = some raw := by
  constructor
  · rintro ⟨n, hpos, _, htoken, hraw⟩
    have hn : f.position field = n := placeholder_inj (token_of.symm.trans htoken)
    -- a field without a text has the number zero, which names no argument
    have hvalue : f.value field ≠ none := by
      rw [ne_eq, ← position_eq_zero_iff, hn]
      omega
    obtain ⟨raw', hv⟩ := Option.ne_none_iff_exists'.1 hvalue
    have ha : valueAt f.arguments (f.position field) = some raw' := valueAt_position hv Prod.snd
    obtain ⟨n, rfl⟩ := Nat.exists_eq_add_of_le' hpos
    rw [hn] at ha
    rw [hv, ← hraw]
    exact ha.symm
  · intro hv
    have ha : valueAt f.arguments (f.position field) = some raw := valueAt_position hv Prod.snd
    have hzero : f.position field ≠ 0 := by
      rw [ne_eq, position_eq_zero_iff, hv]
      exact Option.some_ne_none raw
    obtain ⟨n, hn⟩ := Nat.exists_eq_succ_of_ne_zero hzero
    rw [hn] at ha
    obtain ⟨hlt, _⟩ := List.getElem?_eq_some_iff.1 ha
    refine ⟨n + 1, Nat.le_add_left 1 n, hlt, ?_, ha⟩
    rw [token_of, hn]

/-- Whether a request is the one that is shown: the statement, and a value for each argument, as the
field with its placeholder has it. -/
structure Matches (p : Preview) (q : Request) : Prop where
  sql : q.sql = p.sql
  length : q.values.length = p.arguments.length
  values : ∀ i raw, p.arguments[i]? = some raw → ∃ field v,
    p.token field = placeholder (i + 1) ∧ q.values[i]? = some v ∧ field.Binds raw v

theorem matches_request (h : f.refusal? = none) : (of f).Matches f.request where
  sql := rfl
  length := by
    change (f.present.map _).length = (f.present.map Prod.snd).length
    rw [List.length_map, List.length_map]
  values i raw hraw := by
    change (f.present.map Prod.snd)[i]? = some raw at hraw
    rw [List.getElem?_map] at hraw
    obtain ⟨⟨field, raw⟩, hi, rfl⟩ := Option.map_eq_some_iff.1 hraw
    obtain ⟨hlt, hfield⟩ := List.getElem?_eq_some_iff.1 hi
    have hposition : f.position field = i + 1 := by
      have hp := position_getElem (f := f) (i := i) (by rwa [List.length_map])
      rwa [List.getElem_map, hfield] at hp
    refine ⟨field, boundValue field raw, ?_, ?_, ?_⟩
    · rw [token_of, hposition]
    · change (f.present.map fun p => boundValue p.1 p.2)[i]? = _
      rw [List.getElem?_map, hi]
      rfl
    · apply binds_boundValue
      have hvalue : f.value field = some raw := mem_present.1 (List.mem_of_getElem? hi)
      by_contra hr
      have hsome := isSome_rejected_iff.1 (Option.isSome_iff_ne_none.2 hr)
      have := isSome_refusal?_iff.2 ⟨field, raw, hvalue, hsome⟩
      rw [h] at this
      cases this

/-- What is shown of a listing is read back from what is printed, with a placeholder for each field:
that of its text among the arguments, or none if it does not narrow the listing. It is what the written
store sends, if it sends anything, and that is so unless a text is no count where one is due. -/
theorem sql_previews (f : Filter) (limit : Duration) (script : Store.Script) :
    (Command.sql f).result = .ok () ∧
    ∃ p, decode? (Command.sql f).printed = some p ∧
      p.arguments = Field.all.filterMap f.value ∧
      (∀ field, match f.value field with
        | none => p.token field = "$0"
        | some raw => p.Names field raw) ∧
      let asked := (Store.perform Store.Written.store limit (.list f) script).asked
      asked.length ≤ 1 ∧ (∀ q ∈ asked, p.Matches q) ∧
      (asked = [] ↔ ∃ field raw, p.Names field raw ∧ field ≠ .search ∧ ∀ n, ¬Denotes raw n) := by
  refine ⟨rfl, of f, decode?_printed f, arguments_eq f, ?_, ?_⟩
  · intro field
    cases hv : f.value field with
    | none =>
      change (of f).token field = "$0"
      rw [token_of, position_eq_zero_iff.2 hv]
      rfl
    | some raw => exact names_iff.2 hv
  · intro asked
    have hasked : asked = if f.refusal?.isSome then [] else [f.request] := asked_list
    have hrefused : f.refusal?.isSome ↔
        ∃ field raw, (of f).Names field raw ∧ field ≠ .search ∧ ∀ n, ¬Denotes raw n := by
      simp only [names_iff]
      exact isSome_refusal?_iff
    rw [← hrefused, hasked]
    cases h : f.refusal? with
    | some failure => exact ⟨Nat.zero_le 1, List.forall_mem_nil _, iff_of_true rfl rfl⟩
    | none =>
      refine ⟨Nat.le_refl 1, List.forall_mem_singleton.2 (matches_request h), ?_⟩
      exact iff_of_false (List.cons_ne_nil _ _) Bool.false_ne_true

end Preview

end Catalog
