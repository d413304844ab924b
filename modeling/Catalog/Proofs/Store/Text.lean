import Catalog.Command
import Catalog.Proofs.Sql.Form
import Catalog.Proofs.Store.Agreement
import Catalog.Store.Script

namespace Catalog

namespace Session

variable {Q R κ σ α β γ δ : Type} {key : Q → κ}

/-- Whether two sessions ask alike for as long as they are answered alike, and then end as `post`
says. -/
def Alike (key : Q → κ) (post : α → β → Prop) :
    Session Q (fun _ => R) α → Session Q (fun _ => R) β → Prop
  | .done a, .done b => post a b
  | .ask q next, .ask q' next' => key q = key q' ∧ ∀ r, (next r).Alike key post (next' r)
  | .done _, .ask .. | .ask .., .done _ => False

theorem Alike.refl {post : α → α → Prop} (h : ∀ a, post a a) (m : Session Q (fun _ => R) α) :
    m.Alike key post m := by
  induction m with
  | done a => exact h a
  | ask q next ih => exact ⟨rfl, ih⟩

theorem Alike.bind {m : Session Q (fun _ => R) α} {m' : Session Q (fun _ => R) β}
    {f : α → Session Q (fun _ => R) γ} {f' : β → Session Q (fun _ => R) δ} {post : α → β → Prop}
    {post' : γ → δ → Prop} (h : m.Alike key post m')
    (hf : ∀ a b, post a b → (f a).Alike key post' (f' b)) :
    (m.bind f).Alike key post' (m'.bind f') := by
  induction m generalizing m' with
  | done a =>
    cases m' with
    | done b => exact hf a b h
    | ask q' next' => cases h
  | ask q next ih =>
    cases m' with
    | done b => cases h
    | ask q' next' => exact ⟨h.1, fun r => ih r (h.2 r)⟩

theorem Alike.asked_runWithin {m : Session Q (fun _ => R) α} {m' : Session Q (fun _ => R) β}
    {post : α → β → Prop} {answer : Q → σ → Timed R × σ}
    (hanswer : ∀ q q', key q = key q' → answer q = answer q') (h : m.Alike key post m')
    (limit elapsed : Duration) (s : σ) :
    (m.runWithin limit answer elapsed s).asked.map key =
      (m'.runWithin limit answer elapsed s).asked.map key := by
  induction m generalizing m' elapsed s with
  | done a =>
    cases m' with
    | done b => rfl
    | ask q' next' => cases h
  | ask q next ih =>
    cases m' with
    | done b => cases h
    | ask q' next' =>
      obtain ⟨hkey, hnext⟩ := h
      simp only [runWithin, ← hanswer q q' hkey]
      split
      · exact congrArg (fun k => [k]) hkey
      · exact congrArg₂ List.cons hkey (ih _ (hnext _) _ _)

end Session

namespace Filter

variable {f f' : Filter}

def Accepted (f : Filter) : Prop :=
  ∀ field raw, field ≠ .search → f.value field = some raw → ∃ n, parseCount field raw = .ok n

/-- Whether two filters narrow a listing by the same fields. -/
def SameFields (f f' : Filter) : Prop :=
  ∀ field, (f.value field).isSome = (f'.value field).isSome

theorem Accepted.isSome_countOf (h : f.Accepted) {field : Field} (hfield : field ≠ .search) :
    (f.countOf field).isSome = (f.value field).isSome := by
  rw [countOf]
  cases hv : f.value field with
  | none => rfl
  | some raw =>
    obtain ⟨n, hn⟩ := h field raw hfield hv
    rw [Option.bind_some]
    rw [parseCount] at hn
    cases hc : count? raw with
    | none =>
      rw [hc] at hn
      cases hn
    | some n => rfl

theorem Accepted.refusal?_eq_none (h : f.Accepted) : f.refusal? = none := by
  have hfield (field : Field) (hfield : field ≠ .search) :
      (f.value field).bind (rejected field) = none := by
    cases hv : f.value field with
    | none => rfl
    | some raw =>
      obtain ⟨n, hn⟩ := h field raw hfield hv
      rw [parseCount_eq hfield] at hn
      rw [Option.bind_some]
      cases hr : rejected field raw with
      | none => rfl
      | some failure =>
        rw [hr] at hn
        cases hn
  rw [refusal?, List.findSome?_cons, hfield .limit (by decide), List.findSome?_cons,
    hfield .offset (by decide)]
  rfl

theorem SameFields.query_eq (h : f.SameFields f') : f.query = f'.query := by
  have hfields : f.present.map Prod.fst = f'.present.map Prod.fst := by
    rw [map_fst_present, map_fst_present]
    simp only [h _]
  have hp : f.position? = f'.position? := by
    funext field
    rw [position?, position?, position, position, hfields]
  rw [query, query, hp]

end Filter

namespace Store

open Sql

variable {α β γ δ : Type}

/-- Two calls of one kind that give the same fields, with counts that are proper. What they give for
these may be anything. -/
inductive Call.SameFields : Call → Call → Prop where
  | list {f f' : Filter} (h : f.SameFields f') (hf : f.Accepted) (hf' : f'.Accepted) :
    SameFields (.list f) (.list f')
  | findById (id id' : Int64) : SameFields (.findById id) (.findById id')
  | findByCode (code code' : String) : SameFields (.findByCode code) (.findByCode code')
  | create (d d' : Draft) (actor actor' : String) :
    SameFields (.create d actor) (.create d' actor')
  | update {c c' : Changes} (hcode : c.code.isSome = c'.code.isSome)
    (htext : c.text.isSome = c'.text.isSome) (id id' : Int64) (actor actor' : String) :
    SameFields (.update id c actor) (.update id' c' actor')
  | delete (id id' : Int64) (actor actor' : String) :
    SameFields (.delete id actor) (.delete id' actor')
  | restore (id id' : Int64) (actor actor' : String) :
    SameFields (.restore id actor) (.restore id' actor')

def Matching (post : α → β → Prop) : Except Failure α → Except Failure β → Prop
  | .ok a, .ok b => post a b
  | .error _, .error _ => True
  | _, _ => False

def Conversation.Alike (post : α → β → Prop) (m : Conversation α) (m' : Conversation β) : Prop :=
  m.run.Alike Request.sql (Matching post) m'.run

theorem alike_refl (m : Conversation α) : m.Alike Eq m :=
  .refl (fun r => by cases r <;> trivial) m.run

theorem alike_bind {m : Conversation α} {m' : Conversation β} {f : α → Conversation γ}
    {f' : β → Conversation δ} {post : α → β → Prop} {post' : γ → δ → Prop} (h : m.Alike post m')
    (hf : ∀ a b, post a b → (f a).Alike post' (f' b)) : (m >>= f).Alike post' (m' >>= f') := by
  change (m.run.bind (ExceptT.bindCont f)).Alike _ _ (m'.run.bind (ExceptT.bindCont f'))
  refine Session.Alike.bind h fun r r' hr => ?_
  cases r with
  | ok a =>
    cases r' with
    | ok b => exact hf a b hr
    | error failure' => cases hr
  | error failure =>
    cases r' with
    | ok b => cases hr
    | error failure' => trivial

section Requests

variable {r r' : Request}

theorem alike_rows (h : r.sql = r'.sql) : (rows r).Alike Eq (rows r') :=
  ⟨h, fun reply => alike_refl (ofDatabase reply)⟩

theorem alike_entries (h : r.sql = r'.sql) : (entries r).Alike Eq (entries r') :=
  alike_bind (alike_rows h) fun found _ he => he ▸ alike_refl (ofDatabase (found.mapM Row.entry))

theorem alike_firstEntry (h : r.sql = r'.sql) : (firstEntry r).Alike Eq (firstEntry r') :=
  alike_bind (alike_rows h) fun found _ he =>
    he ▸ alike_refl (ofDatabase (found.head?.mapM Row.entry))

theorem alike_firstEntry_bind {f : Option Entry → Conversation α}
    {f' : Option Entry → Conversation β} {post : α → β → Prop} (h : r.sql = r'.sql) (hsome : ∀ e, (f (some e)).Alike post (f' (some e)))
    (hnone : (f none).Alike post (f' none)) :
    (firstEntry r >>= f).Alike post (firstEntry r' >>= f') := by
  refine alike_bind (alike_firstEntry h) fun found _ he => ?_
  subst he
  cases found with
  | some e => exact hsome e
  | none => exact hnone

end Requests

namespace Written

theorem alike_store {c c' : Call} (h : c.SameFields c') :
    ∃ post, (store c).Alike post (store c') := by
  cases h with
  | @list f f' h hf hf' =>
    have hsql (values values' : List Value) : (request (.select f.query) values true).sql =
        (request (.select f'.query) values' true).sql := by
      rw [h.query_eq]
      rfl
    refine ⟨Eq, ?_⟩
    change (list f).Alike Eq (list f')
    rw [list, list, Filter.bindValues_arguments, Filter.bindValues_arguments,
      hf.refusal?_eq_none, hf'.refusal?_eq_none]
    exact alike_entries (hsql _ _)
  | findById id id' => exact ⟨Eq, alike_firstEntry rfl⟩
  | findByCode code code' => exact ⟨Eq, alike_firstEntry rfl⟩
  | create d d' actor actor' =>
    exact ⟨fun _ _ => True, alike_firstEntry_bind rfl (fun _ => trivial) trivial⟩
  | update hcode htext id id' actor actor' =>
    exact ⟨fun _ _ => True, alike_firstEntry_bind rfl (fun _ => trivial) trivial⟩
  | delete id id' actor actor' =>
    exact ⟨fun _ _ => True, alike_firstEntry_bind rfl (fun _ => trivial) trivial⟩
  | restore id id' actor actor' =>
    exact ⟨fun _ _ => True, alike_firstEntry_bind rfl (fun _ => trivial) trivial⟩

end Written

namespace Mapped

theorem map_const_congr {a? : Option α} {b? : Option β} (h : a?.isSome = b?.isSome) (c : γ) :
    (a?.map fun _ => c) = b?.map fun _ => c := by
  cases a? with
  | none => cases b? with
    | none => rfl
    | some b => cases h
  | some a => cases b? with
    | none => cases h
    | some b => rfl

theorem form_selection (f : Filter) : (selection f).form =
    { conditions := .isNull .deletedAt :: ((f.value .search).map fun _ =>
        .anyLike [(.code, .exactly ()), (.text, .exactly ())]).toList
      limit := (f.countOf .limit).map fun _ => ()
      offset := (f.countOf .offset).map fun _ => () } := by
  rw [selection, Filter.selection, Select.form, List.map_cons, Option.map_map, Option.map_map]
  cases f.value .search <;> rfl

theorem form_selection_congr {f f' : Filter} (h : f.SameFields f') (hf : f.Accepted)
    (hf' : f'.Accepted) : (selection f).form = (selection f').form := by
  have hcount (field : Filter.Field) (hfield : field ≠ .search) :
      (f.countOf field).isSome = (f'.countOf field).isSome := by
    rw [hf.isSome_countOf hfield, h field, hf'.isSome_countOf hfield]
  rw [form_selection, form_selection, map_const_congr (h .search),
    map_const_congr (hcount .limit (by decide)), map_const_congr (hcount .offset (by decide))]

theorem alike_find {conditions conditions' : List (Condition Value)}
    (h : conditions.map Condition.form = conditions'.map Condition.form) :
    (find conditions).Alike Eq (find conditions') := by
  apply alike_firstEntry
  apply Request.sql_ofStatement_congr
  rw [Statement.form, Statement.form, Select.form, Select.form, h]

theorem alike_change {settings settings' : List (Column × Value)}
    (h : settings.map Prod.fst = settings'.map Prod.fst) (id id' : Int64) :
    (change id settings).Alike Eq (change id' settings') := by
  refine alike_firstEntry_bind ?_ (fun _ => rfl) trivial
  apply Request.sql_ofStatement_congr
  have hform (settings : List (Column × Value)) :
      (settings.map fun p => (p.1, Setting.to p.2)).map (fun p => (p.1, p.2.form)) =
        (settings.map Prod.fst).map fun c => (c, Setting.to ()) := by
    rw [List.map_map, List.map_map]
    rfl
  rw [Statement.form, Statement.form, hform, hform, h]
  rfl

theorem alike_amendment {c c' : Call} (w : Amendment c) (w' : Amendment c')
    (hstate : w.state.form = w'.state.form)
    (hcolumns : w.settings.map Prod.fst = w'.settings.map Prod.fst) :
    (store c).Alike (fun _ _ => True) (store c') := by
  rw [w.store_eq, w'.store_eq]
  refine alike_bind (alike_find ?_) fun found _ he => ?_
  · rw [List.map_cons, List.map_singleton, hstate]
    rfl
  · subst he
    cases found with
    | none => trivial
    | some e => exact alike_bind (alike_change hcolumns e.id e.id) fun _ _ _ => trivial

theorem map_fst_changedColumns {c c' : Changes} (hcode : c.code.isSome = c'.code.isSome)
    (htext : c.text.isSome = c'.text.isSome) :
    (changedColumns c).map Prod.fst = (changedColumns c').map Prod.fst := by
  obtain ⟨code, text⟩ := c
  obtain ⟨code', text'⟩ := c'
  cases code <;> cases code' <;> cases hcode <;> cases text <;> cases text' <;> cases htext <;> rfl

theorem alike_store {c c' : Call} (h : c.SameFields c') :
    ∃ post, (store c).Alike post (store c') := by
  cases h with
  | @list f f' h hf hf' =>
    refine ⟨Eq, ?_⟩
    change (list f).Alike Eq (list f')
    rw [list, list, listing_eq, listing_eq, hf.refusal?_eq_none, hf'.refusal?_eq_none]
    apply alike_entries
    apply Request.sql_ofStatement_congr
    rw [Statement.form, Statement.form, form_selection_congr h hf hf']
  | findById id id' => exact ⟨Eq, alike_find rfl⟩
  | findByCode code code' => exact ⟨Eq, alike_find rfl⟩
  | create d d' actor actor' =>
    refine ⟨fun _ _ => True, alike_firstEntry_bind ?_ (fun _ => trivial) trivial⟩
    exact Request.sql_ofStatement_congr rfl false
  | @update c c' hcode htext id id' actor actor' =>
    refine ⟨_, alike_amendment (.ofUpdate id c actor) (.ofUpdate id' c' actor') rfl ?_⟩
    dsimp only [Amendment.ofUpdate]
    rw [List.map_append, List.map_append, map_fst_changedColumns hcode htext]
    rfl
  | delete id id' actor actor' =>
    exact ⟨_, alike_amendment (.ofDelete id actor) (.ofDelete id' actor') rfl rfl⟩
  | restore id id' actor actor' =>
    exact ⟨_, alike_amendment (.ofRestore id actor) (.ofRestore id' actor') rfl rfl⟩

end Mapped

theorem alike_storeFor (b : Backend) {c c' : Call} (h : c.SameFields c') :
    ∃ post, (Command.storeFor b c).Alike post (Command.storeFor b c') := by
  cases b with
  | orm => exact Mapped.alike_store h
  | sql => exact Written.alike_store h

/-- Calls that give the same fields send the same texts for the same replies, so nothing that is
given for a field is in a text. -/
theorem texts_of_sameFields (b : Backend) (limit : Duration) (script : Script) {c c' : Call}
    (h : c.SameFields c') :
    let t := perform (Command.storeFor b) limit c script
    let t' := perform (Command.storeFor b) limit c' script
    t.asked.length = t'.asked.length ∧ t.asked.map Request.sql = t'.asked.map Request.sql := by
  intro t t'
  obtain ⟨post, halike⟩ := alike_storeFor b h
  have hsql : t.asked.map Request.sql = t'.asked.map Request.sql :=
    halike.asked_runWithin (fun _ _ _ => rfl) limit ⟨0⟩ script
  refine ⟨?_, hsql⟩
  simpa only [List.length_map] using congrArg List.length hsql

/-- A code that tries to be a statement is sent with the texts that any other code has. -/
theorem texts_of_hostile_code :
    let found := Draft.entry ⟨"A", "first"⟩ .first "clerk"
    let script : Script := [⟨⟨1⟩, .ok [found.row]⟩, ⟨⟨1⟩, .ok [found.row]⟩]
    let c : Call := .update 1 ⟨some "B", none⟩ "clerk"
    let c' : Call := .update 7 ⟨some "'; drop table example; --", none⟩ "porter"
    let t := perform (Command.storeFor .orm) ⟨5⟩ c script
    let t' := perform (Command.storeFor .orm) ⟨5⟩ c' script
    c.SameFields c' ∧ t.asked.length = 2 ∧ t.asked.map Request.sql = t'.asked.map Request.sql := by
  intro found script c c' t t'
  have h : c.SameFields c' := .update (by rfl) (by rfl) 1 7 "clerk" "porter"
  exact ⟨h, rfl, (texts_of_sameFields .orm ⟨5⟩ script h).2⟩

end Store

end Catalog
