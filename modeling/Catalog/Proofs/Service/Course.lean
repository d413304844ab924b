import Catalog.Proofs.Store.Agreement
import Catalog.Service

namespace Catalog

variable {Q : Type} {R : Q → Type} {σ α β : Type}

/-- Whether a session may end with a result in a state, if its questions are answered as `step`
allows. -/
def Session.Leads (step : (q : Q) → σ → R q → σ → Prop) : Session Q R α → σ → α → σ → Prop
  | .done a, s, b, u => a = b ∧ s = u
  | .ask q next, s, b, u => ∃ r v, step q s r v ∧ (next r).Leads step v b u

theorem Session.leads_bind {step : (q : Q) → σ → R q → σ → Prop} {m : Session Q R α}
    {f : α → Session Q R β} {s u : σ} {b : β} :
    (m.bind f).Leads step s b u ↔ ∃ a v, m.Leads step s a v ∧ (f a).Leads step v b u := by
  induction m generalizing s with
  | done a =>
    constructor
    · intro h
      exact ⟨a, s, ⟨rfl, rfl⟩, h⟩
    · rintro ⟨_, _, ⟨rfl, rfl⟩, h⟩
      exact h
  | ask q next ih =>
    constructor
    · rintro ⟨r, w, hq, h⟩
      obtain ⟨a, v, hm, hf⟩ := (ih r).1 h
      exact ⟨a, v, ⟨r, w, hq, hm⟩, hf⟩
    · rintro ⟨a, v, ⟨r, w, hq, hm⟩, hf⟩
      exact ⟨r, w, hq, (ih r).2 ⟨a, v, hm, hf⟩⟩

theorem Session.leads_run {step : (q : Q) → σ → R q → σ → Prop} {answer : (q : Q) → σ → R q × σ}
    (h : ∀ q s, step q s (answer q s).1 (answer q s).2) (m : Session Q R α) (s : σ) :
    m.Leads step s (m.run answer s).result (m.run answer s).state := by
  induction m generalizing s with
  | done a => exact ⟨rfl, rfl⟩
  | ask q next ih => exact ⟨(answer q s).1, (answer q s).2, h q s, ih _ _⟩

namespace Service

open Sql Store

abbrev Repository := (c : Store.Call) → Table → Except Failure c.Answer → Table → Prop

/-- A store does what the machine does, unless it fails, and then the table stays as it is. -/
def Documented (like : String → String → Bool) (repo : Repository) : Prop :=
  ∀ c t r u, repo c t r u →
    (∃ s, machine like s c t = (r, u)) ∨ (u = t ∧ ∃ failure, r = .error failure)

def onTable (like : String → String → Bool) (store : Behaviour) : Repository :=
  fun c t r u => ∃ s, store.on like s c t = (r, u)

theorem documented_mapped (like : String → String → Bool) :
    Documented like (onTable like Mapped.store) := by
  rintro c t r u ⟨s, h⟩
  exact .inl ⟨s, by rw [← Mapped.on_table, h]⟩

theorem documented_written (like : String → String → Bool) :
    Documented like (onTable like Written.store) := by
  rintro c t r u ⟨s, h⟩
  exact .inl ⟨s, by rw [← Written.on_table, h]⟩

def Course.Leads (repo : Repository) (m : Course α) (t : Table) (r : Except Failure α)
    (u : Table) : Prop :=
  m.run.Leads repo t r u

variable {repo : Repository} {t u : Table} {m : Course α} {f : α → Course β}

theorem leads_ask {c : Store.Call} {r : Except Failure c.Answer} :
    (ask c).Leads repo t r u ↔ repo c t r u := by
  constructor
  · rintro ⟨r', u', h, rfl, rfl⟩
    exact h
  · intro h
    exact ⟨r, u, h, rfl, rfl⟩

theorem leads_bind {r : Except Failure β} :
    (m >>= f).Leads repo t r u ↔
      (∃ a v, m.Leads repo t (.ok a) v ∧ (f a).Leads repo v r u) ∨
        ∃ e, m.Leads repo t (.error e) u ∧ .error e = r := by
  refine Session.leads_bind.trans ?_
  constructor
  · rintro ⟨a | a, v, hm, hf⟩
    · obtain ⟨he, rfl⟩ := hf
      exact .inr ⟨a, hm, he⟩
    · exact .inl ⟨a, v, hm, hf⟩
  · rintro (⟨a, v, hm, hf⟩ | ⟨e, hm, he⟩)
    · exact ⟨.ok a, v, hm, hf⟩
    · exact ⟨.error e, u, hm, he, rfl⟩

section Documented

variable {like : String → String → Bool} {actor : String} {id : Int64}

theorem after_create {d : Draft} {r : Except Failure Entry} (hrepo : Documented like repo)
    (h : repo (.create d actor) t r u) : u = t ∨ ∃ s he, u = t.add (d.entry s actor) he := by
  rcases hrepo _ _ _ _ h with ⟨s, h⟩ | ⟨hu, _⟩
  · rcases Table.insert_cases h with ⟨_, hu⟩ | ⟨he, _, hu⟩
    · exact .inl hu
    · exact .inr ⟨s, he, hu⟩
  · exact .inl hu

theorem after_update {c : Changes} {r : Except Failure Entry} (hrepo : Documented like repo)
    (h : repo (.update id c actor) t r u) :
    u = t ∨ ∃ time,
      u = t.modify (fun e => e.id = id && e.isActive) _ (Entry.id_changed time actor c) := by
  rcases hrepo _ _ _ _ h with ⟨s, h⟩ | ⟨hu, _⟩
  · rcases Table.write_cases h with ⟨_, hu⟩ | ⟨_, _, _, _, hu⟩
    · exact .inl hu
    · exact .inr ⟨s.time, hu⟩
  · exact .inl hu

theorem after_delete {r : Except Failure Unit} (hrepo : Documented like repo)
    (h : repo (.delete id actor) t r u) :
    u = t ∨ ∃ time,
      u = t.modify (fun e => e.id = id && e.isActive) _ (Entry.id_deleted time actor) := by
  rcases hrepo _ _ _ _ h with ⟨s, h⟩ | ⟨hu, _⟩
  · obtain ⟨r', u', hw⟩ : ∃ r' u', t.write (fun e => e.id = id && e.isActive) _
        (Entry.id_deleted s.time actor) .notFound = (r', u') := ⟨_, _, rfl⟩
    rw [machine, hw] at h
    cases h
    rcases Table.write_cases hw with ⟨_, hu⟩ | ⟨_, _, _, _, hu⟩
    · exact .inl hu
    · exact .inr ⟨s.time, hu⟩
  · exact .inl hu

theorem after_restore {r : Except Failure Entry} (hrepo : Documented like repo)
    (h : repo (.restore id actor) t r u) :
    (u = t ∧ ∃ failure, r = .error failure) ∨
      ∃ e ∈ t.entries, e.id = id ∧ e.isActive = false ∧ r.isOk = true ∧ ∃ time,
        u = t.modify (fun e => e.id = id && !e.isActive) _ (Entry.id_restored time actor) := by
  rcases hrepo _ _ _ _ h with ⟨s, h⟩ | h
  · rcases Table.write_cases h with ⟨hr, hu⟩ | ⟨e, he, hp, hr, hu⟩
    · exact .inl ⟨hu, _, hr⟩
    · rw [Bool.and_eq_true, decide_eq_true_eq, Bool.not_eq_true'] at hp
      exact .inr ⟨e, he, hp.1, hp.2, hr ▸ rfl, s.time, hu⟩
  · exact .inl h

theorem after_reading {c : Store.Call} {r : Except Failure c.Answer} (hrepo : Documented like repo)
    (hc : ∀ s, (machine like s c t).2 = t) (h : repo c t r u) : u = t := by
  rcases hrepo _ _ _ _ h with ⟨s, h⟩ | ⟨hu, _⟩
  · rw [← hc s, h]
  · exact hu

theorem after_findByCode {code : String} {r : Except Failure (Option Entry)}
    (hrepo : Documented like repo) (h : repo (.findByCode code) t r u) :
    u = t ∧ ∀ found, r = .ok found →
      found = t.entries.find? fun e => e.code = code && e.isActive := by
  rcases hrepo _ _ _ _ h with ⟨s, h⟩ | ⟨hu, failure, hr⟩
  · cases h
    refine ⟨rfl, fun found h => ?_⟩
    cases h
    rfl
  · refine ⟨hu, fun found h => ?_⟩
    rw [hr] at h
    cases h

theorem leads_get {r : Except Failure Entry} (hrepo : Documented like repo)
    (h : (get id).Leads repo t r u) : u = t := by
  rcases leads_bind.1 h with ⟨found, v, hm, hf⟩ | ⟨_, hm, _⟩
  · cases after_reading hrepo (fun _ => rfl) (leads_ask.1 hm)
    cases found with
    | none => exact hf.2.symm
    | some e => exact hf.2.symm
  · exact after_reading hrepo (fun _ => rfl) (leads_ask.1 hm)

theorem leads_checkRules {rules : List Rule} {r : Except Failure Unit}
    (h : (checkRules rules).Leads repo t r u) : u = t := by
  rw [checkRules] at h
  split at h
  · exact h.2.symm
  · exact h.2.symm

def checkChange (id : Int64) (c : Changes) : Course Unit :=
  match c.code with
  | some code => checkCode code (some id)
  | none => pure ()

theorem update_of_isEmpty {c : Changes} (h : c.isEmpty = true) :
    update actor id c = throw nothingToUpdate := by
  obtain ⟨_ | code, _ | text⟩ := c
  · rfl
  · cases h
  · cases h
  · cases h

theorem update_of_not_isEmpty {c : Changes} (h : ¬c.isEmpty = true) :
    update actor id c = (do checkRules c.broken; checkChange id c; ask (.update id c actor)) := by
  obtain ⟨_ | code, _ | text⟩ := c
  · exact absurd rfl h
  · rfl
  · rfl
  · rfl

end Documented

/-- Whether a lookup found no entry with a code, other than one with the id `except?`. -/
def passes (except? : Option Int64) : Except Failure (Option Entry) → Bool
  | .ok none => true
  | .ok (some e) => some e.id = except?
  | .error _ => false

def refusal (code : String) : Except Failure (Option Entry) → Failure
  | .ok _ => codeTaken code
  | .error failure => failure

theorem passes_iff {except? : Option Int64} {reply : Except Failure (Option Entry)} :
    passes except? reply = true ↔
      ∃ found, reply = .ok found ∧ ∀ e, found = some e → some e.id = except? := by
  constructor
  · intro h
    rcases reply with _ | _ | e
    · cases h
    · exact ⟨none, rfl, fun _ he => nomatch he⟩
    · exact ⟨some e, rfl, fun _ he => by cases he; exact of_decide_eq_true h⟩
  · rintro ⟨_ | e, rfl, h⟩
    · rfl
    · exact decide_eq_true (h e rfl)

/-- A write of the store, after a lookup of the code that it sets, if it sets one. -/
def afterLookup (code? : Option String) (except? : Option Int64) (c : Store.Call) :
    Session Store.Call (fun c => Except Failure c.Answer) (Except Failure c.Answer) :=
  match code? with
  | some code => .ask (.findByCode code) fun found =>
      if passes except? found then .question c else .done (.error (refusal code found))
  | none => .question c

theorem run_checkRules (rules : List Rule) (m : Course α) :
    (do checkRules rules; m : Course α).run =
      if rules = [] then m.run else .done (.error (invalid rules)) := by
  cases rules with
  | nil => rfl
  | cons rule rules => rfl

theorem run_checkCode (code : String) (except? : Option Int64) (c : Store.Call) :
    (do checkCode code except?; ask c : Course c.Answer).run =
      afterLookup (some code) except? c := by
  refine congrArg (Session.ask _) (funext fun found => ?_)
  rcases found with _ | _ | e
  · rfl
  · rfl
  · change ExceptT.run ((if some e.id = except? then pure () else throw (codeTaken code)) >>=
      fun _ => ask c) =
        if passes except? (.ok (some e)) then .question c else .done (.error (codeTaken code))
    by_cases he : some e.id = except?
    · rw [if_pos he, passes, decide_eq_true he]
      rfl
    · rw [if_neg he, passes, decide_eq_false he]
      rfl

theorem run_create (actor : String) (d : Draft) : (create actor d).run =
    if d.broken = [] then afterLookup (some d.code) none (.create d actor)
    else .done (.error (invalid d.broken)) := by
  rw [← run_checkCode]
  exact run_checkRules d.broken _

theorem run_update (actor : String) (id : Int64) {c : Changes} (h : ¬c.isEmpty = true) :
    (update actor id c).run =
      if c.broken = [] then afterLookup c.code (some id) (.update id c actor)
      else .done (.error (invalid c.broken)) := by
  have hcheck : (do checkChange id c; ask (.update id c actor) : Course _).run =
      afterLookup c.code (some id) (.update id c actor) := by
    rw [checkChange]
    cases c.code with
    | some code => exact run_checkCode code (some id) _
    | none => rfl
  rw [update_of_not_isEmpty h, ← hcheck]
  exact run_checkRules c.broken _

structure Turn where
  actor : String
  call : Call
  result : Except Failure call.Answer
  after : Table

/-- Calls one after another, each on the table that the one before it left behind. -/
inductive Run (repo : Repository) : Table → List Turn → Prop where
  | nil (t : Table) : Run repo t []
  | cons {t : Table} {turn : Turn} {turns : List Turn} :
    (perform turn.actor turn.call).Leads repo t turn.result turn.after →
      Run repo turn.after turns → Run repo t (turn :: turns)

def Turn.on (like : String → String → Bool) (t : Table) (s : Stamp) (actor : String) (c : Call) :
    Turn :=
  let trace := (perform actor c).run.run (machine like s) t
  ⟨actor, c, trace.result, trace.state⟩

def turnsOn (like : String → String → Bool) : Table → List (Stamp × String × Call) → List Turn
  | _, [] => []
  | t, (s, actor, c) :: calls =>
    Turn.on like t s actor c :: turnsOn like (Turn.on like t s actor c).after calls

theorem run_turnsOn {like : String → String → Bool} {store : Behaviour}
    (h : ∀ s c t, store.on like s c t = machine like s c t) (t : Table)
    (calls : List (Stamp × String × Call)) :
    Run (onTable like store) t (turnsOn like t calls) := by
  induction calls generalizing t with
  | nil => exact .nil t
  | cons call calls ih =>
    obtain ⟨s, actor, c⟩ := call
    exact .cons (Session.leads_run (fun q t => ⟨s, h s q t⟩) _ t) (ih _)

end Service

end Catalog
