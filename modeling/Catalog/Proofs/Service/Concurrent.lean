import Catalog.Migration.Schema
import Catalog.Proofs.Service.Codes
import Catalog.Proofs.Store.Statement

namespace Catalog

open Sql Store

namespace Table

/-- Whether an active entry has a code, other than one with the id `except?`. -/
def Taken (t : Table) (code : String) (except? : Option Int64) : Prop :=
  ∃ x ∈ t.entries, x.isActive = true ∧ x.code = code ∧ some x.id ≠ except?

def HasActive (t : Table) (id : Int64) : Prop :=
  ∃ e ∈ t.entries, e.id = id ∧ e.isActive = true

theorem not_taken_of_find? {t : Table} {code : String} {except? : Option Int64}
    (ht : t.CodesDistinct)
    (h : ∀ e, t.entries.find? (fun e => e.code = code && e.isActive) = some e →
      some e.id = except?) : ¬t.Taken code except? := by
  rintro ⟨x, hx, ax, rfl, hid⟩
  exact hid (h x (ht.find?_eq hx ax))

end Table

namespace Service

inductive Write where
  | create (d : Draft)
  | update (id : Int64) (c : Changes)

namespace Write

def call : Write → Call
  | create d => .create d
  | update id c => .update id c

def stored (actor : String) : Write → Store.Call
  | create d => .create d actor
  | update id c => .update id c actor

def code? : Write → Option String
  | create d => some d.code
  | update _ c => c.code

def except? : Write → Option Int64
  | create _ => none
  | update id _ => some id

/-- Whether the code that is written is that of another active entry. -/
def Collides (w : Write) (t : Table) : Prop :=
  ∃ code, w.code? = some code ∧ t.Taken code w.except?

end Write

/-- What a write does to a table if it takes effect. -/
inductive Effect (s : Stamp) (actor : String) (t : Table) : Write → Table → Prop where
  | create (d : Draft) (he : (d.entry s actor).id ∉ t.entries.map Entry.id) :
    Effect s actor t (.create d) (t.add (d.entry s actor) he)
  | update (id : Int64) (c : Changes) (h : t.HasActive id) :
    Effect s actor t (.update id c) (t.modify (fun e => e.id = id && e.isActive) _
      (Entry.id_changed s.time actor c))

variable {like : String → String → Bool} {s : Stamp} {actor : String} {t u : Table} {w w' : Write}

theorem effect_machine (like : String → String → Bool) (s : Stamp) (actor : String) (w : Write)
    (t : Table) :
    (machine like s (w.stored actor) t).2 = t ∨
      Effect s actor t w (machine like s (w.stored actor) t).2 := by
  cases w with
  | create d =>
    rcases Table.insert_cases (t := t) (e := d.entry s actor) rfl with ⟨_, hu⟩ | ⟨he, _, hu⟩
    · exact .inl hu
    · exact .inr (hu ▸ .create d he)
  | update id c =>
    let result := machine like s (.update id c actor) t
    have h : t.write (fun e => e.id = id && e.isActive) _ (Entry.id_changed s.time actor c)
        .notFound = (result.1, result.2) := rfl
    rcases Table.write_cases h with ⟨_, hu⟩ | ⟨e, he, hp, _, hu⟩
    · exact .inl hu
    · exact .inr (hu ▸ .update id c ⟨e, he, isActiveWithId_iff.1 hp⟩)

namespace Effect

theorem codesDistinct_iff (h : Effect s actor t w u) (ht : t.CodesDistinct) :
    u.CodesDistinct ↔ ¬w.Collides t := by
  cases h with
  | create d he =>
    constructor
    · rintro hu ⟨_, ⟨⟩, x, hx, ax, hcode, _⟩
      exact Table.not_codesDistinct_add hx ax rfl hcode hu
    · intro hfree
      exact ht.add fun x hx ax hcode => hfree ⟨d.code, rfl, x, hx, ax, hcode, Option.some_ne_none _⟩
  | update id c hactive =>
    constructor
    · rintro hu ⟨code, hcode, x, hx, ax, hxcode, hxid⟩
      obtain ⟨e, he, hid, ae⟩ := hactive
      have pe : (decide (e.id = id) && e.isActive) = true := isActiveWithId_iff.2 ⟨hid, ae⟩
      have px : ¬(decide (x.id = id) && x.isActive) = true := fun px =>
        hxid (congrArg some (isActiveWithId_iff.1 px).1)
      have hnew : (e.changed s.time actor c).code = x.code := by
        have hcode : c.code = some code := hcode
        rw [Entry.changed, hcode, Option.getD_some, hxcode]
      exact Table.not_codesDistinct_modify he hx pe px ae ax hnew hu
    · intro hfree
      refine codesDistinct_changed ht fun code hcode x hx ax hxcode => ?_
      by_contra hid
      exact hfree ⟨code, hcode, x, hx, ax, hxcode, fun h => hid (Option.some.inj h)⟩

theorem hasActive (h : Effect s actor t w u) {id : Int64} (hid : t.HasActive id) :
    u.HasActive id := by
  obtain ⟨e, he, hid, ae⟩ := hid
  cases h with
  | create d he' => exact ⟨e, List.mem_append_left _ he, hid, ae⟩
  | update id' c _ =>
    refine ⟨_, List.mem_map_of_mem he, ?_⟩
    split
    · exact ⟨hid, ae⟩
    · exact ⟨hid, ae⟩

theorem not_collides (h : Effect s actor t w u)
    (hne : ∀ code, w.code? = some code → w'.code? ≠ some code) (hfree : ¬w'.Collides t) :
    ¬w'.Collides u := by
  rintro ⟨code, hcode, x, hx, ax, hxcode, hxid⟩
  cases h with
  | create d he =>
    rcases List.mem_append.1 hx with hx | hx
    · exact hfree ⟨code, hcode, x, hx, ax, hxcode, hxid⟩
    · cases List.mem_singleton.1 hx
      exact hne d.code rfl (hcode.trans (congrArg some hxcode.symm))
  | update id c _ =>
    obtain ⟨e, he, rfl⟩ := List.mem_map.1 hx
    by_cases pe : (decide (e.id = id) && e.isActive) = true
    · rw [if_pos pe] at ax hxcode hxid
      cases hc : c.code with
      | none =>
        rw [Entry.changed, hc, Option.getD_none] at hxcode
        exact hfree ⟨code, hcode, e, he, ax, hxcode, hxid⟩
      | some code' =>
        rw [Entry.changed, hc, Option.getD_some] at hxcode
        exact hne code' hc (hcode.trans (congrArg some hxcode.symm))
    · rw [if_neg pe] at ax hxcode hxid
      exact hfree ⟨code, hcode, e, he, ax, hxcode, hxid⟩

end Effect

structure Visit where
  backend : Backend
  limit : Duration
  actor : String
  write : Write

/-- The statements of a call, each call of the store with its limit on time. -/
def Visit.course (v : Visit) :
    Session Request (fun _ => Option Reply) (Except Failure v.write.call.Answer) :=
  (perform v.actor v.write.call).run.through fun c => (⟨v.backend, v.limit, c⟩ : Errand).course

/-- What a client may count on while others use the table. If it is `guarded`, that includes that a
code which is free for its write stays free. -/
structure Rely (guarded : Prop) (w : Write) (t u : Table) : Prop where
  hasActive : ∀ id, t.HasActive id → u.HasActive id
  codesDistinct : guarded → u.CodesDistinct
  free : guarded → ¬w.Collides t → ¬w.Collides u

/-- What a statement of a client may do: nothing to the table, or else all that its write does, and
then it is its last one. -/
def Step {α : Type} (guarded : Prop) (v : Visit) (t : Table)
    (m : Session Request (fun _ => Option Reply) α) (u : Table) : Prop :=
  u = t ∨ (∃ r, m = .done r) ∧ (∃ s, Effect s v.actor t v.write u) ∧
    (guarded → ¬v.write.Collides t)

abbrev Visit.GoesOn {α : Type} (like : String → String → Bool) (guarded : Prop) (v : Visit)
    (m : Session Request (fun _ => Option Reply) α) (t : Table) : Prop :=
  m.Relies (Fate.answer like) (Rely guarded v.write) (Step guarded v) t

section Visit

variable {like : String → String → Bool} {guarded : Prop} {v : Visit} {t u : Table} {α : Type}

theorem Rely.refl {w : Write} (h : guarded → t.CodesDistinct) : Rely guarded w t t :=
  ⟨fun _ h => h, h, fun _ h => h⟩

theorem Rely.trans {w : Write} {x : Table} (h : Rely guarded w t u) (h' : Rely guarded w u x) :
    Rely guarded w t x :=
  ⟨fun id hid => h'.hasActive id (h.hasActive id hid), h'.codesDistinct,
    fun hg hfree => h'.free hg (h.free hg hfree)⟩

theorem step_machine (like : String → String → Bool) {r : α}
    (hfree : guarded → ¬v.write.Collides t)
    (hu : u = t ∨ ∃ s, u = (machine like s (v.write.stored v.actor) t).2) :
    Step guarded v t (.done r : Session Request (fun _ => Option Reply) α) u := by
  rcases hu with hu | ⟨s, rfl⟩
  · exact .inl hu
  · exact (effect_machine like s v.actor v.write t).imp_right fun h => ⟨⟨r, rfl⟩, ⟨s, h⟩, hfree⟩

theorem goesOn_of_one {c : Store.Call} (hc : c = v.write.stored v.actor)
    (hone : (Command.storeFor v.backend c).run.AsksAtMost 1)
    (hasks : ∃ q next, (Command.storeFor v.backend c).run = .ask q next)
    (hfree : guarded → ¬v.write.Collides t) :
    v.GoesOn like guarded (⟨v.backend, v.limit, c⟩ : Errand).course t := by
  cases hc
  rw [← Session.bind_done (Errand.course _)]
  refine relies_statement hone hasks (heeds_storeFor v.backend _) _ fun x hx r u hu => ⟨?_, trivial⟩
  refine step_machine like (fun hg => hx.free hg (hfree hg)) (hu.state.imp_right ?_)
  rintro ⟨s, hs⟩
  exact ⟨s, hs.trans (congrArg Prod.snd (on_storeFor v.backend s _))⟩

theorem goesOn_of_update {limit : Duration} {id : Int64} {c : Changes}
    (hv : v.write = .update id c) (hfree : guarded → ¬v.write.Collides t) :
    v.GoesOn like guarded (⟨.orm, limit, .update id c v.actor⟩ : Errand).course t := by
  let w := Mapped.Amendment.ofUpdate id c v.actor
  change v.GoesOn like guarded
    ((Mapped.store (.update id c v.actor)).run.cutOff (.error (.timeout limit))) t
  rw [w.store_eq, cutOff_bind]
  -- the lookup leaves the table as it is, and only an entry found is written
  refine relies_statement (asksAtMost_firstEntry _) ⟨_, _, rfl⟩ (heeds_firstEntry _) _
    fun x hx r u hu => ?_
  obtain ⟨rfl, hfound⟩ := hu.reading fun s => Mapped.on_findWhere (w.meetsAll_lookup (s := s))
  rcases r with failure | _ | e
  · exact ⟨.inl rfl, trivial⟩
  · exact ⟨.inl rfl, trivial⟩
  · refine ⟨.inl rfl, ?_⟩
    have hfind := (hfound _ rfl).symm
    have hp := List.find?_some hfind
    have hactive : u.HasActive id :=
      ⟨e, List.mem_of_find?_eq_some hfind, isActiveWithId_iff.1 hp⟩
    change v.GoesOn like guarded ((w.write e.id).run.cutOff (.error (.timeout limit))) u
    rw [w.id_of_find? hfind, ← Session.bind_done ((w.write w.id).run.cutOff _)]
    refine relies_statement (w.asksAtMost_write w.id) ⟨_, _, rfl⟩
      (heeds_bind (Mapped.heeds_change w.id w.settings) fun _ => heeds_done_ok _) _
      fun y hy r z hz => ⟨?_, trivial⟩
    refine step_machine like (fun hg => hy.free hg (hx.free hg (hfree hg)))
      (hz.state.imp_right ?_)
    rintro ⟨s, hs⟩
    -- others may have changed the entry in between, but they have not deleted it
    obtain ⟨e', he', hid', ae'⟩ := hy.hasActive id hactive
    obtain ⟨found, hstill⟩ := Option.isSome_iff_exists.1
      (List.find?_isSome (p := fun e : Entry => e.id = id && e.isActive).2
        ⟨e', he', isActiveWithId_iff.2 ⟨hid', ae'⟩⟩)
    rw [hv]
    exact ⟨s, hs.trans (congrArg Prod.snd (w.on_write_of_find? hstill))⟩

theorem goesOn_write (hfree : guarded → ¬v.write.Collides t) :
    v.GoesOn like guarded (⟨v.backend, v.limit, v.write.stored v.actor⟩ : Errand).course t := by
  obtain ⟨_ | _, limit, actor, d | ⟨id, c⟩⟩ := v
  · exact goesOn_of_one (c := .create d actor) rfl
      (Mapped.asksAtMost_store (c := .create d actor) rfl) ⟨_, _, rfl⟩ hfree
  · exact goesOn_of_update rfl hfree
  · exact goesOn_of_one (c := .create d actor) rfl
      (Written.asksAtMost_store (.create d actor)) ⟨_, _, rfl⟩ hfree
  · exact goesOn_of_one (c := .update id c actor) rfl
      (Written.asksAtMost_store (.update id c actor)) ⟨_, _, rfl⟩ hfree

theorem goesOn_lookup {b : Backend} {limit : Duration} (code : String)
    {k : Except Failure (Option Entry) → Session Request (fun _ => Option Reply) α}
    (h : ∀ x, Rely guarded v.write t x → ∀ r, (∀ found, r = .ok found →
        found = x.entries.find? fun e => e.code = code && e.isActive) →
      v.GoesOn like guarded (k r) x) :
    v.GoesOn like guarded ((⟨b, limit, .findByCode code⟩ : Errand).course.bind k) t := by
  have hone : (Command.storeFor b (.findByCode code)).run.AsksAtMost 1 := by
    cases b with
    | orm => exact asksAtMost_firstEntry _
    | sql => exact asksAtMost_firstEntry _
  have hasks : ∃ q next, (Command.storeFor b (.findByCode code)).run = .ask q next := by
    cases b with
    | orm => exact ⟨_, _, rfl⟩
    | sql => exact ⟨_, _, rfl⟩
  refine relies_statement hone hasks (heeds_storeFor b _) _ fun x hx r u hu => ?_
  obtain ⟨rfl, hfound⟩ := hu.reading fun s => on_storeFor b s (.findByCode code)
  exact ⟨.inl rfl, h u hx r hfound⟩

theorem goesOn_afterLookup : v.GoesOn like guarded
    ((afterLookup v.write.code? v.write.except? (v.write.stored v.actor)).through fun c =>
      (⟨v.backend, v.limit, c⟩ : Errand).course) t := by
  have hwrite {x : Table} (hfree : guarded → ¬v.write.Collides x) : v.GoesOn like guarded
      ((Session.question (v.write.stored v.actor)).through fun c =>
        (⟨v.backend, v.limit, c⟩ : Errand).course) x := by
    change v.GoesOn like guarded ((Errand.course _).bind .done) x
    rw [Session.bind_done]
    exact goesOn_write hfree
  cases hcode : v.write.code? with
  | none =>
    refine hwrite fun _ => ?_
    rintro ⟨code, h, _⟩
    rw [hcode] at h
    cases h
  | some code =>
    refine goesOn_lookup code fun x hx r hr => ?_
    dsimp only
    split
    · rename_i hpass
      refine hwrite fun hg => ?_
      -- what the lookup tells of its first entry goes for all of them
      rintro ⟨_, h, htaken⟩
      rw [hcode] at h
      cases h
      obtain ⟨found, rfl, hown⟩ := passes_iff.1 hpass
      exact Table.not_taken_of_find? (hx.codesDistinct hg)
        (fun e he => hown e ((hr found rfl).trans he)) htaken
    · trivial

theorem goesOn_course (guarded : Prop) (v : Visit) (t : Table) :
    v.GoesOn like guarded v.course t := by
  obtain ⟨b, limit, actor, d | ⟨id, c⟩⟩ := v
  · change Visit.GoesOn like guarded _ ((create actor d).run.through _) t
    rw [run_create]
    split
    · exact goesOn_afterLookup (v := ⟨b, limit, actor, .create d⟩)
    · trivial
  · change Visit.GoesOn like guarded _ ((update actor id c).run.through _) t
    by_cases hempty : c.isEmpty = true
    · rw [update_of_isEmpty hempty]
      trivial
    · rw [run_update actor id hempty]
      split
      · exact goesOn_afterLookup (v := ⟨b, limit, actor, .update id c⟩)
      · trivial

end Visit

abbrev Visits :=
  Scene Request (fun _ => Option Reply) (fun v : Visit => Except Failure v.write.call.Answer) Table

abbrev VisitTask :=
  Task Request (fun _ => Option Reply) (fun v : Visit => Except Failure v.write.call.Answer)

/-- Whether a call has changed the table when the code that it writes was that of another active
entry. -/
def Duplicates (e : Ending (fun v : Visit => Except Failure v.write.call.Answer) Table) : Prop :=
  e.after ≠ e.before ∧ e.call.write.Collides e.before

/-- Whether two calls are under way that write the same code. -/
def Rivals (x y : VisitTask) : Prop :=
  x.isOpen = true ∧ y.isOpen = true ∧
    ∃ code, x.call.write.code? = some code ∧ y.call.write.code? = some code

/-- Whether no two calls that are under way write the same code. -/
def Apart (S : Visits) : Prop :=
  S.tasks.Pairwise fun x y => ¬Rivals x y

theorem Apart.not_rivals {S : Visits} {i j : Nat} {x y : VisitTask} (h : Apart S) (hij : j ≠ i)
    (hx : S.tasks[i]? = some x) (hy : S.tasks[j]? = some y) : ¬Rivals x y := by
  obtain ⟨hi, rfl⟩ := List.getElem?_eq_some_iff.1 hx
  obtain ⟨hj, rfl⟩ := List.getElem?_eq_some_iff.1 hy
  rcases Nat.lt_or_gt_of_ne hij with hlt | hlt
  · rintro ⟨hopen, hopen', code, hcode, hcode'⟩
    exact List.pairwise_iff_getElem.1 h j i hj hi hlt ⟨hopen', hopen, code, hcode', hcode⟩
  · exact List.pairwise_iff_getElem.1 h i j hi hj hlt

section Step

variable {like : String → String → Bool} {guarded : Prop} {v : Visit} {t u : Table}
  {m : Session Request (fun _ => Option Reply) (Except Failure v.write.call.Answer)}

theorem not_duplicates_same (task : VisitTask) (t : Table) :
    ∀ e ∈ task.endings t t, ¬Duplicates e := by
  obtain ⟨v, r | ⟨q, next⟩⟩ := task
  · exact List.forall_mem_singleton.2 fun h => h.1 rfl
  · exact List.forall_mem_nil _

theorem Step.codesDistinct_iff (h : Step guarded v t m u) (ht : t.CodesDistinct) :
    u.CodesDistinct ↔ ∀ e ∈ (⟨v, m⟩ : VisitTask).endings t u, ¬Duplicates e := by
  rcases h with rfl | ⟨⟨r, rfl⟩, ⟨s, heffect⟩, _⟩
  · exact iff_of_true ht (not_duplicates_same _ _)
  · change _ ↔ ∀ e ∈ [_], _
    rw [List.forall_mem_singleton, heffect.codesDistinct_iff ht, Duplicates, not_and']
    refine ⟨fun hfree hcollides => absurd hcollides hfree, fun hsame hcollides => ?_⟩
    -- if the write has left no trace, codes are as distinct as before
    have hu : u.CodesDistinct := (not_not.1 (hsame hcollides) : u = t) ▸ ht
    exact (heffect.codesDistinct_iff ht).1 hu hcollides

theorem Step.codesDistinct (h : Step guarded v t m u) (ht : t.CodesDistinct) (hg : guarded) :
    u.CodesDistinct := by
  rcases h with rfl | ⟨_, ⟨s, heffect⟩, hfree⟩
  · exact ht
  · exact (heffect.codesDistinct_iff ht).2 (hfree hg)

theorem Step.rely (h : Step guarded v t m u) (hu : u.CodesDistinct) {w : Write}
    (hne : guarded → ∀ code, v.write.code? = some code → w.code? ≠ some code) :
    Rely guarded w t u := by
  rcases h with rfl | ⟨_, ⟨s, heffect⟩, _⟩
  · exact .refl fun _ => hu
  · exact ⟨fun _ => heffect.hasActive, fun _ => hu, fun hg => heffect.not_collides (hne hg)⟩

end Step

/-- What is true of a scene as long as codes are distinct in it. -/
structure Calm (like : String → String → Bool) (guarded : Prop) (S : Visits) : Prop where
  reliable : S.Reliable (Fate.answer like) (fun v => Rely guarded v.write) (fun v => Step guarded v)
  codesDistinct : S.state.CodesDistinct
  endings : ∀ e ∈ S.endings, ¬Duplicates e

namespace Calm

variable {like : String → String → Bool} {guarded : Prop} {S : Visits}

theorem start {t : Table} (ht : t.CodesDistinct) : Calm like guarded (Scene.start t) where
  reliable := fun _ h => nomatch h
  codesDistinct := ht
  endings := fun _ h => nomatch h

theorem begun (h : Calm like guarded S) (v : Visit) :
    Calm like guarded (S.begun ⟨v, v.course⟩) where
  reliable := h.reliable.begun v (goesOn_course guarded v S.state)
  codesDistinct := h.codesDistinct
  endings := List.forall_mem_append.2 ⟨h.endings, not_duplicates_same _ _⟩

/-- A move keeps a scene calm or else makes a duplicate. It makes none while calls that write the
same code are kept apart. -/
theorem move (h : Calm like guarded S) (hapart : guarded → Apart S) {m : Move Visit Fate}
    {T : Visits} (hT : T = S.move Visit.course (Fate.answer like) m) :
    (T.state.CodesDistinct ↔ ∀ e ∈ T.endings, ¬Duplicates e) ∧
      (guarded → T.state.CodesDistinct) ∧ (T.state.CodesDistinct → Calm like guarded T) := by
  have hcalm (hT : Calm like guarded T) :
      (T.state.CodesDistinct ↔ ∀ e ∈ T.endings, ¬Duplicates e) ∧
        (guarded → T.state.CodesDistinct) ∧ (T.state.CodesDistinct → Calm like guarded T) :=
    ⟨iff_of_true hT.codesDistinct hT.endings, fun _ => hT.codesDistinct, fun _ => hT⟩
  rcases S.move_cases Visit.course (Fate.answer like) m with
    hmove | ⟨v, hmove⟩ | ⟨i, v, q, next, fate, htask, hmove⟩
  · cases hT.trans hmove
    exact hcalm h
  · cases hT.trans hmove
    exact hcalm (h.begun v)
  · cases hT.trans hmove
    obtain ⟨hstep, hreliable⟩ := h.reliable.answered htask fate (.refl fun _ => h.codesDistinct)
    have hiff := (hstep.codesDistinct_iff h.codesDistinct).trans
      ⟨fun hnew => List.forall_mem_append.2 ⟨h.endings, hnew⟩,
        fun hall => (List.forall_mem_append.1 hall).2⟩
    refine ⟨hiff, hstep.codesDistinct h.codesDistinct, fun hdistinct => ?_⟩
    refine ⟨hreliable fun j task hji hj hopen s hs => ?_, hdistinct, hiff.1 hdistinct⟩
    refine (hstep.rely hdistinct fun hg code hcode hcode' => ?_).trans hs
    exact (hapart hg).not_rivals hji htask hj ⟨rfl, hopen, code, hcode, hcode'⟩

theorem always_iff (h : Calm like False S) (moves : List (Move Visit Fate)) :
    Scene.Always Visit.course (Fate.answer like) (fun S => S.state.CodesDistinct) S moves ↔
      ∀ e ∈ (S.play Visit.course (Fate.answer like) moves).endings, ¬Duplicates e := by
  induction moves generalizing S with
  | nil => exact iff_of_true h.codesDistinct h.endings
  | cons m moves ih =>
    obtain ⟨hiff, _, hcalm⟩ := h.move False.elim (m := m) rfl
    constructor
    · rintro ⟨_, hrest⟩
      exact (ih (hcalm hrest.head)).1 hrest
    · intro hendings
      have hdistinct := hiff.2 fun e he => hendings e (Scene.endings_subset_play _ moves he)
      exact ⟨h.codesDistinct, (ih (hcalm hdistinct)).2 hendings⟩

theorem always_of_apart (h : Calm like True S) {moves : List (Move Visit Fate)}
    (hapart : Scene.Always Visit.course (Fate.answer like) Apart S moves) :
    Scene.Always Visit.course (Fate.answer like) (fun S => S.state.CodesDistinct) S moves := by
  induction moves generalizing S with
  | nil => exact h.codesDistinct
  | cons m moves ih =>
    obtain ⟨_, hdistinct, hcalm⟩ := h.move (fun _ => hapart.1) (m := m) rfl
    exact ⟨h.codesDistinct, ih (hcalm (hdistinct trivial)) hapart.2⟩

end Calm

/-- While clients create and change entries beside each other, over both stores and whatever becomes
of their statements, codes stay distinct at all times just if no call changes the table when its
code is that of another active entry. They do if no two calls that are under way ever write the same
code. -/
theorem codes_distinct_beside_iff (like : String → String → Bool) {t : Table}
    (ht : t.CodesDistinct) (moves : List (Move Visit Fate)) :
    let S : Visits := Scene.start t
    (S.Always Visit.course (Fate.answer like) (fun S => S.state.CodesDistinct) moves ↔
      ∀ e ∈ (S.play Visit.course (Fate.answer like) moves).endings, ¬Duplicates e) ∧
    (S.Always Visit.course (Fate.answer like) Apart moves →
      S.Always Visit.course (Fate.answer like) (fun S => S.state.CodesDistinct) moves) :=
  ⟨(Calm.start ht).always_iff moves, fun hapart => (Calm.start ht).always_of_apart hapart⟩

/-- Two clients look the codes of their new entries up, and then both make their entries. -/
def creating (b : Backend) (code code' : String) : List (Move Visit Fate) :=
  let limit := Duration.ofSeconds 5
  let stamp : Stamp := { Stamp.first with uuid := ⟨.replicate 32 ⟨7, by decide⟩, rfl⟩, id := 2 }
  [.begins ⟨b, limit, "clerk", .create ⟨code, "first"⟩⟩,
    .begins ⟨b, limit, "porter", .create ⟨code', "second"⟩⟩,
    .answers 0 (.answered .first), .answers 1 (.answered stamp),
    .answers 0 (.answered .first), .answers 1 (.answered stamp)]

instance (x y : VisitTask) : Decidable (Rivals x y) :=
  decidable_of_iff (x.isOpen = true ∧ y.isOpen = true ∧
    x.call.write.code? = y.call.write.code? ∧ x.call.write.code? ≠ none) <|
    and_congr_right fun _ => and_congr_right fun _ =>
      ⟨fun ⟨he, hn⟩ => (Option.ne_none_iff_exists'.1 hn).imp fun _ h => ⟨h, he.symm.trans h⟩,
        fun ⟨_, h, h'⟩ => ⟨h.trans h'.symm, h ▸ Option.some_ne_none _⟩⟩

instance (S : Visits) : Decidable (Apart S) :=
  inferInstanceAs (Decidable (S.tasks.Pairwise _))

theorem codes_distinct_beside_other_codes :
    let S : Visits := Scene.start .empty
    Table.empty.CodesDistinct ∧
      S.Always Visit.course (Fate.answer fun _ _ => false) Apart (creating .orm "A" "B") ∧
      S.Always Visit.course (Fate.answer fun _ _ => false) (fun S => S.state.CodesDistinct)
        (creating .orm "A" "B") := by
  intro S
  have ht : Table.empty.CodesDistinct := by decide
  have hapart : S.Always Visit.course (Fate.answer fun _ _ => false) Apart
      (creating .orm "A" "B") := by decide +kernel
  exact ⟨ht, hapart, (codes_distinct_beside_iff _ ht _).2 hapart⟩

end Service

namespace Migration

/-- Whether a column may have these cells: nulls if it allows them, none twice if it is a key, and
texts of its length. -/
def ColumnDefinition.admits (c : ColumnDefinition) (cells : List Datum) : Bool :=
  (c.mayBeNull || cells.all fun x => !x.isNull) &&
    (c.constraints.all (· = .defaultNow) || decide cells.Nodup) &&
    match c.type with
    | .varchar (some n) => cells.all fun x => x.text?.all fun text => text.length ≤ n
    | _ => true

/-- Whether entries keep to all that the migrations lay down for their columns. -/
def admits (t : Catalog.Table) : Bool :=
  Column.all.all fun c => (entryColumn c).admits (t.entries.map fun e => e.row.get c)

end Migration

namespace Service

/-- Two clients succeed with one code, over either store, and the schema has nothing against it. -/
theorem same_code_created_twice :
    let S (b : Backend) : Visits := (Scene.start .empty).play Visit.course
      (Fate.answer fun _ _ => false) (creating b "A" "A")
    Table.empty.CodesDistinct ∧
      ((S .orm).endings.map fun e => e.result.isOk) = [true, true] ∧
      Migration.admits (S .orm).state = true ∧ ¬(S .orm).state.CodesDistinct ∧
      ((S .sql).endings.map fun e => e.result.isOk) = [true, true] ∧
      Migration.admits (S .sql).state = true ∧ ¬(S .sql).state.CodesDistinct := by
  intro S
  refine ⟨by decide, ?_, ?_, ?_, ?_, ?_, ?_⟩ <;> decide +kernel

end Service

end Catalog
