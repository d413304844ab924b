import Catalog.Proofs.Service.Course

namespace Catalog

/-- No two active entries have one code. -/
def Table.CodesDistinct (t : Table) : Prop :=
  ∀ e ∈ t.entries, ∀ e' ∈ t.entries,
    e.isActive = true → e'.isActive = true → e.code = e'.code → e = e'

instance (t : Table) : Decidable t.CodesDistinct :=
  inferInstanceAs (Decidable (∀ e ∈ _, ∀ e' ∈ _, _))

namespace Table.CodesDistinct

variable {t : Table} {p : Entry → Bool} {g : Entry → Entry} {id : Int64} {e : Entry}

theorem add (h : t.CodesDistinct) {he : e.id ∉ t.entries.map Entry.id}
    (hc : ∀ x ∈ t.entries, x.isActive = true → x.code ≠ e.code) : (t.add e he).CodesDistinct := by
  intro x hx y hy ax ay hxy
  rcases List.mem_append.1 hx with hx | hx
  · rcases List.mem_append.1 hy with hy | hy
    · exact h x hx y hy ax ay hxy
    · cases List.mem_singleton.1 hy
      exact absurd hxy (hc x hx ax)
  · cases List.mem_singleton.1 hx
    rcases List.mem_append.1 hy with hy | hy
    · exact absurd hxy.symm (hc y hy ay)
    · exact (List.mem_singleton.1 hy).symm

theorem modify (h : t.CodesDistinct) {hg : ∀ e, (g e).id = e.id} (hp : ∀ e, p e = true → e.id = id)
    (hc : ∀ e ∈ t.entries, p e = true → (g e).isActive = true →
      ∀ x ∈ t.entries, x.isActive = true → x.code = (g e).code → x.id = id) :
    (t.modify p g hg).CodesDistinct := by
  have hother : ∀ e ∈ t.entries, ∀ x ∈ t.entries, p e = true → ¬ p x = true →
      (g e).isActive = true → x.isActive = true → x.code = (g e).code → False := by
    intro e he x hx pe px ae ax hex
    have hid : x.id = e.id := (hc e he pe ae x hx ax hex).trans (hp e pe).symm
    cases Table.eq_of_id hx he hid
    exact px pe
  intro x hx y hy ax ay hxy
  obtain ⟨e, he, rfl⟩ := List.mem_map.1 hx
  obtain ⟨e', he', rfl⟩ := List.mem_map.1 hy
  by_cases pe : p e = true <;> by_cases pe' : p e' = true
  · cases Table.eq_of_id he he' ((hp e pe).trans (hp e' pe').symm)
    rfl
  · rw [if_pos pe] at ax hxy
    rw [if_neg pe'] at ay hxy
    exact (hother e he e' he' pe pe' ax ay hxy.symm).elim
  · rw [if_neg pe] at ax hxy
    rw [if_pos pe'] at ay hxy
    exact (hother e' he' e he pe' pe ay ax hxy).elim
  · rw [if_neg pe] at ax hxy ⊢
    rw [if_neg pe'] at ay hxy ⊢
    exact h e he e' he' ax ay hxy

theorem find?_eq (h : t.CodesDistinct) (he : e ∈ t.entries) (ha : e.isActive = true) :
    t.entries.find? (fun x => x.code = e.code && x.isActive) = some e := by
  have hp : (decide (e.code = e.code) && e.isActive) = true := by
    rw [ha, decide_eq_true rfl]
    rfl
  obtain ⟨x, hx⟩ := Option.isSome_iff_exists.1
    (List.find?_isSome (p := fun x : Entry => x.code = e.code && x.isActive).2 ⟨e, he, hp⟩)
  have hpx := List.find?_some hx
  rw [Bool.and_eq_true, decide_eq_true_eq] at hpx
  rw [hx, h x (List.mem_of_find?_eq_some hx) e he hpx.2 ha hpx.1]

end Table.CodesDistinct

theorem Table.not_codesDistinct_add {t : Table} {e x : Entry}
    {he : e.id ∉ t.entries.map Entry.id} (hx : x ∈ t.entries) (ax : x.isActive = true)
    (ae : e.isActive = true) (hc : x.code = e.code) : ¬(t.add e he).CodesDistinct := by
  intro h
  have hmem : e ∈ (t.add e he).entries := List.mem_append_right _ List.mem_cons_self
  cases h x (List.mem_append_left _ hx) e hmem ax ae hc
  exact he (List.mem_map_of_mem hx)

theorem Table.not_codesDistinct_modify {t : Table} {p : Entry → Bool} {g : Entry → Entry}
    {hg : ∀ e, (g e).id = e.id} {e x : Entry} (he : e ∈ t.entries) (hx : x ∈ t.entries)
    (pe : p e = true) (px : ¬p x = true) (ae : (g e).isActive = true) (ax : x.isActive = true)
    (hc : (g e).code = x.code) : ¬(t.modify p g hg).CodesDistinct := by
  intro h
  have hmem : g e ∈ (t.modify p g hg).entries := List.mem_map.2 ⟨e, he, if_pos pe⟩
  have hmem' : x ∈ (t.modify p g hg).entries := List.mem_map.2 ⟨x, hx, if_neg px⟩
  have hid : (g e).id = x.id := congrArg Entry.id (h _ hmem _ hmem' ae ax hc)
  cases Table.eq_of_id he hx ((hg e).symm.trans hid)
  exact px pe

namespace Service

open Sql Store

variable {like : String → String → Bool} {repo : Repository} {t u : Table} {actor : String}
  {id : Int64}

theorem leads_checkCode {code : String} {except? : Option Int64} {r : Except Failure Unit}
    (hrepo : Documented like repo) (h : (checkCode code except?).Leads repo t r u) :
    u = t ∧ ∀ e, t.entries.find? (fun e => e.code = code && e.isActive) = some e → r = .ok () →
      some e.id = except? := by
  rcases leads_bind.1 h with ⟨found, v, hm, hf⟩ | ⟨e, hm, he⟩
  · -- the store is asked once, and nothing is written
    obtain ⟨rfl, hfound⟩ := after_findByCode hrepo (leads_ask.1 hm)
    have hfound := hfound found rfl
    cases found with
    | none =>
      refine ⟨hf.2.symm, fun e he => ?_⟩
      rw [← hfound] at he
      cases he
    | some x =>
      dsimp only at hf
      split at hf
      · rename_i hx
        refine ⟨hf.2.symm, fun e he _ => ?_⟩
        rw [← hfound] at he
        cases he
        exact hx
      · refine ⟨hf.2.symm, fun e he hr => ?_⟩
        cases hr.symm.trans hf.1.symm
  · obtain ⟨rfl, _⟩ := after_findByCode hrepo (leads_ask.1 hm)
    refine ⟨rfl, fun x hx hr => ?_⟩
    cases he.trans hr

theorem free_of_checkCode {code : String} {except? : Option Int64} (hrepo : Documented like repo)
    (ht : t.CodesDistinct) (h : (checkCode code except?).Leads repo t (.ok ()) u) {e : Entry}
    (he : e ∈ t.entries) (ha : e.isActive = true) (hc : e.code = code) : some e.id = except? := by
  cases hc
  exact (leads_checkCode hrepo h).2 e (ht.find?_eq he ha) rfl

theorem codesDistinct_create {d : Draft} {r : Except Failure Entry} (hrepo : Documented like repo)
    (ht : t.CodesDistinct) (h : (create actor d).Leads repo t r u) : u.CodesDistinct := by
  rcases leads_bind.1 h with ⟨_, v, hm, h⟩ | ⟨_, hm, _⟩
  · cases leads_checkRules hm
    rcases leads_bind.1 h with ⟨_, w, hcode, h⟩ | ⟨_, hm, _⟩
    · cases (leads_checkCode hrepo hcode).1
      rcases after_create hrepo (leads_ask.1 h) with rfl | ⟨s, he, rfl⟩
      · exact ht
      · apply ht.add
        intro x hx ax hxc
        cases free_of_checkCode hrepo ht hcode hx ax hxc
    · cases (leads_checkCode hrepo hm).1
      exact ht
  · cases leads_checkRules hm
    exact ht

theorem leads_checkChange {c : Changes} {r : Except Failure Unit} (hrepo : Documented like repo)
    (ht : t.CodesDistinct) (h : (checkChange id c).Leads repo t r u) :
    u = t ∧ (r = .ok () → ∀ code, c.code = some code →
      ∀ e ∈ t.entries, e.isActive = true → e.code = code → e.id = id) := by
  rw [checkChange] at h
  cases hc : c.code with
  | none =>
    rw [hc] at h
    exact ⟨h.2.symm, fun _ code hcode => absurd hcode.symm (Option.some_ne_none code)⟩
  | some code =>
    rw [hc] at h
    refine ⟨(leads_checkCode hrepo h).1, ?_⟩
    rintro rfl _ ⟨⟩ e he ae hec
    exact Option.some.inj (free_of_checkCode hrepo ht h he ae hec)

theorem isActiveWithId_iff {e : Entry} :
    (decide (e.id = id) && e.isActive) = true ↔ e.id = id ∧ e.isActive = true := by
  rw [Bool.and_eq_true, decide_eq_true_eq]

theorem codesDistinct_changed {c : Changes} {time : Instant} (ht : t.CodesDistinct)
    (hcode : ∀ code, c.code = some code →
      ∀ e ∈ t.entries, e.isActive = true → e.code = code → e.id = id) :
    (t.modify (fun e => e.id = id && e.isActive) _
      (Entry.id_changed time actor c)).CodesDistinct := by
  apply ht.modify (fun e pe => (isActiveWithId_iff.1 pe).1)
  intro e he pe ae x hx ax hxe
  -- without a new code the entry that shares its code is the entry itself
  cases hc : c.code with
  | none =>
    have hxe : x.code = e.code := by simpa only [Entry.changed, hc, Option.getD_none] using hxe
    have hp := isActiveWithId_iff.1 pe
    cases ht x hx e he ax hp.2 hxe
    exact hp.1
  | some code =>
    have hxe : x.code = code := by simpa only [Entry.changed, hc, Option.getD_some] using hxe
    exact hcode code hc x hx ax hxe

theorem codesDistinct_update {c : Changes} {r : Except Failure Entry} (hrepo : Documented like repo)
    (ht : t.CodesDistinct) (h : (update actor id c).Leads repo t r u) : u.CodesDistinct := by
  by_cases he : c.isEmpty = true
  · rw [update_of_isEmpty he] at h
    cases h.2
    exact ht
  · rw [update_of_not_isEmpty he] at h
    rcases leads_bind.1 h with ⟨_, v, hm, hrest⟩ | ⟨_, hm, _⟩
    · cases leads_checkRules hm
      rcases leads_bind.1 hrest with ⟨_, w, hm, hask⟩ | ⟨_, hm, _⟩
      · obtain ⟨rfl, hcode⟩ := leads_checkChange hrepo ht hm
        have hask := (leads_ask (c := .update id c actor)).1 hask
        rcases after_update hrepo hask with rfl | ⟨time, rfl⟩
        · exact ht
        · exact codesDistinct_changed ht (hcode rfl)
      · cases (leads_checkChange hrepo ht hm).1
        exact ht
    · cases leads_checkRules hm
      exact ht

theorem codesDistinct_delete {r : Except Failure Unit} (hrepo : Documented like repo)
    (ht : t.CodesDistinct) (h : (delete actor id).Leads repo t r u) : u.CodesDistinct := by
  rcases after_delete hrepo (leads_ask.1 h) with rfl | ⟨time, rfl⟩
  · exact ht
  · apply ht.modify (fun e pe => (isActiveWithId_iff.1 pe).1)
    intro e _ _ ae
    cases ae

/-- Whether a call brings back an entry whose code an active entry has. -/
def Clashes (t : Table) : (c : Call) → Except Failure c.Answer → Prop
  | .restore id, r => r.isOk = true ∧ ∃ e ∈ t.entries, e.id = id ∧ e.isActive = false ∧
      ∃ x ∈ t.entries, x.isActive = true ∧ x.code = e.code
  | _, _ => False

instance (t : Table) : (c : Call) → (r : Except Failure c.Answer) → Decidable (Clashes t c r)
  | .restore _, _ => inferInstanceAs (Decidable (_ ∧ ∃ e ∈ _, _ ∧ _ ∧ ∃ x ∈ _, _ ∧ _))
  | .list _, _ | .get _, _ | .create _, _ | .update _ _, _ | .delete _, _ => .isFalse fun h => h

theorem codesDistinct_restore_iff {r : Except Failure Entry} (hrepo : Documented like repo)
    (ht : t.CodesDistinct) (h : (restore actor id).Leads repo t r u) :
    u.CodesDistinct ↔ ¬Clashes t (.restore id) r := by
  have hp (e : Entry) :
      (decide (e.id = id) && !e.isActive) = true ↔ e.id = id ∧ e.isActive = false := by
    rw [Bool.and_eq_true, decide_eq_true_eq, Bool.not_eq_true']
  rcases after_restore hrepo (leads_ask.1 h) with ⟨rfl, _, rfl⟩ | ⟨e, he, hid, ha, hr, time, rfl⟩
  · exact iff_of_true ht fun h => nomatch h.1
  · constructor
    · -- the one that has the code is active, so it is not among those that are changed
      rintro hu ⟨_, e', he', hid', ha', x, hx, ax, hxe⟩
      have px : ¬(decide (x.id = id) && !x.isActive) = true := by
        rw [hp, ax]
        exact fun h => nomatch h.2
      exact Table.not_codesDistinct_modify he' hx ((hp e').2 ⟨hid', ha'⟩) px rfl ax hxe.symm hu
    · intro hn
      apply ht.modify (fun e pe => ((hp e).1 pe).1)
      intro e' he' pe _ x hx ax hxe
      exact absurd ⟨hr, e', he', ((hp e').1 pe).1, ((hp e').1 pe).2, x, hx, ax, hxe⟩ hn

theorem codesDistinct_perform_iff {c : Call} {r : Except Failure c.Answer}
    (hrepo : Documented like repo) (ht : t.CodesDistinct)
    (h : (perform actor c).Leads repo t r u) : u.CodesDistinct ↔ ¬Clashes t c r := by
  cases c with
  | list f =>
    cases after_reading hrepo (fun _ => rfl) (leads_ask.1 h)
    exact iff_of_true ht fun h => h
  | get id =>
    cases leads_get hrepo h
    exact iff_of_true ht fun h => h
  | create d => exact iff_of_true (codesDistinct_create hrepo ht h) fun h => h
  | update id c => exact iff_of_true (codesDistinct_update hrepo ht h) fun h => h
  | delete id => exact iff_of_true (codesDistinct_delete hrepo ht h) fun h => h
  | restore id => exact codesDistinct_restore_iff hrepo ht h

/-- Whether no call of a run brings back an entry whose code an active entry has. -/
def NoClash : Table → List Turn → Prop
  | _, [] => True
  | t, turn :: turns => ¬Clashes t turn.call turn.result ∧ NoClash turn.after turns

instance decidableNoClash : (t : Table) → (turns : List Turn) → Decidable (NoClash t turns)
  | _, [] => .isTrue trivial
  | _, turn :: turns =>
    have := decidableNoClash turn.after turns
    inferInstanceAs (Decidable (_ ∧ NoClash turn.after turns))

theorem codesDistinct_run_iff {turns : List Turn} (hrepo : Documented like repo)
    (ht : t.CodesDistinct) (h : Run repo t turns) :
    (∀ turn ∈ turns, turn.after.CodesDistinct) ↔ NoClash t turns := by
  induction h with
  | nil t => exact iff_of_true (fun _ h => nomatch h) trivial
  | cons hturn _ ih =>
    rw [List.forall_mem_cons, NoClash, ← codesDistinct_perform_iff hrepo ht hturn]
    exact and_congr_right fun hafter => ih hafter

/-- A run keeps the codes of active entries distinct if and only if it brings back no entry whose
code an active entry has. -/
theorem run_keeps_codes_distinct_iff {turns : List Turn}
    (hrepo : Documented like repo ∨ repo = onTable like Mapped.store ∨
      repo = onTable like Written.store)
    (ht : t.CodesDistinct) (h : Run repo t turns) :
    (∀ turn ∈ turns, turn.after.CodesDistinct) ↔ NoClash t turns := by
  rcases hrepo with hrepo | rfl | rfl
  · exact codesDistinct_run_iff hrepo ht h
  · exact codesDistinct_run_iff (documented_mapped like) ht h
  · exact codesDistinct_run_iff (documented_written like) ht h

def newYear : Instant where
  date := { year := 2024, month := 1, day := 1 }
  hour := 0
  minute := 0
  second := 0
  nano := 0

/-- Two entries are made, the second while the first is deleted, and then the first is restored. -/
def restoring (code code' : String) : List Turn :=
  let stamp (id : Int64) : Stamp := { time := newYear, uuid := ⟨.replicate 32 (.last 15), rfl⟩, id }
  turnsOn (fun _ _ => false) .empty
    [(stamp 1, "clerk", .create ⟨code, "first"⟩), (stamp 2, "clerk", .delete 1),
      (stamp 2, "clerk", .create ⟨code', "second"⟩), (stamp 3, "clerk", .restore 1)]

theorem distinct_codes_kept :
    Table.empty.CodesDistinct ∧
      Run (onTable (fun _ _ => false) Mapped.store) .empty (restoring "A" "B") ∧
      NoClash .empty (restoring "A" "B") ∧
      ∀ turn ∈ restoring "A" "B", turn.after.CodesDistinct := by
  have ht : Table.empty.CodesDistinct := by decide
  have hrun : Run (onTable (fun _ _ => false) Mapped.store) .empty (restoring "A" "B") :=
    run_turnsOn (fun _ c _ => Mapped.on_table c) _ _
  have hn : NoClash .empty (restoring "A" "B") := by decide +kernel
  exact ⟨ht, hrun, hn, (run_keeps_codes_distinct_iff (.inr (.inl rfl)) ht hrun).2 hn⟩

/-- An entry is restored although another one has been given its code. -/
theorem distinct_codes_lost :
    Table.empty.CodesDistinct ∧
      Run (onTable (fun _ _ => false) Mapped.store) .empty (restoring "A" "A") ∧
      Run (onTable (fun _ _ => false) Written.store) .empty (restoring "A" "A") ∧
      ¬∀ turn ∈ restoring "A" "A", turn.after.CodesDistinct :=
  ⟨by decide, run_turnsOn (fun _ c _ => Mapped.on_table c) _ _,
    run_turnsOn (fun _ c _ => Written.on_table c) _ _, by decide +kernel⟩

end Service

end Catalog
