import Catalog.Proofs.Service.Gate

namespace Catalog.Service

def Smooth (log : List Exchange) : Prop :=
  ∀ x ∈ log, ∃ a, x.2 = .ok a

section Course

/- `bad` inputs are refused as `told` has it. The code that is given is looked up, and an entry that
clashes is in the way of the call `q`. -/
variable (bad : Prop) (told : String → Prop) (code? : Option String) (clash : Entry → Prop)
  (q : Store.Call)

/-- The ways that a write may take: the exchanges with the store, and what it comes to. -/
inductive Way : List Exchange → Except Failure q.Answer → Prop where
  | refused {problem : String} : bad → told problem → Way [] (.error (.validation problem))
  | failed {code : String} {failure : Failure} : ¬bad → code? = some code →
    Way [⟨.findByCode code, .error failure⟩] (.error failure)
  | taken {code : String} {e : Entry} : ¬bad → code? = some code → clash e →
    Way [⟨.findByCode code, .ok (some e)⟩] (.error (codeTaken code))
  | free {code : String} {found : Option Entry} {r : Except Failure q.Answer} : ¬bad →
    code? = some code → (∀ e, found = some e → ¬clash e) →
    Way [⟨.findByCode code, .ok found⟩, ⟨q, r⟩] r
  | direct {r : Except Failure q.Answer} : ¬bad → code? = none → Way [⟨q, r⟩] r

/-- How a write ends. A bad input is not shown to the store; otherwise a code that is given is looked
up first. An error of the store is the end of the write and what it comes to. Without one, the write
comes to a refusal, to a conflict over the code, or to the answer to its last call. -/
structure Ends (log : List Exchange) (r : Except Failure q.Answer) : Prop where
  refused : bad → log = [] ∧ ∃ problem, r = .error (.validation problem) ∧ told problem
  lookup : ¬bad → ∀ code, code? = some code →
    ∃ found : Except Failure (Option Entry), log.head? = some ⟨.findByCode code, found⟩
  unchanged : ∀ x ∈ log, ∀ failure, x.2 = .error failure →
    log.getLast? = some x ∧ r = .error failure
  validation : Smooth log → ((∃ problem, r = .error (.validation problem)) ↔ bad)
  conflict : Smooth log → ∀ what, r = .error (.conflict what) ↔
    ∃ code e, code? = some code ∧ log.head? = some ⟨.findByCode code, .ok (some e)⟩ ∧ clash e ∧
      what = "Example with code " ++ code
  last : Smooth log → ¬bad →
    (∀ code e, code? = some code → log.head? = some ⟨.findByCode code, .ok (some e)⟩ → ¬clash e) →
    log.getLast? = some ⟨q, r⟩

variable {bad told code? clash q} {log : List Exchange} {r : Except Failure q.Answer}

theorem Way.refused_of (h : Way bad told code? clash q log r) (hbad : bad) :
    log = [] ∧ ∃ problem, r = .error (.validation problem) ∧ told problem := by
  cases h with
  | refused _ htold => exact ⟨rfl, _, rfl, htold⟩
  | failed hgood | taken hgood | free hgood | direct hgood => exact absurd hbad hgood

theorem Way.lookup (h : Way bad told code? clash q log r) (hgood : ¬bad) {code : String}
    (hcode : code? = some code) :
    ∃ found : Except Failure (Option Entry), log.head? = some ⟨.findByCode code, found⟩ := by
  cases h with
  | refused hbad _ => exact absurd hbad hgood
  | failed _ hcode' | taken _ hcode' | free _ hcode' =>
    cases hcode.symm.trans hcode'
    exact ⟨_, rfl⟩
  | direct _ hnone => cases hcode.symm.trans hnone

theorem Way.unchanged (h : Way bad told code? clash q log r) {x : Exchange} (hx : x ∈ log)
    {failure : Failure} (hfailure : x.2 = .error failure) :
    log.getLast? = some x ∧ r = .error failure := by
  cases h with
  | refused => cases hx
  | failed =>
    cases List.mem_singleton.1 hx
    cases hfailure
    exact ⟨rfl, rfl⟩
  | taken =>
    cases List.mem_singleton.1 hx
    cases hfailure
  | free =>
    rcases List.mem_cons.1 hx with rfl | hx
    · cases hfailure
    · cases List.mem_singleton.1 hx
      exact ⟨rfl, hfailure⟩
  | direct =>
    cases List.mem_singleton.1 hx
    exact ⟨rfl, hfailure⟩

theorem Way.smooth_cases (h : Way bad told code? clash q log r) (hsmooth : Smooth log) :
    (bad ∧ ∃ problem, r = .error (.validation problem)) ∨
    (¬bad ∧ ∃ code e, code? = some code ∧ log.head? = some ⟨.findByCode code, .ok (some e)⟩ ∧
      clash e ∧ r = .error (codeTaken code)) ∨
    (¬bad ∧ (∃ a, r = .ok a) ∧ log.getLast? = some ⟨q, r⟩ ∧ ∀ code e, code? = some code →
      log.head? = some ⟨.findByCode code, .ok (some e)⟩ → ¬clash e) := by
  cases h with
  | refused hbad _ => exact .inl ⟨hbad, _, rfl⟩
  | failed =>
    obtain ⟨_, h⟩ := hsmooth _ List.mem_cons_self
    cases h
  | taken hgood hcode hclash => exact .inr (.inl ⟨hgood, _, _, hcode, rfl, hclash, rfl⟩)
  | free hgood _ hfound =>
    refine .inr (.inr ⟨hgood, hsmooth _ (List.mem_cons_of_mem _ List.mem_cons_self), rfl, ?_⟩)
    intro code e _ hhead
    cases hhead
    exact hfound e rfl
  | direct hgood hnone =>
    refine .inr (.inr ⟨hgood, hsmooth _ List.mem_cons_self, rfl, ?_⟩)
    intro code e hcode _
    cases hcode.symm.trans hnone

theorem Way.validation_iff (h : Way bad told code? clash q log r) (hsmooth : Smooth log) :
    (∃ problem, r = .error (.validation problem)) ↔ bad := by
  rcases h.smooth_cases hsmooth with ⟨hbad, hr⟩ | ⟨hgood, _, _, _, _, _, rfl⟩ | ⟨hgood, ⟨_, rfl⟩, _⟩
  · exact iff_of_true hr hbad
  · exact iff_of_false (fun ⟨_, h⟩ => nomatch h) hgood
  · exact iff_of_false (fun ⟨_, h⟩ => nomatch h) hgood

theorem Way.conflict_iff (h : Way bad told code? clash q log r) (hsmooth : Smooth log)
    (what : String) : r = .error (.conflict what) ↔
      ∃ code e, code? = some code ∧ log.head? = some ⟨.findByCode code, .ok (some e)⟩ ∧ clash e ∧
        what = "Example with code " ++ code := by
  rcases h.smooth_cases hsmooth with
    ⟨hbad, _, rfl⟩ | ⟨_, code, e, hcode, hhead, hclash, rfl⟩ | ⟨_, ⟨_, rfl⟩, _, hfree⟩
  · refine iff_of_false (fun h => nomatch h) ?_
    rintro ⟨_, _, _, hhead, _⟩
    rw [(h.refused_of hbad).1] at hhead
    cases hhead
  · constructor
    · rintro ⟨⟩
      exact ⟨code, e, hcode, hhead, hclash, rfl⟩
    · rintro ⟨_, _, hcode', _, _, rfl⟩
      cases hcode.symm.trans hcode'
      rfl
  · refine iff_of_false (fun h => nomatch h) ?_
    rintro ⟨code, e, hcode, hhead, hclash, _⟩
    exact hfree code e hcode hhead hclash

theorem Way.last (h : Way bad told code? clash q log r) (hsmooth : Smooth log) (hgood : ¬bad)
    (hfree : ∀ code e, code? = some code →
      log.head? = some ⟨.findByCode code, .ok (some e)⟩ → ¬clash e) :
    log.getLast? = some ⟨q, r⟩ := by
  rcases h.smooth_cases hsmooth with
    ⟨hbad, _⟩ | ⟨_, code, e, hcode, hhead, hclash, _⟩ | ⟨_, _, hlast, _⟩
  · exact absurd hbad hgood
  · exact absurd hclash (hfree code e hcode hhead)
  · exact hlast

theorem Way.ends (h : Way bad told code? clash q log r) : Ends bad told code? clash q log r where
  refused := h.refused_of
  lookup hgood _ := h.lookup hgood
  unchanged _ hx _ := h.unchanged hx
  validation := h.validation_iff
  conflict := h.conflict_iff
  last := h.last

variable {σ : Type} {answer : (c : Store.Call) → σ → Except Failure c.Answer × σ} {s : σ}

theorem way_afterLookup {except? : Option Int64} (hgood : ¬bad)
    (hclash : ∀ e : Entry, clash e ↔ some e.id ≠ except?) :
    Way bad told code? clash q ((afterLookup code? except? q).exchanges answer s)
      ((afterLookup code? except? q).run answer s).result := by
  cases code? with
  | none => exact .direct hgood rfl
  | some code =>
    rw [afterLookup, Session.exchanges, Session.run]
    generalize answer (.findByCode code) s = reply
    obtain ⟨found, s'⟩ := reply
    dsimp only
    split
    · rename_i hpass
      obtain ⟨found, rfl, hown⟩ := passes_iff.1 hpass
      exact .free hgood rfl fun e he h => (hclash e).1 h (hown e he)
    · rename_i hstop
      rcases found with failure | _ | e
      · exact .failed hgood rfl
      · exact absurd rfl hstop
      · refine .taken hgood rfl ((hclash e).2 fun hid => hstop ?_)
        exact passes_iff.2 ⟨_, rfl, fun _ he => Option.some.inj he ▸ hid⟩

end Course

variable {σ : Type} {answer : (c : Store.Call) → σ → Except Failure c.Answer × σ} {s : σ}
  {actor : String}

theorem way_ask {told : String → Prop} {clash : Entry → Prop} {q : Store.Call} :
    Way False told none clash q (log answer s (ask q)) ((ask q).run.run answer s).result :=
  .direct not_false rfl

theorem way_create (d : Draft) :
    Way (∃ rule, d.Violates rule) (Rule.Tells d.Violates) (some d.code) (fun _ => True)
      (.create d actor) (log answer s (create actor d))
      ((create actor d).run.run answer s).result := by
  rw [log, run_create]
  split
  · rename_i hbroken
    refine way_afterLookup ?_ fun e => iff_of_true trivial (Option.some_ne_none e.id)
    rintro ⟨rule, h⟩
    rw [← Draft.mem_broken_iff, hbroken] at h
    cases h
  · rename_i hbroken
    obtain ⟨rule, h⟩ := List.exists_mem_of_ne_nil _ hbroken
    exact .refused ⟨rule, Draft.mem_broken_iff.1 h⟩
      (Rule.tells_summary (Changes.nodup_broken _) fun _ => Draft.mem_broken_iff)

theorem way_update (id : Int64) (c : Changes) :
    Way ((c.code = none ∧ c.text = none) ∨ ∃ rule, c.Violates rule) c.Told c.code
      (fun e => e.id ≠ id) (.update id c actor) (log answer s (update actor id c))
      ((update actor id c).run.run answer s).result := by
  by_cases hempty : c.isEmpty = true
  · have hnone := Changes.isEmpty_iff.1 hempty
    rw [update_of_isEmpty hempty]
    refine .refused (.inl hnone) ?_
    rw [Changes.Told, if_pos hnone]
  · have hsome := mt Changes.isEmpty_iff.2 hempty
    rw [log, run_update actor id hempty]
    split
    · rename_i hbroken
      refine way_afterLookup ?_ fun e => Option.some_inj.not.symm
      rintro (hnone | ⟨rule, h⟩)
      · exact hsome hnone
      · rw [← Changes.mem_broken_iff, hbroken] at h
        cases h
    · rename_i hbroken
      obtain ⟨rule, h⟩ := List.exists_mem_of_ne_nil _ hbroken
      refine .refused (.inr ⟨rule, Changes.mem_broken_iff.1 h⟩) ?_
      rw [Changes.Told, if_neg hsome]
      exact Rule.tells_summary c.nodup_broken fun _ => Changes.mem_broken_iff

theorem Way.nothing_iff {c : Changes} {clash : Entry → Prop} {q : Store.Call} {log : List Exchange}
    {r : Except Failure q.Answer}
    (h : Way ((c.code = none ∧ c.text = none) ∨ ∃ rule, c.Violates rule) c.Told c.code clash q log r)
    (hsmooth : Smooth log) :
    r = .error (.validation "Nothing to update") ↔ c.code = none ∧ c.text = none := by
  constructor
  · rintro rfl
    have hbad := (h.validation_iff hsmooth).1 ⟨_, rfl⟩
    obtain ⟨_, _, ⟨⟩, htold⟩ := h.refused_of hbad
    exact (Changes.told_iff htold).1 rfl
  · intro hnone
    obtain ⟨_, problem, rfl, htold⟩ := h.refused_of (.inl hnone)
    rw [(Changes.told_iff htold).2 hnone]

/-- However the store answers, an input that breaks rules is refused before the store is asked, and
says which. Then a code that is taken is in the way. An error of the store ends a write as it is, and
without one the write comes to what the store answers last. -/
theorem writes_end {σ : Type} (answer : (c : Store.Call) → σ → Except Failure c.Answer × σ) (s : σ)
    (actor : String) :
    (∀ d, Ends (∃ rule, d.Violates rule) (Rule.Tells d.Violates) (some d.code) (fun _ => True)
      (.create d actor) (log answer s (create actor d))
      ((create actor d).run.run answer s).result) ∧
    (∀ id c,
      let log := log answer s (update actor id c)
      let r := ((update actor id c).run.run answer s).result
      Ends ((c.code = none ∧ c.text = none) ∨ ∃ rule, c.Violates rule) c.Told c.code
        (fun e => e.id ≠ id) (.update id c actor) log r ∧
      (Smooth log →
        (r = .error (.validation "Nothing to update") ↔ c.code = none ∧ c.text = none))) ∧
    (∀ id, Ends False (fun _ => False) none (fun _ => False) (.delete id actor)
      (log answer s (delete actor id)) ((delete actor id).run.run answer s).result) ∧
    ∀ id, Ends False (fun _ => False) none (fun _ => False) (.restore id actor)
      (log answer s (restore actor id)) ((restore actor id).run.run answer s).result := by
  refine ⟨fun d => (way_create d).ends, fun id c => ?_, fun id => way_ask.ends,
    fun id => way_ask.ends⟩
  exact ⟨(way_update id c).ends, (way_update id c).nothing_iff⟩

end Catalog.Service
