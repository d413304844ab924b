import Catalog.Proofs.Listing.Agreement
import Catalog.Proofs.Store.Deadline
import Catalog.Proofs.Store.Question
import Catalog.Proofs.Store.Row

namespace Catalog.Store

open Sql Script
open Session (Timed Trace)

abbrev Wire := List (Timed (Except DatabaseError (List SentRow)))

def Wire.script (w : Wire) : Script :=
  w.map fun r => { r with answer := r.answer.map (List.map SentRow.row) }

def firstRow (reply : Reply) : Reply :=
  reply.map (List.take 1)

def Script.firstRows (script : Script) : Script :=
  script.map fun r => { r with answer := firstRow r.answer }

theorem Script.answer_firstRows (q : Request) (script : Script) :
    answer q script.firstRows =
      (⟨(answer q script).1.delay, firstRow (answer q script).1.answer⟩,
        (answer q script).2.firstRows) := by
  cases script <;> rfl

/-- Whether an entry is what a call for one entry answers. A deletion shows nothing of it. -/
def Call.Shows : (c : Call) → c.Answer → Entry → Prop
  | .findById _, a, e | .findByCode _, a, e => a = some e
  | .create .., a, e | .update .., a, e | .restore .., a, e => a = e
  | .delete .., _, _ | .list _, _, _ => True

section Taking

variable {α : Type} {shows : α → Entry → Prop}

/-- What is made of a reply of which only the first row is taken, with a number of statements to come
if nothing is lacking in that row. After the last of them, its entry is shown. -/
structure TakesFirst (shows : α → Entry → Prop) (later : Nat)
    (next : Reply → Session Request (fun _ => Reply) (Except Failure α)) : Prop where
  first : ∀ reply, next (firstRow reply) = next reply
  lacking : ∀ r more c, r.lacks? = some c →
    next (.ok (r :: more)) = .done (.error (.database (.nullColumn c.name)))
  last : later = 0 → ∀ e more, ∃ a, next (.ok (Entry.row e :: more)) = .done (.ok a) ∧ shows a e
  further : later ≠ 0 → ∀ e more, ∃ q rest, next (.ok (Entry.row e :: more)) = .ask q rest

/-- Whether the first row is all that is taken of each reply, to so many statements at most. -/
def TakesFirsts (shows : α → Entry → Prop) :
    Nat → Session Request (fun _ => Reply) (Except Failure α) → Prop
  | _, .done _ => True
  | 0, .ask _ _ => False
  | n + 1, .ask _ next => TakesFirst shows n next ∧ ∀ reply, TakesFirsts shows n (next reply)

theorem takesFirsts_done (n : Nat) (r : Except Failure α) : TakesFirsts shows n (.done r) := by
  cases n <;> trivial

theorem first?_firstRow (reply : Reply) : first? (firstRow reply) = first? reply := by
  cases reply with
  | error e => rfl
  | ok found => cases found <;> rfl

theorem first?_eq_error {r : Row} {c : Column} (h : r.lacks? = some c) (more : List Row) :
    first? (.ok (r :: more)) = .error (.nullColumn c.name) := by
  change some <$> r.entry = _
  rw [Row.entry_eq_error h]
  rfl

theorem takesFirsts_firstEntry {q : Request} {f : Option Entry → Conversation α} {n : Nat}
    (hlast : n = 0 → ∀ e, ∃ a, (f (some e)).run = .done (.ok a) ∧ shows a e)
    (hfurther : n ≠ 0 → ∀ e, ∃ q rest, (f (some e)).run = .ask q rest)
    (hf : ∀ e?, TakesFirsts shows n (f e?).run) :
    TakesFirsts shows (n + 1) (firstEntry q >>= f).run := by
  rw [run_firstEntry_bind]
  refine ⟨⟨?_, ?_, ?_, ?_⟩, ?_⟩
  · intro reply
    rw [first?_firstRow]
  · intro r more c hc
    rw [first?_eq_error hc]
    rfl
  · intro hn e more
    exact hlast hn e
  · intro hn e more
    exact hfurther hn e
  · intro reply
    dsimp only
    cases first? reply with
    | error e => exact takesFirsts_done n _
    | ok e? => exact hf e?

theorem takesFirsts_last {q : Request} {f : Option Entry → Conversation α}
    (hsome : ∀ e, ∃ a, (f (some e)).run = .done (.ok a) ∧ shows a e)
    (hnone : ∃ r, (f none).run = .done r) : TakesFirsts shows 1 (firstEntry q >>= f).run := by
  apply takesFirsts_firstEntry (fun _ => hsome) (absurd rfl)
  intro e?
  cases e? with
  | none =>
    obtain ⟨r, hr⟩ := hnone
    rw [hr]
    trivial
  | some e =>
    obtain ⟨a, ha, _⟩ := hsome e
    rw [ha]
    trivial

theorem takesFirsts_lookup {shows : Option Entry → Entry → Prop}
    (h : ∀ e, shows (some e) e) (q : Request) : TakesFirsts shows 1 (firstEntry q).run := by
  rw [← bind_pure (firstEntry q)]
  exact takesFirsts_last (fun e => ⟨some e, rfl, h e⟩) ⟨_, rfl⟩

theorem runWithin_firstRows {m : Session Request (fun _ => Reply) (Except Failure α)} {n : Nat}
    (hm : TakesFirsts shows n m) (limit elapsed : Duration) (script : Script) :
    m.runWithin limit answer elapsed script.firstRows =
      { m.runWithin limit answer elapsed script with
        state := (m.runWithin limit answer elapsed script).state.firstRows } := by
  induction m generalizing n elapsed script with
  | done r => rfl
  | ask q next ih =>
    cases n with
    | zero => exact hm.elim
    | succ n =>
      obtain ⟨hfirst, hnext⟩ := hm
      simp only [Session.runWithin, answer_firstRows, hfirst.first, ih _ (hnext _)]
      split <;> rfl

section Run

/-- What is true of a run that takes the first row of the reply to one of its statements, of as many
as there are if nothing is lacking. -/
structure Takes (shows : α → Entry → Prop) (statements i : Nat) (r : Row)
    (t : Trace Request Script (Option (Except Failure α))) : Prop where
  lacking : ∀ c, r.lacks? = some c →
    t.asked.length = i + 1 ∧ t.result = some (.error (.database (.nullColumn c.name)))
  answered : ∀ e : Entry, r = e.row → i + 1 = statements →
    ∃ a, t.result = some (.ok a) ∧ shows a e
  further : ∀ e : Entry, r = e.row → i + 1 ≠ statements → i + 1 < t.asked.length

variable {m : Session Request (fun _ => Reply) (Except Failure α)}
  {next : Reply → Session Request (fun _ => Reply) (Except Failure α)} {limit elapsed d : Duration}
  {script : Script} {q : Request} {r : Row} {more : List Row} {n i : Nat}

theorem runWithin_ask_of_le {reply : Timed Reply}
    (h : elapsed.nanos + reply.delay.nanos ≤ limit.nanos) :
    (Session.ask q next).runWithin limit answer elapsed (reply :: script) =
      let t := (next reply.answer).runWithin limit answer ⟨elapsed.nanos + reply.delay.nanos⟩ script
      { t with asked := q :: t.asked } :=
  if_neg (Nat.not_lt.2 h)

theorem asked_ask_pos :
    0 < ((Session.ask q next).runWithin limit answer elapsed script).asked.length := by
  rw [Session.runWithin]
  dsimp only
  split
  · exact Nat.one_pos
  · exact Nat.succ_pos _

theorem TakesFirst.takes (h : TakesFirst shows n next) (q : Request) :
    let t := (next (.ok (r :: more))).runWithin limit answer elapsed script
    Takes shows (n + 1) 0 r { t with asked := q :: t.asked } := by
  constructor
  · intro c hc
    rw [h.lacking r more c hc]
    exact ⟨rfl, rfl⟩
  · rintro e rfl hn
    obtain ⟨a, ha, hshows⟩ := h.last (Nat.succ.inj hn).symm e more
    rw [ha]
    exact ⟨a, rfl, hshows⟩
  · rintro e rfl hn
    have hmore : n ≠ 0 := fun h => hn (congrArg (· + 1) h.symm)
    obtain ⟨q', rest, hask⟩ := h.further hmore e more
    rw [hask]
    exact Nat.succ_lt_succ asked_ask_pos

theorem Takes.cons {t : Trace Request Script (Option (Except Failure α))}
    (h : Takes shows n i r t) (q : Request) :
    Takes shows (n + 1) (i + 1) r { t with asked := q :: t.asked } := by
  constructor
  · intro c hc
    obtain ⟨hlast, hresult⟩ := h.lacking c hc
    exact ⟨congrArg (· + 1) hlast, hresult⟩
  · intro e he hn
    exact h.answered e he (Nat.succ.inj hn)
  · intro e he hn
    exact Nat.succ_lt_succ (h.further e he fun hn' => hn (congrArg (· + 1) hn'))

theorem runWithin_takes (hm : TakesFirsts shows n m)
    (hi : i < (m.runWithin limit answer elapsed script).asked.length)
    (hr : script[i]? = some ⟨d, .ok (r :: more)⟩)
    (hd : elapsed.nanos + delay (script.take (i + 1)) ≤ limit.nanos) :
    Takes shows n i r (m.runWithin limit answer elapsed script) := by
  induction m generalizing n elapsed script i with
  | done a => cases hi
  | ask q next ih =>
    cases n with
    | zero => exact hm.elim
    | succ n =>
      obtain ⟨hfirst, hnext⟩ := hm
      cases script with
      | nil => cases hr
      | cons reply rest =>
        rw [List.take_succ_cons, delay, ← Nat.add_assoc] at hd
        rw [runWithin_ask_of_le (Nat.le_of_add_right_le hd)] at hi ⊢
        cases i with
        | zero =>
          cases hr
          exact hfirst.takes q
        | succ i => exact (ih _ (hnext _) (Nat.lt_of_succ_lt_succ hi) hr hd).cons q

end Run

end Taking

def Call.statements : Backend → Call → Nat
  | .orm, .update .. | .orm, .delete .. | .orm, .restore .. => 2
  | _, _ => 1

theorem Written.takesFirsts_store {c : Call} (hc : ∀ f, c ≠ .list f) :
    TakesFirsts c.Shows (c.statements .sql) (store c).run := by
  cases c with
  | list f => exact absurd rfl (hc f)
  | findById id => exact takesFirsts_lookup (fun _ => rfl) _
  | findByCode code => exact takesFirsts_lookup (fun _ => rfl) _
  | create d actor => exact takesFirsts_last (fun e => ⟨e, rfl, rfl⟩) ⟨_, rfl⟩
  | update id c actor => exact takesFirsts_last (fun e => ⟨e, rfl, rfl⟩) ⟨_, rfl⟩
  | delete id actor => exact takesFirsts_last (fun _ => ⟨(), rfl, trivial⟩) ⟨_, rfl⟩
  | restore id actor => exact takesFirsts_last (fun e => ⟨e, rfl, rfl⟩) ⟨_, rfl⟩

namespace Mapped

theorem Amendment.takesFirsts_write {c : Call} (w : Amendment c)
    (h : ∀ e, c.Shows (w.answer e) e) (id : Int64) :
    TakesFirsts c.Shows 1 (w.write id).run ∧ ∃ q next, (w.write id).run = .ask q next := by
  rw [Amendment.write, Mapped.change, bind_assoc]
  exact ⟨takesFirsts_last (fun e => ⟨w.answer e, rfl, h e⟩) ⟨_, rfl⟩, _, _,
    run_firstEntry_bind _ _⟩

theorem Amendment.takesFirsts_store {c : Call} (w : Amendment c)
    (h : ∀ e, c.Shows (w.answer e) e) : TakesFirsts c.Shows 2 (store c).run := by
  rw [w.store_eq]
  apply takesFirsts_firstEntry (fun hn => absurd hn Nat.one_ne_zero)
  · intro _ e
    exact (w.takesFirsts_write h e.id).2
  · intro e?
    cases e? with
    | none => trivial
    | some e => exact (w.takesFirsts_write h e.id).1

theorem takesFirsts_store {c : Call} (hc : ∀ f, c ≠ .list f) :
    TakesFirsts c.Shows (c.statements .orm) (store c).run := by
  cases c with
  | list f => exact absurd rfl (hc f)
  | findById id => exact takesFirsts_lookup (fun _ => rfl) _
  | findByCode code => exact takesFirsts_lookup (fun _ => rfl) _
  | create d actor => exact takesFirsts_last (fun e => ⟨e, rfl, rfl⟩) ⟨_, rfl⟩
  | update id c actor => exact (Amendment.ofUpdate id c actor).takesFirsts_store fun _ => rfl
  | delete id actor => exact (Amendment.ofDelete id actor).takesFirsts_store fun _ => trivial
  | restore id actor => exact (Amendment.ofRestore id actor).takesFirsts_store fun _ => rfl

end Mapped

theorem takesFirsts_storeFor (b : Backend) {c : Call} (hc : ∀ f, c ≠ .list f) :
    TakesFirsts c.Shows (c.statements b) (Command.storeFor b c).run := by
  cases b with
  | orm => exact Mapped.takesFirsts_store hc
  | sql => exact Written.takesFirsts_store hc

/-- Whether a listing is made of all rows that are sent, in their order, or of none if one of them
lacks a column. Then it says which column the first such row lacks first. -/
structure ReadsAll (sent : List SentRow) (result : Except Failure (List Entry)) : Prop where
  whole : sent.findSome? SentRow.lacks? = none →
    ∃ es, result = .ok es ∧ List.Forall₂ SentRow.Gives sent es
  lacking : ∀ c, sent.findSome? SentRow.lacks? = some c →
    result = .error (.database (.nullColumn c.name))

theorem readsAll_received (sent : List SentRow) :
    ReadsAll sent (received (.ok (sent.map SentRow.row))) := by
  have hlacks : (sent.map SentRow.row).findSome? Row.lacks? = sent.findSome? SentRow.lacks? := by
    rw [List.findSome?_map]
    exact congrArg (List.findSome? · sent) (funext SentRow.lacks?_row)
  rcases Row.mapM_entry_cases (sent.map SentRow.row) with ⟨c, hc, herror⟩ | ⟨es, hes, hrows⟩
  · rw [hlacks] at hc
    constructor
    · intro hnone
      cases hc.symm.trans hnone
    · intro c' hc'
      cases hc.symm.trans hc'
      rw [received_ok, herror]
      rfl
  · rw [hlacks] at hes
    constructor
    · intro _
      refine ⟨es, ?_, ?_⟩
      · rw [received_ok, Row.mapM_entry_eq_ok_iff.2 hrows]
        rfl
      · exact SentRow.forall₂_gives hrows
    · intro c hc
      cases hes.symm.trans hc

variable {f : Filter} {limit d : Duration} {rest : Script}

theorem result_listing (b : Backend) (h : f.refusal? = none) (hd : d.nanos ≤ limit.nanos)
    (reply : Reply) :
    (perform (Command.storeFor b) limit (.list f) (⟨d, reply⟩ :: rest)).result =
      received reply := by
  obtain ⟨q, hrun, _⟩ := run_listing b h
  rw [perform, hrun, runWithin_ask_of_le ((Nat.zero_add _).trans_le hd)]
  rfl

theorem result_listing_eq (f : Filter) (limit : Duration) (script : Script) :
    (perform (Command.storeFor .orm) limit (.list f) script).result =
      (perform (Command.storeFor .sql) limit (.list f) script).result := by
  cases h : f.refusal? with
  | some failure =>
    rw [perform, perform, run_refused .orm h, run_refused .sql h]
  | none =>
    obtain ⟨m, hm, _⟩ := run_listing .orm h
    obtain ⟨w, hw, _⟩ := run_listing .sql h
    have hanswer : answer m script = answer w script := by cases script <;> rfl
    simp only [perform, hm, hw, Session.runWithin, hanswer]
    split <;> rfl

/-- What a call makes of the first row of the reply to one of its statements. -/
structure ReadsFirst (b : Backend) (c : Call) (i : Nat) (s : SentRow)
    (t : Trace Request Script (Except Failure c.Answer)) : Prop where
  lacking : ∀ column, s.lacks? = some column →
    t.asked.length = i + 1 ∧ t.result = .error (.database (.nullColumn column.name))
  answered : s.lacks? = none → i + 1 = c.statements b →
    ∃ a e, t.result = .ok a ∧ s.Gives e ∧ c.Shows a e
  further : s.lacks? = none → i + 1 ≠ c.statements b → i + 1 < t.asked.length

theorem readsFirst_perform {b : Backend} {c : Call} (hc : ∀ f, c ≠ .list f) {w : Wire} {i : Nat}
    {s : SentRow} {more : List SentRow}
    (hi : i < (perform (Command.storeFor b) limit c w.script).asked.length)
    (hw : w[i]? = some ⟨d, .ok (s :: more)⟩)
    (hd : delay (w.script.take (i + 1)) ≤ limit.nanos) :
    ReadsFirst b c i s (perform (Command.storeFor b) limit c w.script) := by
  have hreply : w.script[i]? = some ⟨d, .ok (s.row :: more.map SentRow.row)⟩ := by
    rw [Wire.script, List.getElem?_map, hw]
    rfl
  have htakes := runWithin_takes (takesFirsts_storeFor b hc) hi hreply
    ((Nat.zero_add _).trans_le hd)
  have hrow (h : s.lacks? = none) : ∃ e : Entry, s.row = e.row :=
    Row.exists_eq_row (s.lacks?_row.trans h)
  constructor
  · intro column hcolumn
    obtain ⟨hlast, hresult⟩ := htakes.lacking column (s.lacks?_row.trans hcolumn)
    refine ⟨hlast, ?_⟩
    rw [perform, hresult]
    rfl
  · intro hnone hn
    obtain ⟨e, he⟩ := hrow hnone
    obtain ⟨a, hresult, hshows⟩ := htakes.answered e he hn
    refine ⟨a, e, ?_, SentRow.gives_of_row_eq he, hshows⟩
    rw [perform, hresult]
    rfl
  · intro hnone hn
    obtain ⟨e, he⟩ := hrow hnone
    exact htakes.further e he hn

/-- The two listings answer alike, with all rows of their reply or the first column that is lacking.
The other calls take the first row of a reply in the same way and look at no other. -/
theorem rows_read_whole (limit : Duration) :
    (∀ f script,
      (perform (Command.storeFor .orm) limit (.list f) script).result =
        (perform (Command.storeFor .sql) limit (.list f) script).result) ∧
    (∀ b f d sent rest, f.refusal? = none → d.nanos ≤ limit.nanos →
      ReadsAll sent (perform (Command.storeFor b) limit (.list f)
        (Wire.script (⟨d, .ok sent⟩ :: rest))).result) ∧
    ∀ b c, (∀ f, c ≠ .list f) →
      (∀ script,
        let t := perform (Command.storeFor b) limit c script
        let u := perform (Command.storeFor b) limit c script.firstRows
        u.result = t.result ∧ u.asked = t.asked) ∧
      ∀ (w : Wire) i d s more,
        let t := perform (Command.storeFor b) limit c w.script
        i < t.asked.length → w[i]? = some ⟨d, .ok (s :: more)⟩ →
          delay (w.script.take (i + 1)) ≤ limit.nanos → ReadsFirst b c i s t := by
  refine ⟨fun f script => result_listing_eq f limit script, ?_, ?_⟩
  · intro b f d sent rest h hd
    change ReadsAll sent (perform (Command.storeFor b) limit (.list f)
      (⟨d, .ok (sent.map SentRow.row)⟩ :: Wire.script rest)).result
    rw [result_listing b h hd]
    exact readsAll_received sent
  · intro b c hc
    constructor
    · intro script
      dsimp only
      rw [perform, runWithin_firstRows (takesFirsts_storeFor b hc)]
      exact ⟨rfl, rfl⟩
    · intro w i d s more t hi hw hd
      exact readsFirst_perform hc hi hw hd

def bareRow : SentRow
  | .id => some (some (2 : Int64))
  | .code => some none
  | _ => none

theorem rows_read_whole_bare_row :
    let found : SentRow := fun c => some ((Draft.entry ⟨"A", "first"⟩ .first "clerk").value? c)
    let wire : Wire := [⟨⟨1⟩, .ok [found, bareRow]⟩, ⟨⟨1⟩, .ok [bareRow, found]⟩]
    let t := perform (Command.storeFor .orm) ⟨5⟩ (.delete 1 "clerk") wire.script
    (∀ b, (perform (Command.storeFor b) ⟨5⟩ (.list {}) wire.script).result =
      .error (.database (.nullColumn "code"))) ∧
    t.asked.length = 2 ∧ t.result = .error (.database (.nullColumn "code")) := by
  intro found wire t
  obtain ⟨_, hlist, hcall⟩ := rows_read_whole ⟨5⟩
  have hc : ∀ f, Call.delete 1 "clerk" ≠ .list f := fun f h => by cases h
  constructor
  · intro b
    have hread := hlist b {} ⟨1⟩ [found, bareRow] wire.tail rfl (by decide)
    exact hread.lacking .code rfl
  · have hread := (hcall .orm _ hc).2 wire 1 ⟨1⟩ bareRow [found] (by decide +kernel) rfl
      (by decide +kernel)
    exact hread.lacking .code rfl

end Catalog.Store
