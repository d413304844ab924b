import Catalog.Proofs.Migration.Bracket

namespace Catalog.Migration

variable {σ : Type} {answer : (q : Step) → σ → q.Reply × σ} {st : σ} {s : Statement}
  {ss : List Statement} {events events' : List Event} {e : DatabaseError}

def readRecord : Except DatabaseError Effect → Except DatabaseError (List String)
  | .error e => .error e
  | .ok effect =>
    match effect.rows.mapM VersionRow.decode with
    | .error e => .error e
    | .ok versions =>
      match versions.filter fun v => !isKnown v with
      | [] => .ok versions
      | unknown => .error (.unknownMigrations unknown.eraseDups)

theorem readRecord_of_known {effect : Effect} {versions : List String}
    (hrows : effect.rows.mapM VersionRow.decode = .ok versions)
    (h : ∀ v ∈ versions, isKnown v = true) : readRecord (.ok effect) = .ok versions := by
  have hunknown : (versions.filter fun v => !isKnown v) = [] := by
    rw [List.filter_eq_nil_iff]
    intro v hv
    rw [h v hv]
    exact Bool.false_ne_true
  simp only [readRecord, hrows, hunknown]

theorem readRecord_of_unknown {effect : Effect} {versions : List String}
    (hrows : effect.rows.mapM VersionRow.decode = .ok versions)
    (h : ∃ v ∈ versions, isKnown v = false) : ∃ e, readRecord (.ok effect) = .error e := by
  obtain ⟨v, hv, hunknown⟩ := h
  have hmem : v ∈ versions.filter fun v => !isKnown v := by
    rw [List.mem_filter, hunknown]
    exact ⟨hv, rfl⟩
  simp only [readRecord, hrows]
  split
  · rename_i hnil
    rw [hnil] at hmem
    cases hmem
  · exact ⟨_, rfl⟩

theorem run_checkedVersions : checkedVersions.run =
    .ask (.statement .readVersions) fun (r : Except DatabaseError Effect) =>
      .done (readRecord r) := by
  refine congrArg (Session.ask (Step.statement .readVersions)) (funext fun r => ?_)
  cases r with
  | error e => rfl
  | ok effect =>
    rw [readRecord]
    change Session.bind (.done (effect.rows.mapM VersionRow.decode)) _ = _
    cases effect.rows.mapM VersionRow.decode with
    | error e => rfl
    | ok versions =>
      simp only [Session.bind, ExceptT.bindCont]
      cases versions.filter fun v => !isKnown v <;> rfl

theorem errorOf_readRecord (r : Except DatabaseError Effect) :
    errorOf (readRecord r) = Statement.readVersions.error? r := by
  cases r with
  | error e => rfl
  | ok effect =>
    rw [readRecord, Statement.error?, Effect.unread?]
    cases effect.rows.mapM VersionRow.decode with
    | error e => rfl
    | ok versions =>
      dsimp only
      cases versions.filter fun v => !isKnown v <;> rfl

theorem sends_checkedVersions : checkedVersions.Sends answer st [.readVersions] :=
  sends_of_ask run_checkedVersions errorOf_readRecord

def installing : List Statement := .replicate 4 (.createTable versionTable)

theorem isPlain_createTable (t : Table) : (Statement.createTable t).IsPlain := fun _ => rfl

theorem sends_installs : installs.Sends answer st installing := by
  have hinstall {st : σ} : install.Sends answer st [.createTable versionTable] :=
    sends_send (isPlain_createTable _)
  exact sends_bind hinstall fun _ _ => sends_bind hinstall fun _ _ =>
    sends_bind hinstall fun _ _ => hinstall

theorem sends_openRecord : openRecord.Sends answer st (installing ++ [.readVersions]) :=
  sends_bind sends_installs fun _ _ => sends_checkedVersions

theorem result_openRecord {effect : Effect}
    (h : .statement .readVersions (.ok effect) ∈ log answer st openRecord.run) :
    (openRecord.run.run answer st).result = readRecord (.ok effect) := by
  rw [openRecord, log_bind] at h
  rcases List.mem_append.1 h with h | h
  · have hmem := InTurn.mem_of_sent sends_installs ⟨_, h⟩
    cases List.eq_of_mem_replicate hmem
  · rw [openRecord, run_courseBind]
    split at h
    · rename_i hr
      simp only [run_checkedVersions, log] at h
      simp only [hr, run_checkedVersions, Session.run]
      have hreply := List.mem_singleton.1 h
      exact congrArg readRecord (Event.statement.inj hreply).2.symm
    · cases h

namespace Direction

def schema : Direction → List Statement
  | up => createEntries.up
  | down => createEntries.down

def note : Direction → Statement
  | up => .record createEntries.name
  | down => .erase createEntries.name

/-- Whether there is something to be done in a direction, by the versions on record. -/
def IsDue (versions : List String) : Direction → Prop
  | up => createEntries.name ∉ versions
  | down => createEntries.name ∈ versions

/-- What is done in a direction once the record has been read. -/
def rest (versions : List String) : Direction → Course Unit
  | up => (all.filter fun m => !versions.contains m.name).forM apply
  | down => ((all.filter fun m => versions.contains m.name).reverse.take 1).forM revert

theorem course_eq (d : Direction) : d.course = inTransaction d.body := by
  cases d <;> rfl

theorem body_eq (d : Direction) : d.body = openRecord >>= d.rest := by
  cases d <;> rfl

end Direction

theorem sends_record (version : String) :
    (do let effect ← execute (.record version)
        if effect.written = 0 then throw .notInserted : Course Unit).Sends answer st
      [.record version] := by
  refine sends_of_ask (g := fun r => r.bind fun effect =>
    if effect.written = 0 then .error .notInserted else .ok ()) ?_ fun r => ?_
  · refine congrArg (Session.ask (Step.statement (.record version))) (funext fun r => ?_)
    cases r with
    | error e => rfl
    | ok effect =>
      simp only [Session.bind, ExceptT.bindCont, Except.bind]
      split <;> rfl
  · cases r with
    | error e => rfl
    | ok effect =>
      simp only [Except.bind, Statement.error?]
      split <;> rfl

theorem sends_apply {m : Revision} (hm : ∀ s ∈ m.up, s.IsPlain) :
    (apply m).Sends answer st (m.up ++ [.record m.name]) :=
  sends_bind (sends_executeAll hm) fun _ _ => sends_record m.name

theorem sends_revert {m : Revision} (hm : ∀ s ∈ m.down, s.IsPlain) :
    (revert m).Sends answer st (m.down ++ [.erase m.name]) :=
  sends_bind (sends_executeAll hm) fun _ _ => sends_send fun _ => rfl

theorem sends_forM_singleton {m : Revision} {f : Revision → Course Unit}
    (h : (f m).Sends answer st ss) : ([m].forM f).Sends answer st ss := by
  have hall := sends_bind (f := fun _ => pure ()) h fun _ _ => sends_pure ()
  rwa [List.append_nil] at hall

namespace Direction

variable {versions : List String} {d : Direction}

theorem isPlain_schema : ∀ s ∈ d.schema, s.IsPlain := by
  cases d with
  | up =>
    intro s hs
    rcases List.mem_cons.1 hs with rfl | hs
    · exact fun _ => rfl
    · cases List.mem_singleton.1 hs
      exact fun _ => rfl
  | down =>
    intro s hs
    cases List.mem_singleton.1 hs
    exact fun _ => rfl

theorem sends_rest (h : d.IsDue versions) :
    (d.rest versions).Sends answer st (d.schema ++ [d.note]) := by
  cases d with
  | up =>
    have hfilter : (all.filter fun m => !versions.contains m.name) = [createEntries] := by
      simpa [all, IsDue] using h
    rw [rest, hfilter]
    exact sends_forM_singleton (sends_apply (isPlain_schema (d := up)))
  | down =>
    have hfilter : (all.filter fun m => versions.contains m.name) = [createEntries] := by
      simpa [all, IsDue] using h
    rw [rest, hfilter]
    exact sends_forM_singleton (sends_revert (isPlain_schema (d := down)))

theorem rest_of_not_isDue (h : ¬d.IsDue versions) : d.rest versions = pure () := by
  cases d with
  | up =>
    have hfilter : (all.filter fun m => !versions.contains m.name) = [] := by
      simpa [all, IsDue] using h
    rw [rest, hfilter]
    rfl
  | down =>
    have hfilter : (all.filter fun m => versions.contains m.name) = [] := by
      simpa [all, IsDue] using h
    rw [rest, hfilter]
    rfl

theorem nodup_statements : (d.schema ++ [d.note]).Nodup := by
  cases d with
  | up => simp [schema, note, createEntries]
  | down => simp [schema, note, createEntries]

end Direction

theorem entryTable_ne : entryTable ≠ versionTable := by
  intro h
  exact absurd (congrArg Table.name h) (by decide)

theorem notMem_installing
    (hs : s ∈ createEntries.up ++ createEntries.down ++ [Direction.up.note, Direction.down.note]) :
    s ∉ installing ++ [.readVersions] := by
  intro h
  simp only [createEntries, Direction.note, List.cons_append, List.nil_append, List.mem_cons,
    List.not_mem_nil, or_false] at hs
  rcases List.mem_append.1 h with h | h
  · cases List.eq_of_mem_replicate h
    rcases hs with hs | hs | hs | hs | hs
    · exact entryTable_ne (Statement.createTable.inj hs).symm
    all_goals cases hs
  · cases List.mem_singleton.1 h
    rcases hs with hs | hs | hs | hs | hs
    all_goals cases hs

/-- Whether statements on the schema are sent if and only if that is due, each once those before it
have been carried out, and the statement on the record after all of them. -/
structure Carried (schema : List Statement) (note : Statement) (isDue : Prop)
    (events : List Event) : Prop where
  schema_iff : ∀ before s after, schema = before ++ s :: after →
    (Sent s events ↔ isDue ∧ ∀ s' ∈ before, Done s' events)
  note_iff : Sent note events ↔ ∀ s ∈ schema, Done s events

namespace Direction

variable {versions : List String} {d : Direction} {e? : Option DatabaseError}

theorem carried_of_inTurn (h : InTurn (d.schema ++ [d.note]) events e?) (hdue : d.IsDue versions) :
    Carried d.schema d.note (d.IsDue versions) events where
  schema_iff before s after hschema := by
    have hplain : ∀ s' ∈ before, s'.IsPlain := fun s' hs' =>
      isPlain_schema s' (hschema ▸ List.mem_append_left _ hs')
    have hsplit : d.schema ++ [d.note] = before ++ s :: (after ++ [d.note]) := by
      rw [hschema, List.append_assoc, List.cons_append]
    rw [and_iff_right hdue]
    exact InTurn.sent_iff (hsplit ▸ h) hplain (hsplit ▸ nodup_statements)
  note_iff := h.sent_iff isPlain_schema nodup_statements

theorem carried_nil (hdue : ¬d.IsDue versions) :
    Carried d.schema d.note (d.IsDue versions) [] where
  schema_iff _ _ _ _ := iff_of_false (fun ⟨_, h⟩ => nomatch h) fun h => hdue h.1
  note_iff := by
    refine iff_of_false (fun ⟨_, h⟩ => nomatch h) fun h => ?_
    have hne : d.schema ≠ [] := by
      cases d <;> exact List.cons_ne_nil _ _
    obtain ⟨s, hs⟩ := List.exists_mem_of_ne_nil _ hne
    obtain ⟨_, hdone⟩ := h s hs
    cases hdone

end Direction

theorem Carried.congr {schema : List Statement} {note : Statement} {isDue : Prop}
    (h : ∀ s ∈ schema ++ [note], ∀ r, .statement s r ∈ events ↔ .statement s r ∈ events')
    (hc : Carried schema note isDue events') : Carried schema note isDue events := by
  have hsent {s : Statement} (hs : s ∈ schema ++ [note]) : Sent s events ↔ Sent s events' :=
    exists_congr fun r => h s hs r
  have hdone {s : Statement} (hs : s ∈ schema) : Done s events ↔ Done s events' :=
    exists_congr fun effect => h s (List.mem_append_left _ hs) _
  constructor
  · intro before s after hschema
    have hs : s ∈ schema := hschema ▸ List.mem_append_right _ List.mem_cons_self
    rw [hsent (List.mem_append_left _ hs), hc.schema_iff before s after hschema]
    refine and_congr_right' (forall₂_congr fun s' hs' => (hdone ?_).symm)
    exact hschema ▸ List.mem_append_left _ hs'
  · rw [hsent (List.mem_append_right _ List.mem_cons_self), hc.note_iff]
    exact forall₂_congr fun s hs => (hdone hs).symm

section Record

variable {versions : List String} {d : Direction} {effect : Effect}

theorem mem_of_sent_rest (h : Sent s (log answer st (d.rest versions).run)) :
    s ∈ d.schema ++ [d.note] := by
  by_cases hdue : d.IsDue versions
  · exact InTurn.mem_of_sent (Direction.sends_rest hdue) h
  · rw [Direction.rest_of_not_isDue hdue] at h
    obtain ⟨_, h⟩ := h
    cases h

theorem statements_subset : d.schema ++ [d.note] ⊆
    createEntries.up ++ createEntries.down ++ [Direction.up.note, Direction.down.note] := by
  cases d <;> simp [Direction.schema]

theorem exists_sends_body (answer : (q : Step) → σ → q.Reply × σ) (st : σ) (d : Direction) :
    ∃ ss, d.body.Sends answer st ss := by
  have hrest : ∃ ss, ∀ versions, (openRecord.run.run answer st).result = .ok versions →
      (d.rest versions).Sends answer (openRecord.run.run answer st).state ss := by
    cases (openRecord.run.run answer st).result with
    | error e => exact ⟨[], fun _ h => nomatch h⟩
    | ok versions =>
      by_cases hdue : d.IsDue versions
      · refine ⟨d.schema ++ [d.note], ?_⟩
        rintro _ ⟨⟩
        exact Direction.sends_rest hdue
      · refine ⟨[], ?_⟩
        rintro _ ⟨⟩
        rw [Direction.rest_of_not_isDue hdue]
        exact sends_pure ()
  obtain ⟨ss, hss⟩ := hrest
  rw [Direction.body_eq]
  exact ⟨_, sends_bind sends_openRecord hss⟩

theorem bracketed_course (d : Direction) :
    Bracketed (log answer st d.course.run) (d.course.run.run answer st).result := by
  obtain ⟨ss, hsends⟩ := exists_sends_body answer (answer .begin st).2 d
  rw [d.course_eq]
  exact bracketed_inTransaction hsends

theorem result_of_read
    (h : .statement .readVersions (.ok effect) ∈ log answer st d.body.run) :
    (openRecord.run.run answer st).result = readRecord (.ok effect) := by
  rw [Direction.body_eq, log_bind] at h
  rcases List.mem_append.1 h with h | h
  · exact result_openRecord h
  · split at h
    · have hmem := notMem_installing (statements_subset (mem_of_sent_rest ⟨_, h⟩))
      exact absurd (List.mem_append_right _ List.mem_cons_self) hmem
    · cases h

theorem carried_body (h : (openRecord.run.run answer st).result = .ok versions) :
    Carried d.schema d.note (d.IsDue versions) (log answer st d.body.run) := by
  have hrest : Carried d.schema d.note (d.IsDue versions)
      (log answer (openRecord.run.run answer st).state (d.rest versions).run) := by
    by_cases hdue : d.IsDue versions
    · exact Direction.carried_of_inTurn (Direction.sends_rest hdue) hdue
    · rw [Direction.rest_of_not_isDue hdue]
      exact Direction.carried_nil hdue
  refine hrest.congr fun s hs r => ?_
  simp only [Direction.body_eq, log_bind, h, List.mem_append]
  refine or_iff_right fun hr => ?_
  exact notMem_installing (statements_subset hs) (InTurn.mem_of_sent sends_openRecord ⟨r, hr⟩)

theorem stopped_body (h : (openRecord.run.run answer st).result = .error e) :
    (d.body.run.run answer st).result = .error e ∧
      ∀ s ∈ createEntries.up ++ createEntries.down, ¬Sent s (log answer st d.body.run) := by
  simp only [Direction.body_eq, run_courseBind, log_bind, h, List.append_nil, true_and]
  intro s hs hsent
  exact notMem_installing (List.mem_append_left _ hs) (InTurn.mem_of_sent sends_openRecord hsent)

theorem mem_log_course_iff {r : Except DatabaseError Effect} :
    .statement s r ∈ log answer st d.course.run ↔ (answer .begin st).1 = .ok () ∧
      .statement s r ∈ log answer (answer .begin st).2 d.body.run := by
  rw [d.course_eq, mem_log_inTransaction_iff]

theorem carried_course (hread : .statement .readVersions (.ok effect) ∈ log answer st d.course.run)
    (hrows : effect.rows.mapM VersionRow.decode = .ok versions)
    (hknown : ∀ v ∈ versions, isKnown v = true) :
    Carried d.schema d.note (d.IsDue versions) (log answer st d.course.run) := by
  obtain ⟨hbegin, hread⟩ := mem_log_course_iff.1 hread
  have hopened := result_of_read hread
  rw [readRecord_of_known hrows hknown] at hopened
  refine (carried_body hopened).congr fun s _ r => ?_
  rw [mem_log_course_iff, and_iff_right hbegin]

theorem stopped_course (hread : .statement .readVersions (.ok effect) ∈ log answer st d.course.run)
    (hrows : effect.rows.mapM VersionRow.decode = .ok versions)
    (hunknown : ∃ v ∈ versions, isKnown v = false) :
    (∃ e, (d.course.run.run answer st).result = .error e) ∧
      ∀ s ∈ createEntries.up ++ createEntries.down, ¬Sent s (log answer st d.course.run) := by
  obtain ⟨_, hread⟩ := mem_log_course_iff.1 hread
  have hopened := result_of_read hread
  obtain ⟨e, he⟩ := readRecord_of_unknown hrows hunknown
  rw [he] at hopened
  obtain ⟨hstopped, hsilent⟩ := stopped_body (d := d) hopened
  constructor
  · rw [d.course_eq]
    exact result_inTransaction hstopped
  · rintro s hs ⟨r, hr⟩
    exact hsilent s hs ⟨r, (mem_log_course_iff.1 hr).2⟩

end Record

def flagged (versions : List String) : List (String × Bool) :=
  all.map fun m => (m.name, decide (m.name ∈ versions))

theorem flagged_congr {versions versions' : List String}
    (h : ∀ v, isKnown v = true → (v ∈ versions ↔ v ∈ versions')) :
    flagged versions = flagged versions' := by
  refine List.map_congr_left fun m hm => ?_
  have hknown : isKnown m.name = true := List.any_eq_true.2 ⟨m, hm, beq_self_eq_true _⟩
  rw [decide_eq_decide.2 (h m.name hknown)]

theorem run_status : status.run =
    .ask (.statement .listVersions) fun (r : Except DatabaseError Effect) =>
      .done (r.bind fun effect => (effect.rows.mapM VersionRow.decode).map flagged) := by
  refine congrArg (Session.ask (Step.statement .listVersions)) (funext fun r => ?_)
  cases r with
  | error e => rfl
  | ok effect =>
    change Session.bind (.done (effect.rows.mapM VersionRow.decode)) _ =
      .done ((effect.rows.mapM VersionRow.decode).map flagged)
    cases effect.rows.mapM VersionRow.decode with
    | error e => rfl
    | ok versions =>
      refine congrArg (fun shown => Session.done (Except.ok shown)) ?_
      exact List.map_congr_left fun m _ => congrArg (m.name, ·) (List.elem_eq_mem ..)

theorem result_status_of_reply {effect : Effect} {versions : List String}
    (hreply : (answer (.statement .listVersions) st).1 = .ok effect)
    (hrows : effect.rows.mapM VersionRow.decode = .ok versions) :
    (status.run.run answer st).result = .ok (flagged versions) := by
  rw [run_status]
  change (Except.bind (answer (.statement .listVersions) st).1 _ : Except _ _) = _
  rw [hreply]
  change (effect.rows.mapM VersionRow.decode).map flagged = _
  rw [hrows]
  rfl

/-- Whatever the replies are, an attempt to migrate is a transaction between its bounds, with nothing
done after an error in it; with replies from a script it ends with the end that it asks for. Once
the record has been read, the statements of the migration are sent as it says, and none of them if
it has an unknown version in it. The status goes by the known versions on record alone. -/
theorem transactions_bracketed (answer : (q : Step) → σ → q.Reply × σ) (st : σ) :
    (∀ d : Direction,
      let events := log answer st d.course.run
      let t := d.course.run.run answer st
      events.map Event.step = t.asked ∧ Bracketed events t.result ∧
      (∀ script, let asked := (perform d.course script).asked
        .commit ∈ asked → ∃ before, asked = before ++ [.commit] ∧ .commit ∉ before) ∧
      ∀ effect versions, .statement .readVersions (.ok effect) ∈ events →
        effect.rows.mapM VersionRow.decode = .ok versions →
        ((∀ v ∈ versions, isKnown v = true) →
          Carried d.schema d.note (d.IsDue versions) events) ∧
        ((∃ v ∈ versions, isKnown v = false) → (∃ e, t.result = .error e) ∧
          ∀ s ∈ createEntries.up ++ createEntries.down, ¬Sent s events)) ∧
    ∀ effect versions, (answer (.statement .listVersions) st).1 = .ok effect →
      effect.rows.mapM VersionRow.decode = .ok versions →
      ∀ versions', (∀ v, isKnown v = true → (v ∈ versions ↔ v ∈ versions')) →
        (status.run.run answer st).result = .ok (flagged versions') := by
  constructor
  · intro d events t
    refine ⟨map_step_log _, bracketed_course d, fun script => ?_, ?_⟩
    · have hasked : (perform d.course script).asked =
          (log Script.answer script d.course.run).map Event.step := (map_step_log _).symm
      rw [hasked]
      exact (bracketed_course d).commit_last (commit_ok_of_script _ script)
    · intro effect versions hread hrows
      exact ⟨carried_course hread hrows, stopped_course hread hrows⟩
  · intro effect versions hreply hrows versions' hsame
    rw [← flagged_congr hsame]
    exact result_status_of_reply hreply hrows

end Catalog.Migration
