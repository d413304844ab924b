import Catalog.Proofs.Migration.Attempt

namespace Catalog.Migration

variable {db : Database} {time : Int64}

/-- Whether nothing is there of what the migration makes. -/
def Database.LacksEntries (db : Database) : Prop :=
  db.hasTable entryTable.name = false ∧ ∀ i ∈ db.indexes, i.table ≠ entryTable.name

theorem records_of_isBare (h : db.IsBare) : db.records createEntries.name = false := by
  rcases h with rfl | rfl
  · rfl
  · rfl

theorem lacksEntries_of_isBare (h : db.IsBare) : db.LacksEntries := by
  rcases h with rfl | rfl
  · exact ⟨rfl, fun _ h => nomatch h⟩
  · exact ⟨rfl, fun _ h => nomatch h⟩

theorem records_migrated : (Database.migrated time).records createEntries.name = true := rfl

theorem inForce_migrated : createEntries.InForce (.migrated time) :=
  inForce_createEntries.2 ⟨List.mem_cons_of_mem _ List.mem_cons_self, List.mem_cons_self⟩

theorem hasTable_of_mem {t : Table} (h : t ∈ db.tables) : db.hasTable t.name = true := by
  rw [Database.hasTable, Database.table?, List.find?_isSome]
  exact ⟨t, h, beq_self_eq_true _⟩

theorem not_inForce_of_lacksEntries (h : db.LacksEntries) : ¬createEntries.InForce db := by
  intro hforce
  have htable := hasTable_of_mem (inForce_createEntries.1 hforce).1
  rw [h.1] at htable
  cases htable

theorem isSettled_cases (h : db.IsSettled) :
    (db.records createEntries.name = true ∧ createEntries.InForce db) ∨
      db.records createEntries.name = false ∧ db.LacksEntries := by
  rcases h with h | ⟨time, rfl⟩
  · exact .inr ⟨records_of_isBare h, lacksEntries_of_isBare h⟩
  · exact .inl ⟨records_migrated, inForce_migrated⟩

theorem records_iff (h : db.IsSettled) :
    db.records createEntries.name = true ↔ createEntries.InForce db := by
  rcases isSettled_cases h with ⟨hrecords, hforce⟩ | ⟨hrecords, hlacks⟩
  · exact iff_of_true hrecords hforce
  · exact iff_of_false (Bool.eq_false_iff.1 hrecords) (not_inForce_of_lacksEntries hlacks)

theorem records_eq_false_iff (h : db.IsSettled) :
    db.records createEntries.name = false ↔ db.LacksEntries := by
  rcases isSettled_cases h with ⟨hrecords, hforce⟩ | ⟨hrecords, hlacks⟩
  · exact iff_of_false (fun h => Bool.false_ne_true (h.symm.trans hrecords)) fun h =>
      not_inForce_of_lacksEntries h hforce
  · exact iff_of_true hrecords hlacks

theorem notMem_opening {s : Statement} (h : s ∈ createEntries.up ++ createEntries.down) :
    .statement s ∉ opening := by
  intro hs
  have hopening : s = .createTable versionTable ∨ s = .readVersions := by
    rcases List.mem_append.1 hs with hs | hs
    · exact .inl (Step.statement.inj (List.eq_of_mem_replicate hs))
    · exact .inr (Step.statement.inj (List.mem_singleton.1 hs))
  rcases hopening with rfl | rfl
  · rcases List.mem_cons.1 h with h | h
    · have hname := congrArg Table.name (Statement.createTable.inj h)
      exact absurd hname (by decide)
    · rcases List.mem_cons.1 h with h | h
      · cases h
      · cases List.mem_singleton.1 h
  · rcases List.mem_cons.1 h with h | h
    · cases h
    · rcases List.mem_cons.1 h with h | h
      · cases h
      · cases List.mem_singleton.1 h

theorem via_migrated {a : Attempt} (ha : a.direction = .up) (time : Int64) :
    a.after (.idle (.migrated time)) = .idle (.migrated time) ∧
      ∀ s, .statement s ∈ (a.via (.idle (.migrated time))).asked → .statement s ∈ opening := by
  rw [Attempt.after, Attempt.via_eq, ha, Direction.body]
  obtain ⟨hasked, houtcome, _⟩ :=
    via_inTransaction plain_applyPending a.now a.faults (.migrated time)
  rw [applyPending_migrated] at hasked houtcome
  refine ⟨?_, hasked⟩
  rcases houtcome with ⟨_, _, _, hstate⟩ | ⟨_, hstate⟩
  · exact hstate
  · exact hstate

theorem withRecord_of_isBare (h : db.IsBare) : db.withRecord = .installed := by
  rcases h with rfl | rfl
  · rfl
  · rfl

theorem after_down_of_isBare {a : Attempt} (ha : a.direction = .down) (h : db.IsBare)
    (hfaults : ∀ f ∈ a.faults, f = none) : a.after (.idle db) = .idle db.withRecord := by
  obtain ⟨db', hafter, hreaches⟩ :=
    a.reaches_of_ok (.inl h) (a.result_of_faultless (.inl h) hfaults)
  rw [ha] at hreaches
  rw [hafter, withRecord_of_isBare h, hreaches]

/-- After any attempts, whatever failed in them, no transaction is left open, and the migration is on
record exactly if its table and index are there. An attempt to apply it again then does nothing to
them and sends none of its statements. One that succeeds in applying it or in taking it back has
done so, in particular one right after the other, and all succeed if nothing fails. -/
theorem record_goes_with_schema (as : List Attempt) :
    let c := Attempt.afterAll (.idle .empty) as
    let isRecorded := c.db.records createEntries.name
    c.transaction = .none ∧
      (isRecorded = true ↔ createEntries.InForce c.db) ∧
      (isRecorded = false ↔ c.db.LacksEntries) ∧
      (∀ a : Attempt, a.direction = .up → isRecorded = true → a.after c = c ∧
        ∀ s ∈ createEntries.up ++ createEntries.down, .statement s ∉ (a.via c).asked) ∧
      (∀ a : Attempt, a.direction = .up → (a.via c).result = .ok () →
        (a.after c).db.records createEntries.name = true ∧ createEntries.InForce (a.after c).db) ∧
      (∀ a : Attempt, a.direction = .down → (a.via c).result = .ok () →
        (a.after c).db.records createEntries.name = false ∧ (a.after c).db.LacksEntries) ∧
      (∀ a : Attempt, (∀ f ∈ a.faults, f = none) → (a.via c).result = .ok () ∧
        (a.direction = .down → isRecorded = false → a.after c = .idle c.db.withRecord)) := by
  obtain ⟨db, hc, hdb⟩ := Attempt.afterAll_isSettled isSettled_empty as
  rw [hc]
  refine ⟨rfl, records_iff hdb, records_eq_false_iff hdb, ?_, ?_, ?_, ?_⟩
  · intro a ha hrecords
    -- settled with the migration on record is migrated
    rcases hdb with h | ⟨time, rfl⟩
    · cases hrecords.symm.trans (records_of_isBare h)
    · obtain ⟨hafter, hasked⟩ := via_migrated ha time
      exact ⟨hafter, fun s hs hmem => notMem_opening hs (hasked s hmem)⟩
  · intro a ha h
    obtain ⟨db', hafter, hreaches⟩ := a.reaches_of_ok hdb h
    rw [ha] at hreaches
    obtain ⟨time, rfl⟩ := hreaches
    rw [hafter]
    exact ⟨records_migrated, inForce_migrated⟩
  · intro a ha h
    obtain ⟨db', hafter, hreaches⟩ := a.reaches_of_ok hdb h
    rw [ha] at hreaches
    have hbare : db'.IsBare := .inr hreaches
    rw [hafter]
    exact ⟨records_of_isBare hbare, lacksEntries_of_isBare hbare⟩
  · intro a hfaults
    refine ⟨a.result_of_faultless hdb hfaults, fun ha hrecords => ?_⟩
    rcases hdb with h | ⟨time, rfl⟩
    · exact after_down_of_isBare ha h hfaults
    · cases hrecords

end Catalog.Migration
