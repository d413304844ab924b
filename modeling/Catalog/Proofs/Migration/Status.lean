import Catalog.Proofs.Migration.Record

namespace Catalog.Migration

variable {db : Database} {faults : Faults}

def Attempt.results : Connection → List Attempt → List (Except DatabaseError Unit)
  | _, [] => []
  | c, a :: as => (a.via c).result :: results (a.after c) as

theorem Direction.Reaches.hasTable {d : Direction} (h : d.Reaches db) :
    db.hasTable versionTable.name = true := by
  cases d with
  | up =>
    obtain ⟨time, rfl⟩ := h
    rfl
  | down =>
    cases h
    rfl

theorem hasTable_afterAll_iff (h : db.IsSettled) (as : List Attempt) :
    (Attempt.afterAll (.idle db) as).db.hasTable versionTable.name = true ↔
      db.hasTable versionTable.name = true ∨ .ok () ∈ Attempt.results (.idle db) as := by
  induction as generalizing db with
  | nil => exact (or_iff_left List.not_mem_nil).symm
  | cons a as ih =>
    rw [Attempt.afterAll, List.foldl_cons, ← Attempt.afterAll, Attempt.results, List.mem_cons]
    rcases a.after_isSettled h with ⟨hresult, db', hafter, hreaches⟩ | ⟨⟨e, hresult⟩, hafter⟩
    · rw [hafter, ih hreaches.isSettled, hresult]
      exact iff_of_true (.inl hreaches.hasTable) (.inr (.inl rfl))
    · have hne : Except.ok () ≠ Except.error e := by
        intro h
        cases h
      rw [hafter, ih h, hresult]
      exact or_congr_right (or_iff_right hne).symm

theorem result_status (time now : Int64) (hfaults : ∀ f ∈ faults, f = none) :
    (status.via now faults (.idle .empty)).result = .error (undefinedTable versionTable.name) ∧
    (status.via now faults (.idle .installed)).result = .ok [(createEntries.name, false)] ∧
    (status.via now faults (.idle (.migrated time))).result = .ok [(createEntries.name, true)] := by
  cases faults with
  | nil => exact ⟨rfl, rfl, rfl⟩
  | cons f faults =>
    cases hfaults f List.mem_cons_self
    exact ⟨rfl, rfl, rfl⟩

/-- Whether a list of flags tells of all migrations, each once and in their order, if they are in
force. -/
structure Tells (db : Database) (shown : List (String × Bool)) : Prop where
  names : shown.map Prod.fst = all.map Revision.name
  nodup : (shown.map Prod.fst).Nodup
  flags : ∀ m ∈ all, ∀ flag, (m.name, flag) ∈ shown → (flag = true ↔ m.InForce db)

theorem tells_singleton {flag : Bool} (h : flag = true ↔ createEntries.InForce db) :
    Tells db [(createEntries.name, flag)] where
  names := rfl
  nodup := List.nodup_singleton _
  flags := by
    intro m hm flag' hflag
    cases List.mem_singleton.1 hm
    cases List.mem_singleton.1 hflag
    exact h

/-- The status can be read exactly if an attempt to migrate has succeeded before, and then it tells
of all migrations if they are in force. -/
theorem status_available_iff (as : List Attempt) (now : Int64)
    (hfaults : ∀ f ∈ faults, f = none) :
    let c := Attempt.afterAll (.idle .empty) as
    let result := (status.via now faults c).result
    ((∃ shown, result = .ok shown) ↔ .ok () ∈ Attempt.results (.idle .empty) as) ∧
      ∀ shown, result = .ok shown → Tells c.db shown := by
  have hsucceeded := hasTable_afterAll_iff isSettled_empty as
  rw [or_iff_right (by decide)] at hsucceeded
  obtain ⟨db, hc, hdb⟩ := Attempt.afterAll_isSettled isSettled_empty as
  rw [hc] at hsucceeded ⊢
  dsimp only
  rw [← hsucceeded]
  rcases hdb with (rfl | rfl) | ⟨time, rfl⟩
  · rw [(result_status 0 now hfaults).1]
    exact ⟨iff_of_false (fun ⟨_, h⟩ => nomatch h) (by decide), fun _ h => nomatch h⟩
  · rw [(result_status 0 now hfaults).2.1]
    refine ⟨iff_of_true ⟨_, rfl⟩ rfl, ?_⟩
    rintro _ ⟨⟩
    have hlacks : Database.installed.LacksEntries := lacksEntries_of_isBare (.inr rfl)
    exact tells_singleton (iff_of_false Bool.false_ne_true (not_inForce_of_lacksEntries hlacks))
  · rw [(result_status time now hfaults).2.2]
    refine ⟨iff_of_true ⟨_, rfl⟩ rfl, ?_⟩
    rintro _ ⟨⟩
    exact tells_singleton (iff_of_true rfl inForce_migrated)

/-- The index cannot be made at first, and then all goes well. -/
theorem status_after_second_attempt :
    let full : DatabaseError := .execution "No space left on device"
    let first : Attempt := ⟨.up, 100, .replicate 7 none ++ [some full]⟩
    let second : Attempt := ⟨.up, 200, []⟩
    let c := Attempt.afterAll (.idle .empty) [first, second]
    (first.via (.idle .empty)).result = .error full ∧ (∀ f ∈ ([] : Faults), f = none) ∧
      ∃ shown, (status.via 300 [] c).result = .ok shown ∧ Tells c.db shown := by
  intro full first second c
  have hfirst : (first.via (.idle .empty)).result = .error full := by decide +kernel
  have hnone : ∀ f ∈ ([] : Faults), f = none := fun _ h => nomatch h
  obtain ⟨db, hafter, hdb⟩ := Attempt.afterAll_isSettled isSettled_empty [first]
  have hsecond : (second.via (first.after (.idle .empty))).result = .ok () := by
    change (second.via (Attempt.afterAll (.idle .empty) [first])).result = .ok ()
    rw [hafter]
    exact second.result_of_faultless hdb hnone
  have hmem : .ok () ∈ Attempt.results (.idle .empty) [first, second] :=
    List.mem_cons_of_mem _ (List.mem_singleton.2 hsecond.symm)
  obtain ⟨hiff, htells⟩ := status_available_iff [first, second] 300 hnone
  obtain ⟨shown, hshown⟩ := hiff.2 hmem
  exact ⟨hfirst, hnone, shown, hshown, htells shown hshown⟩

/-- On a database that nothing has been done to, the status cannot be read. -/
theorem status_unavailable_at_first :
    ¬∃ shown, (status.via 0 [] (Attempt.afterAll (.idle .empty) [])).result = .ok shown := by
  rintro ⟨_, ⟨⟩⟩

end Catalog.Migration
