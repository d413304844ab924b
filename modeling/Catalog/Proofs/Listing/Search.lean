import Catalog.Proofs.Listing.Agreement
import Catalog.Proofs.Sql.Like

namespace Catalog.Store

open Sql Catalog.Filter

variable {f : Filter} {raw : String} {like : String → String → Bool} {s : Stamp} {e : Entry}
  {F : Folding}

theorem meets_selection_iff (b : Backend) (hs : f.value .search = some raw)
    (he : e.isActive = true) :
    meetsAll like s (selection b f).conditions e = true ↔
      like ("%" ++ raw ++ "%") e.code = true ∨ like ("%" ++ raw ++ "%") e.text = true := by
  have h : meetsAll like s (selection b f).conditions = f.selects like := by
    cases b with
    | orm => exact meetsAll_selection fun _ => rfl
    | sql => exact meetsAll_selection fun _ => rfl
  rw [h, selects, hs, he, Option.all_some, Bool.true_and, Bool.or_eq_true]

/-- An active entry whose code and text are like the pattern of a search text, and without that text
in them if it has a sign. -/
def decoyEntry (raw : String) : Entry where
  id := 1
  code := .ofList (Folding.decoy false raw.toList)
  text := .ofList (Folding.decoy false raw.toList)
  createdAt := Stamp.first.time
  createdBy := "clerk"
  updatedAt := none
  updatedBy := none
  deletedAt := none
  deletedBy := none
  uuid := Stamp.first.uuid

/-- Either store finds the active entries that have a part like the search text, unless that text
ends in an open escape. These are the entries that have the text itself in them, for every table,
just if the text has no sign in it. -/
theorem search_literal_iff (F : Folding) (b : Backend) (hs : f.search = some raw) (hr : raw ≠ "")
    (h : f.refusal? = none) :
    ∃ (q : Request) (selected : Select Value),
      (Command.storeFor b (.list f)).run = .ask q (fun reply => .done (received reply)) ∧
      q.bound? = some (.select selected) ∧
      (endsEscaped false raw.toList = false → ∀ s e, e.isActive = true →
        (meetsAll F.ilike s selected.conditions e = true ↔
          F.Finds raw e.code ∨ F.Finds raw e.text)) ∧
      ((∀ s e, e.isActive = true →
        (meetsAll F.ilike s selected.conditions e = true ↔
          F.Contains e.code raw ∨ F.Contains e.text raw)) ↔
        ∀ c ∈ raw.toList, isSign c = false) := by
  have hvalue : f.value .search = some raw := by
    rw [value, hs, Option.filter_some, bne_iff_ne.2 hr]
    rfl
  obtain ⟨q, hrun, hbound⟩ := run_listing b h
  refine ⟨q, selection b f, hrun, hbound, ?_, ?_, ?_⟩
  · intro hopen s e he
    rw [meets_selection_iff b hvalue he, Folding.ilike_around_iff hopen,
      Folding.ilike_around_iff hopen]
  · intro hliteral c hc
    -- with a sign in the text there is an entry that is found and does not have it
    by_contra hsign
    rw [Bool.not_eq_false] at hsign
    have hmeets : meetsAll F.ilike Stamp.first (selection b f).conditions (decoyEntry raw) = true :=
      (meets_selection_iff b hvalue rfl).2 (.inl Folding.ilike_decoy)
    rcases (hliteral Stamp.first (decoyEntry raw) rfl).1 hmeets with hpart | hpart
    · exact Folding.not_contains_decoy ⟨c, hc, hsign⟩ hpart
    · exact Folding.not_contains_decoy ⟨c, hc, hsign⟩ hpart
  · intro hplain s e he
    have hopen := endsEscaped_of_plain hplain
    rw [meets_selection_iff b hvalue he, Folding.ilike_around_iff hopen,
      Folding.ilike_around_iff hopen, Folding.finds_iff_contains hplain,
      Folding.finds_iff_contains hplain]

theorem search_literal_iff_plain :
    let f : Filter := { search := some "TEAPOT", limit := some "5" }
    f.search = some "TEAPOT" ∧ "TEAPOT" ≠ "" ∧ f.refusal? = none ∧
      ∃ (q : Request) (selected : Select Value),
        (Command.storeFor .sql (.list f)).run = .ask q (fun reply => .done (received reply)) ∧
        q.bound? = some (.select selected) ∧
        ∀ s e, e.isActive = true →
          (meetsAll Folding.ascii.ilike s selected.conditions e = true ↔
            Folding.ascii.Contains e.code "TEAPOT" ∨ Folding.ascii.Contains e.text "TEAPOT") := by
  intro f
  have hrefusal : f.refusal? = none := by decide +kernel
  obtain ⟨q, selected, hrun, hbound, _, hliteral⟩ :=
    search_literal_iff (f := f) Folding.ascii .sql rfl (by decide) hrefusal
  have hplain : "TEAPOT".toList.any isSign = false := by decide +kernel
  exact ⟨rfl, by decide, hrefusal, q, selected, hrun, hbound, hliteral.2 fun c hc =>
    Bool.eq_false_iff.2 (List.any_eq_false.1 hplain c hc)⟩

/-- A search for `5%` finds the code `A50`, over either store. -/
theorem search_finds_another_text :
    let f : Filter := { search := some "5%" }
    let e : Entry := { decoyEntry "" with code := "A50", text := "first" }
    e.isActive = true ∧
      (∃ q : Request, (Mapped.list f).run = .ask q (fun reply => .done (received reply)) ∧
        q.bound? = some (.select (Mapped.selection f))) ∧
      (∃ q : Request, (Written.list f).run = .ask q (fun reply => .done (received reply)) ∧
        q.bound? = some (.select (Written.selection f))) ∧
      meetsAll Folding.ascii.ilike Stamp.first (Mapped.selection f).conditions e = true ∧
      meetsAll Folding.ascii.ilike Stamp.first (Written.selection f).conditions e = true ∧
      ¬ (Folding.ascii.Contains e.code "5%" ∨ Folding.ascii.Contains e.text "5%") := by
  intro f e
  have hrefusal : f.refusal? = none := rfl
  exact ⟨rfl, run_listing .orm hrefusal, run_listing .sql hrefusal, by decide +kernel,
    by decide +kernel, by decide +kernel⟩

end Catalog.Store
