import Catalog.Proofs.Text.Letter
import Mathlib.Data.List.Infix

namespace Catalog.Sql

def isSign (c : Char) : Bool := c = '%' || c = '_' || c = '\\'

/-- A way to tell characters from each other but letters not by their case. Signs are no letters. -/
structure Folding where
  fold : Char → Char
  eq_of_isSign : ∀ c d, isSign c = true → fold c = fold d → c = d

/-- What a pattern asks for at one place: one character, which may be a given one, or any run. -/
inductive Glyph where
  | one (c? : Option Char)
  | run

def Glyph.of (c : Char) : Glyph :=
  if c = '%' then run else if c = '_' then one none else one (some c)

/-- What a pattern asks for, `escaped` if it is read on from behind a backslash. The database
refuses a pattern that ends there, and here that backslash is left out. -/
def glyphs (escaped : Bool) : List Char → List Glyph
  | [] => []
  | c :: cs =>
    if escaped then .one (some c) :: glyphs false cs
    else if c = '\\' then glyphs true cs
    else .of c :: glyphs false cs

/-- Whether a pattern ends behind a backslash that is to make what comes next stand for itself. -/
def endsEscaped (escaped : Bool) : List Char → Bool
  | [] => escaped
  | c :: cs => endsEscaped (!escaped && c = '\\') cs

theorem glyphs_append (escaped : Bool) (cs ds : List Char) :
    glyphs escaped (cs ++ ds) = glyphs escaped cs ++ glyphs (endsEscaped escaped cs) ds := by
  induction cs generalizing escaped with
  | nil => rfl
  | cons c cs ih =>
    cases escaped with
    | true => exact congrArg _ (ih false)
    | false =>
      by_cases hc : c = '\\'
      · simp only [List.cons_append, glyphs, endsEscaped, hc, ih]
        rfl
      · simp only [List.cons_append, glyphs, endsEscaped, hc, ih]
        rfl

theorem glyphs_of_plain {cs : List Char} (h : ∀ c ∈ cs, isSign c = false) :
    glyphs false cs = cs.map fun c => .one (some c) := by
  induction cs with
  | nil => rfl
  | cons c cs ih =>
    obtain ⟨hc, hcs⟩ := List.forall_mem_cons.1 h
    simp only [isSign, Bool.or_eq_false_iff, decide_eq_false_iff_not] at hc
    simp only [glyphs, Glyph.of, hc, ih hcs, List.map_cons]
    rfl

theorem endsEscaped_of_plain {cs : List Char} (h : ∀ c ∈ cs, isSign c = false) :
    endsEscaped false cs = false := by
  induction cs with
  | nil => rfl
  | cons c cs ih =>
    obtain ⟨hc, hcs⟩ := List.forall_mem_cons.1 h
    simp only [isSign, Bool.or_eq_false_iff, decide_eq_false_iff_not] at hc
    simp only [endsEscaped, hc]
    exact ih hcs

namespace Folding

variable (F : Folding)

def fits : List Glyph → List Char → Bool
  | [], ds => ds.isEmpty
  | .one c? :: gs, d :: ds => c?.all (fun c => F.fold c = F.fold d) && fits gs ds
  | .one _ :: _, [] => false
  | .run :: gs, ds => ds.tails.any (fits gs)

/-- Whether a text is like a pattern. -/
def ilike (pattern text : String) : Bool :=
  F.fits (glyphs false pattern.toList) text.toList

def Finds (pattern text : String) : Prop :=
  ∃ part, part <:+: text.toList ∧ F.fits (glyphs false pattern.toList) part = true

def Contains (text part : String) : Prop :=
  part.toList.map F.fold <:+: text.toList.map F.fold

instance (text part : String) : Decidable (F.Contains text part) :=
  inferInstanceAs (Decidable (_ <:+: _))

variable {F} {gs hs : List Glyph} {cs ds : List Char}

theorem fits_run_iff : F.fits (.run :: gs) ds = true ↔
    ∃ before after, ds = before ++ after ∧ F.fits gs after = true := by
  rw [fits, List.any_eq_true]
  constructor
  · rintro ⟨after, ht, h⟩
    obtain ⟨before, rfl⟩ := (List.mem_tails after ds).1 ht
    exact ⟨before, after, rfl, h⟩
  · rintro ⟨before, after, rfl, h⟩
    exact ⟨after, (List.mem_tails _ _).2 (List.suffix_append before after), h⟩

theorem fits_run (ds : List Char) : F.fits [.run] ds = true :=
  fits_run_iff.2 ⟨ds, [], (List.append_nil ds).symm, rfl⟩

theorem fits_append_iff : F.fits (gs ++ hs) ds = true ↔
    ∃ before after, ds = before ++ after ∧ F.fits gs before = true ∧ F.fits hs after = true := by
  induction gs generalizing ds with
  | nil =>
    constructor
    · exact fun h => ⟨[], ds, rfl, rfl, h⟩
    · rintro ⟨before, after, rfl, hbefore, hafter⟩
      rwa [List.isEmpty_iff.1 hbefore]
  | cons g gs ih =>
    cases g with
    | one c? =>
      cases ds with
      | nil =>
        refine iff_of_false Bool.false_ne_true ?_
        rintro ⟨before, after, h, hbefore, _⟩
        rw [(List.append_eq_nil_iff.1 h.symm).1] at hbefore
        cases hbefore
      | cons d ds =>
        rw [List.cons_append, fits, Bool.and_eq_true, ih]
        constructor
        · rintro ⟨hd, before, after, rfl, hbefore, hafter⟩
          exact ⟨d :: before, after, rfl, Bool.and_eq_true_iff.2 ⟨hd, hbefore⟩, hafter⟩
        · rintro ⟨before, after, h, hbefore, hafter⟩
          cases before with
          | nil => cases hbefore
          | cons x before =>
            cases h
            obtain ⟨hd, hbefore⟩ := Bool.and_eq_true_iff.1 hbefore
            exact ⟨hd, before, after, rfl, hbefore, hafter⟩
    | run =>
      -- what the run skips stands before
      rw [List.cons_append, fits_run_iff]
      simp only [ih, fits_run_iff]
      constructor
      · rintro ⟨skipped, _, rfl, before, after, rfl, hbefore, hafter⟩
        exact ⟨skipped ++ before, after, (List.append_assoc _ _ _).symm,
          ⟨skipped, before, rfl, hbefore⟩, hafter⟩
      · rintro ⟨_, after, rfl, ⟨skipped, before, rfl, hbefore⟩, hafter⟩
        exact ⟨skipped, before ++ after, List.append_assoc _ _ _, before, after, rfl, hbefore,
          hafter⟩

theorem fits_characters_iff :
    F.fits (cs.map fun c => .one (some c)) ds = true ↔ cs.map F.fold = ds.map F.fold := by
  induction cs generalizing ds with
  | nil => exact List.isEmpty_iff.trans (List.map_eq_nil_iff.symm.trans eq_comm)
  | cons c cs ih =>
    cases ds with
    | nil => exact iff_of_false Bool.false_ne_true (List.cons_ne_nil _ _)
    | cons d ds =>
      rw [List.map_cons, fits, Bool.and_eq_true, ih, List.map_cons, List.map_cons, List.cons.injEq,
        Option.all_some, decide_eq_true_eq]

variable {raw text : String}

theorem toList_around (raw : String) :
    ("%" ++ raw ++ "%").toList = '%' :: (raw.toList ++ ['%']) := by
  rw [String.toList_append, String.toList_append]
  rfl

/-- With any run before it and any run behind it, a pattern finds a text by one of its parts. -/
theorem ilike_around_iff (h : endsEscaped false raw.toList = false) :
    F.ilike ("%" ++ raw ++ "%") text = true ↔ F.Finds raw text := by
  have hglyphs : glyphs false ('%' :: (raw.toList ++ ['%'])) =
      .run :: (glyphs false raw.toList ++ [.run]) := by
    change .run :: glyphs false (raw.toList ++ ['%']) = _
    rw [glyphs_append, h]
    rfl
  rw [ilike, toList_around, hglyphs, fits_run_iff]
  simp only [fits_append_iff, fits_run, and_true]
  constructor
  · rintro ⟨before, _, htext, part, after, rfl, hpart⟩
    exact ⟨part, ⟨before, after, by rw [htext, List.append_assoc]⟩, hpart⟩
  · rintro ⟨part, ⟨before, after, htext⟩, hpart⟩
    exact ⟨before, part ++ after, by rw [← htext, List.append_assoc], part, after, rfl, hpart⟩

theorem finds_iff_contains (h : ∀ c ∈ raw.toList, isSign c = false) :
    F.Finds raw text ↔ F.Contains text raw := by
  rw [Finds, glyphs_of_plain h, Contains, List.infix_map_iff]
  simp only [fits_characters_iff]

/-- A text that is like a search text with any run behind it, where a sign of the search text is
left out or stands for something else. -/
def decoy (escaped : Bool) : List Char → List Char
  | [] => if escaped then ['%'] else []
  | c :: cs =>
    if escaped then c :: decoy false cs
    else if c = '\\' then decoy true cs
    else if c = '%' then decoy false cs
    else (if c = '_' then 'a' else c) :: decoy false cs

theorem fits_decoy (escaped : Bool) (cs : List Char) :
    F.fits (glyphs escaped (cs ++ ['%'])) (decoy escaped cs) = true := by
  induction cs generalizing escaped with
  | nil =>
    cases escaped with
    | true =>
      have h : F.fits (['%'].map fun c => .one (some c)) ['%'] = true := fits_characters_iff.2 rfl
      exact h
    | false => exact fits_run []
  | cons c cs ih =>
    have hone (c? : Option Char) (d : Char) (h : ∀ c, c? = some c → F.fold c = F.fold d) :
        F.fits (.one c? :: glyphs false (cs ++ ['%'])) (d :: decoy false cs) = true := by
      rw [fits, ih false, Bool.and_true]
      cases c? with
      | none => rfl
      | some c => exact decide_eq_true (h c rfl)
    cases escaped with
    | true => exact hone (some c) c fun _ h => by cases h; rfl
    | false =>
      simp only [List.cons_append, glyphs, decoy, Bool.false_eq_true, ↓reduceIte]
      split
      · exact ih true
      · rw [Glyph.of]
        split
        · exact fits_run_iff.2 ⟨[], _, rfl, ih false⟩
        · split
          · exact hone none 'a' fun _ h => nomatch h
          · exact hone (some c) c fun _ h => by cases h; rfl

theorem length_decoy_le (escaped : Bool) (cs : List Char) :
    (decoy escaped cs).length ≤ cs.length + escaped.toNat := by
  induction cs generalizing escaped with
  | nil => cases escaped <;> exact Nat.le_refl _
  | cons c cs ih =>
    have htrue := ih true
    have hfalse := ih false
    simp only [Bool.toNat_true, Bool.toNat_false] at htrue hfalse
    cases escaped with
    | true =>
      simp only [decoy, ↓reduceIte, List.length_cons, Bool.toNat_true]
      omega
    | false =>
      simp only [decoy, Bool.false_eq_true, ↓reduceIte, Bool.toNat_false]
      split
      · exact htrue
      · split <;> simp only [List.length_cons] <;> omega

theorem map_decoy_ne (h : ∃ c ∈ cs, isSign c = true) :
    (decoy false cs).map F.fold ≠ cs.map F.fold := by
  induction cs with
  | nil =>
    obtain ⟨c, hc, _⟩ := h
    cases hc
  | cons c cs ih =>
    intro he
    -- a backslash and a run make the decoy shorter, so that its length tells it apart
    have hlength := congrArg List.length he
    rw [List.length_map, List.length_map, List.length_cons] at hlength
    by_cases hescape : c = '\\'
    · simp only [decoy, hescape, Bool.false_eq_true, ↓reduceIte] at he hlength
      cases cs with
      | nil => cases F.eq_of_isSign '%' '\\' rfl (List.cons.inj he).1
      | cons d ds =>
        have hle := length_decoy_le false ds
        simp only [decoy, ↓reduceIte, List.length_cons, Bool.toNat_false] at hlength hle
        omega
    · by_cases hrun : c = '%'
      · have hle := length_decoy_le false cs
        simp only [decoy, hrun, Bool.false_eq_true, ↓reduceIte, Char.reduceEq] at hlength
        rw [Bool.toNat_false] at hle
        omega
      · simp only [decoy, hescape, hrun, Bool.false_eq_true, ↓reduceIte, List.map_cons] at he
        obtain ⟨hhead, htail⟩ := List.cons.inj he
        have hone : c ≠ '_' := by
          rintro rfl
          cases F.eq_of_isSign '_' 'a' rfl hhead.symm
        refine ih ?_ htail
        obtain ⟨x, hx, hsign⟩ := h
        rcases List.mem_cons.1 hx with rfl | hx
        · simp only [isSign, hescape, hrun, hone, decide_false, Bool.or_self,
            Bool.false_eq_true] at hsign
        · exact ⟨x, hx, hsign⟩

theorem ilike_decoy : F.ilike ("%" ++ raw ++ "%") (.ofList (decoy false raw.toList)) = true := by
  rw [ilike, toList_around, String.toList_ofList]
  exact fits_run_iff.2 ⟨[], _, rfl, fits_decoy false raw.toList⟩

theorem not_contains_decoy (h : ∃ c ∈ raw.toList, isSign c = true) :
    ¬ F.Contains (.ofList (decoy false raw.toList)) raw := by
  intro hpart
  rw [Contains, String.toList_ofList] at hpart
  refine map_decoy_ne h (hpart.eq_of_length_le ?_).symm
  have hle := length_decoy_le false raw.toList
  rwa [List.length_map, List.length_map]

theorem lower_eq_of_isSign (c d : Char) (hc : isSign c = true) (h : c.toLower = d.toLower) :
    c = d := by
  have hsign : c.toNat = 37 ∨ c.toNat = 95 ∨ c.toNat = 92 := by
    simp only [isSign, Bool.or_eq_true, decide_eq_true_eq] at hc
    rcases hc with (rfl | rfl) | rfl <;> decide
  have hself : c.toLower = c := Text.toLower_eq_self (by omega)
  rw [hself] at h
  by_cases hcapital : 65 ≤ d.toNat ∧ d.toNat ≤ 90
  · -- The letter that a capital is lowered to is not a sign.
    have hsmall := Text.toNat_toLower hcapital
    rw [← h] at hsmall
    omega
  · rw [h, Text.toLower_eq_self hcapital]

def ascii : Folding := ⟨Char.toLower, lower_eq_of_isSign⟩

end Folding

end Catalog.Sql
