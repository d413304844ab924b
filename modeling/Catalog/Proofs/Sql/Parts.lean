import Catalog.Proofs.Sql.Layout

namespace Catalog.Sql

variable {k w name value : String} {xs ys rest : List String}

def keywords : List String := ["into", "values", "set", "where", "limit", "returning"]

theorem equations_cons (h : rest.head? ≠ some "=") (w : String) :
    equations (w :: rest) = equations rest := by
  cases rest with
  | nil => rfl
  | cons sign rest =>
    cases rest with
    | nil => rfl
    | cons value rest =>
      have hsign : sign ≠ "=" := fun he => h (congrArg some he)
      rw [equations, if_neg hsign]

/-- Words of one part of a statement, and the equations among them, whatever comes behind them that
does not go on with an equality sign. -/
structure Equates (ws : List String) (es : List (String × String)) : Prop where
  keyless : ∀ w ∈ ws, w ∉ keywords
  first : ws.head? ≠ some "="
  read : ∀ rest : List String, rest.head? ≠ some "=" → equations (ws ++ rest) = es ++ equations rest

namespace Equates

variable {es es' : List (String × String)}

theorem notMem (h : Equates xs es) (hk : k ∈ keywords) : k ∉ xs := fun hx => h.keyless k hx hk

theorem equations_eq (h : Equates xs es) : equations xs = es := by
  have hread := h.read [] (by decide)
  rw [List.append_nil] at hread
  exact hread.trans (List.append_nil es)

theorem nil : Equates [] [] := ⟨by decide, by decide, fun _ _ => rfl⟩

theorem word (h : w ∉ "=" :: keywords) : Equates [w] [] where
  keyless := List.forall_mem_singleton.2 fun hw => h (List.mem_cons_of_mem _ hw)
  first he := h (List.mem_cons.2 (.inl (Option.some.inj he)))
  read _ hrest := equations_cons hrest w

theorem equation (h : name ∉ "=" :: keywords) (hv : value ∉ keywords) :
    Equates [name, "=", value] [(name, value)] where
  keyless := by
    have hname : name ∉ keywords := fun hk => h (List.mem_cons_of_mem _ hk)
    have hsign : "=" ∉ keywords := by decide
    exact List.forall_mem_cons.2 ⟨hname, List.forall_mem_cons.2 ⟨hsign,
      List.forall_mem_singleton.2 hv⟩⟩
  first := (Equates.word h).first
  read rest hrest := by
    change equations (name :: "=" :: value :: rest) = _
    rw [equations, if_pos rfl]
    rfl

theorem append (h : Equates xs es) (h' : Equates ys es') : Equates (xs ++ ys) (es ++ es') where
  keyless := List.forall_mem_append.2 ⟨h.keyless, h'.keyless⟩
  first := by
    cases xs with
    | nil => exact h'.first
    | cons x xs => exact h.first
  read rest hrest := by
    have hfirst : (ys ++ rest).head? ≠ some "=" := by
      cases ys with
      | nil => exact hrest
      | cons y ys => exact h'.first
    rw [List.append_assoc, h.read _ hfirst, h'.read rest hrest, List.append_assoc]

theorem words (h : ∀ w ∈ xs, w ∉ "=" :: keywords) : Equates xs [] := by
  induction xs with
  | nil => exact .nil
  | cons x xs ih =>
    obtain ⟨hx, hxs⟩ := List.forall_mem_cons.1 h
    exact (Equates.word hx).append (ih hxs)

theorem flatMap {α : Type} {ws : α → List String} {es : α → List (String × String)}
    (h : ∀ a, Equates (ws a) (es a)) (as : List α) : Equates (as.flatMap ws) (as.flatMap es) := by
  induction as with
  | nil => exact .nil
  | cons a as ih => exact (h a).append ih

theorem intercalate {α : Type} {ws : α → List String} {es : α → List (String × String)}
    (h : ∀ a, Equates (ws a) (es a)) (hw : w ∉ "=" :: keywords) (as : List α) :
    Equates ([w].intercalate (as.map ws)) (as.flatMap es) := by
  induction as with
  | nil => exact .nil
  | cons a as ih =>
    cases as with
    | nil =>
      rw [List.map_singleton, List.intercalate_singleton, List.flatMap_singleton]
      exact h a
    | cons b bs =>
      have hbefore := (h a).append (Equates.word hw)
      rw [List.append_nil] at hbefore
      rw [List.map_cons, List.map_cons, List.intercalate_cons_cons, List.flatMap_cons]
      exact hbefore.append ih

end Equates

theorem placeholder_ne (n : Nat) (h : w.toList.head? ≠ some '$') : placeholder n ≠ w := by
  rintro rfl
  rw [toList_placeholder] at h
  exact h rfl

theorem placeholder_notMem (n : Nat) (h : ∀ w ∈ xs, w.toList.head? ≠ some '$') :
    placeholder n ∉ xs :=
  fun hn => placeholder_ne n (h _ hn) rfl

theorem equates_column (c : Column) : Equates [c.name] [] :=
  .word (by cases c <;> decide)

theorem equates_placeholder (n : Nat) : Equates [placeholder n] [] :=
  .word (placeholder_notMem n (by decide))

theorem equates_equation (c : Column) (h : value ∉ keywords) :
    Equates [c.name, "=", value] [(c.name, value)] :=
  .equation (by cases c <;> decide) h

theorem equates_numbered (c : Column) (n : Nat) :
    Equates [c.name, "=", placeholder n] [(c.name, placeholder n)] :=
  equates_equation c (placeholder_notMem n (by decide))

theorem equates_likeWords (p : Column × Pattern Nat) : Equates (likeWords p) [] := by
  have hpattern : Equates p.2.words [] := by
    cases p.2 with
    | exactly n => exact equates_placeholder n
    | around n =>
      have haround : Equates ["'%'", "||"] [] := .words (by decide)
      exact (haround.append (equates_placeholder n)).append (.words (by decide))
  exact ((equates_column p.1).append (.word (by decide))).append hpattern

def Condition.equations : Condition Nat → List (String × String)
  | .equal c n => [(c.name, placeholder n)]
  | _ => []

theorem Condition.equates (c : Condition Nat) : Equates c.words c.equations := by
  cases c with
  | equal c n => exact equates_numbered c n
  | isNull c => exact (equates_column c).append (.words (by decide))
  | isNotNull c => exact (equates_column c).append (.words (by decide))
  | anyLike alternatives =>
    have halternatives := Equates.intercalate equates_likeWords (w := "or") (by decide) alternatives
    rwa [List.flatMap_eq_nil_iff.2 fun _ _ => rfl] at halternatives

def Setting.word : Setting Nat → String
  | .to n | .toIfGiven n => placeholder n
  | .null => "null"

theorem Setting.equates (p : Column × Setting Nat) :
    Equates ((settingWords p).filter (· ≠ "coalesce")) [(p.1.name, p.2.word)] := by
  obtain ⟨c, s⟩ := p
  have hname : c.name ≠ "coalesce" := by cases c <;> decide
  have hnumber (n : Nat) : placeholder n ≠ "coalesce" := placeholder_ne n (by decide)
  obtain n | _ | n := s
  · have hwords : (settingWords (c, .to n)).filter (· ≠ "coalesce") =
        [c.name, "=", placeholder n] := by
      simp [settingWords, Setting.words, hname, hnumber]
    rw [hwords]
    exact equates_numbered c n
  · have hwords : (settingWords (c, .null)).filter (· ≠ "coalesce") = [c.name, "=", "null"] := by
      simp [settingWords, Setting.words, hname]
    rw [hwords]
    exact equates_equation c (by decide)
  · have hwords : (settingWords (c, .toIfGiven n)).filter (· ≠ "coalesce") =
        [c.name, "=", placeholder n] ++ [c.name] := by
      simp [settingWords, Setting.words, hname, hnumber]
    rw [hwords]
    exact (equates_numbered c n).append (equates_column c)

theorem equates_settings (settings : List (Column × Setting Nat)) :
    Equates ((settings.flatMap settingWords).filter (· ≠ "coalesce"))
      (settings.map fun p => (p.1.name, p.2.word)) := by
  rw [List.filter_flatMap, List.map_eq_flatMap]
  exact .flatMap Setting.equates settings

def conditionWords (conditions : List (Condition Nat)) : List String :=
  ["and"].intercalate (conditions.map Condition.words)

theorem equates_conditionWords (conditions : List (Condition Nat)) :
    Equates (conditionWords conditions) (conditions.flatMap Condition.equations) :=
  .intercalate Condition.equates (by decide) conditions

theorem equates_boundWords (h : w ∉ "=" :: keywords) (n? : Option Nat) :
    Equates (boundWords w n?) [] := by
  cases n? with
  | none => exact .nil
  | some n => exact (Equates.word h).append (equates_placeholder n)

theorem equates_each {α : Type} {word : α → String} (h : ∀ a, Equates [word a] []) (as : List α) :
    Equates (as.map word) [] := by
  have heach := Equates.flatMap h as
  rwa [← List.map_eq_flatMap, List.flatMap_eq_nil_iff.2 fun _ _ => rfl] at heach

theorem equates_names : Equates (Column.all.map Column.name) [] := .words (by decide)

theorem keyless_settings (settings : List (Column × Setting Nat)) :
    ∀ w ∈ settings.flatMap settingWords, w ∉ keywords := by
  intro w hw hk
  have hcoalesce : "coalesce" ∉ keywords := by decide
  refine (equates_settings settings).notMem hk (List.mem_filter.2 ⟨hw, decide_eq_true ?_⟩)
  rintro rfl
  exact hcoalesce hk

theorem past_append (h : k ∉ xs) (ys : List String) : past k (xs ++ ys) = past k ys := by
  rw [past, past, List.dropWhile_append_of_pos]
  intro w hw
  exact decide_eq_true fun he => h (he ▸ hw)

theorem past_cons (k w : String) (ys : List String) :
    past k (w :: ys) = if w = k then ys else past k ys := by
  split
  · simp [past, *]
  · simp [past, *]

def inParts (parts : List (String × List String)) : List String :=
  parts.flatMap fun part => part.1 :: part.2

def partsFrom (k : String) : List (String × List String) → List String
  | [] => []
  | part :: parts => if part.1 = k then part.2 ++ inParts parts else partsFrom k parts

theorem past_inParts (hk : k ∈ keywords) {parts : List (String × List String)}
    (hparts : ∀ part ∈ parts, ∀ w ∈ part.2, w ∉ keywords) (hxs : ∀ w ∈ xs, w ∉ keywords) :
    past k (xs ++ inParts parts) = partsFrom k parts := by
  induction parts generalizing xs with
  | nil => exact past_append (fun hx => hxs k hx hk) []
  | cons part parts ih =>
    obtain ⟨hpart, hparts⟩ := List.forall_mem_cons.1 hparts
    -- if this is not the keyword, the words behind it take the place of those before it
    rw [past_append fun hx => hxs k hx hk, partsFrom]
    change past k (part.1 :: (part.2 ++ inParts parts)) = _
    rw [past_cons, ih hparts hpart]

theorem upTo_append (h : k ∉ xs) (ys : List String) : upTo k (xs ++ k :: ys) = xs := by
  rw [upTo, List.takeWhile_append_of_pos]
  · simp
  · intro w hw
    exact decide_eq_true fun he => h (he ▸ hw)

theorem upTo_eq_self (h : k ∉ xs) : upTo k xs = xs := by
  rw [upTo, ← List.append_nil xs, List.takeWhile_append_of_pos, List.takeWhile_nil]
  intro w hw
  exact decide_eq_true fun he => h (he ▸ hw)

namespace Statement

def opening : Statement Nat → List String
  | .select _ => "select" :: Column.all.map Column.name ++ ["from", tableName]
  | .insert _ => ["insert"]
  | .update .. => ["update", tableName]

def parts : Statement Nat → List (String × List String)
  | .select { conditions, limit := none, offset } =>
    [("where", conditionWords conditions ++ boundWords "offset" offset)]
  | .select { conditions, limit := some n, offset } =>
    [("where", conditionWords conditions), ("limit", placeholder n :: boundWords "offset" offset)]
  | .insert columns =>
    [("into", tableName :: columns.map fun p => p.1.name),
      ("values", columns.map fun p => placeholder p.2),
      ("returning", Column.all.map Column.name)]
  | .update settings conditions =>
    [("set", settings.flatMap settingWords), ("where", conditionWords conditions),
      ("returning", Column.all.map Column.name)]

theorem words_eq (s : Statement Nat) : s.words = s.opening ++ inParts s.parts := by
  cases s with
  | select s =>
    obtain ⟨conditions, limit, offset⟩ := s
    cases limit with
    | none =>
      simp [words, Select.words, opening, parts, inParts, whereWords, boundWords, conditionWords]
    | some n =>
      simp [words, Select.words, opening, parts, inParts, whereWords, boundWords, conditionWords]
  | insert columns => simp [words, opening, parts, inParts, returningWords]
  | update settings conditions =>
    simp [words, opening, parts, inParts, whereWords, returningWords, conditionWords]

theorem keyless_opening (s : Statement Nat) : ∀ w ∈ s.opening, w ∉ keywords := by
  cases s with
  | select s =>
    change ∀ w ∈ "select" :: Column.all.map Column.name ++ ["from", tableName], w ∉ keywords
    decide
  | insert columns =>
    change ∀ w ∈ ["insert"], w ∉ keywords
    decide
  | update settings conditions =>
    change ∀ w ∈ ["update", tableName], w ∉ keywords
    decide

theorem keyless_parts (s : Statement Nat) : ∀ part ∈ s.parts, ∀ w ∈ part.2, w ∉ keywords := by
  cases s with
  | select s =>
    obtain ⟨conditions, limit, offset⟩ := s
    have hconditions := equates_conditionWords conditions
    have hoffset := equates_boundWords (w := "offset") (by decide) offset
    cases limit with
    | none => exact List.forall_mem_singleton.2 (hconditions.append hoffset).keyless
    | some n =>
      have hlimit := ((equates_placeholder n).append hoffset).keyless
      exact List.forall_mem_cons.2 ⟨hconditions.keyless, List.forall_mem_singleton.2 hlimit⟩
  | insert columns =>
    have htable : Equates [tableName] [] := .words (by decide)
    have hnames := htable.append (equates_each (fun p => equates_column p.1) columns)
    have hnumbers := equates_each (fun p => equates_placeholder p.2) columns
    exact List.forall_mem_cons.2 ⟨hnames.keyless, List.forall_mem_cons.2 ⟨hnumbers.keyless,
      List.forall_mem_singleton.2 equates_names.keyless⟩⟩
  | update settings conditions =>
    exact List.forall_mem_cons.2 ⟨keyless_settings settings, List.forall_mem_cons.2
      ⟨(equates_conditionWords conditions).keyless,
        List.forall_mem_singleton.2 equates_names.keyless⟩⟩

theorem past_words (s : Statement Nat) (hk : k ∈ keywords) :
    past k s.words = partsFrom k s.parts := by
  rw [words_eq]
  exact past_inParts hk s.keyless_parts s.keyless_opening

end Statement

def Statement.layout : Statement Nat → Layout
  | .select s =>
    { columns := []
      values := []
      compared := s.conditions.flatMap Condition.equations
      limit := s.limit.toList.map placeholder
      returned := [] }
  | .insert columns =>
    { columns := columns.map fun p => p.1.name
      values := columns.map fun p => placeholder p.2
      compared := []
      limit := []
      returned := Column.all.map Column.name }
  | .update settings conditions =>
    { columns := settings.map fun p => p.1.name
      values := settings.map fun p => p.2.word
      compared := conditions.flatMap Condition.equations
      limit := []
      returned := Column.all.map Column.name }

theorem equations_where (s : Select Nat) :
    equations (upTo "returning" (partsFrom "where" (Statement.select s).parts)) =
      s.conditions.flatMap Condition.equations := by
  obtain ⟨conditions, limit, offset⟩ := s
  have hconditions := equates_conditionWords conditions
  have hoffset := equates_boundWords (w := "offset") (by decide) offset
  cases limit with
  | none =>
    have hwhere := hconditions.append hoffset
    simp only [Statement.parts, partsFrom, ↓reduceIte, inParts, List.flatMap_nil, List.append_nil]
    rw [upTo_eq_self (hwhere.notMem (by decide)), hwhere.equations_eq, List.append_nil]
  | some n =>
    have hlimit : Equates (placeholder n :: boundWords "offset" offset) [] :=
      (equates_placeholder n).append hoffset
    have hreturning : "returning" ∉ conditionWords conditions ++
        "limit" :: placeholder n :: boundWords "offset" offset := by
      rw [List.mem_append, List.mem_cons, not_or, not_or]
      exact ⟨hconditions.notMem (by decide), by decide, hlimit.notMem (by decide)⟩
    simp only [Statement.parts, partsFrom, ↓reduceIte, inParts, List.flatMap_cons,
      List.flatMap_nil, List.append_nil]
    rw [upTo_eq_self hreturning, hconditions.read _ (by simp), equations_cons hlimit.first,
      hlimit.equations_eq, List.append_nil]

/-- The words of a statement are read as what they are there for. -/
theorem Layout.ofWords_words (s : Statement Nat) : ofWords s.words = s.layout := by
  rw [ofWords, s.past_words (k := "into") (by decide), s.past_words (k := "set") (by decide),
    s.past_words (k := "values") (by decide), s.past_words (k := "where") (by decide),
    s.past_words (k := "limit") (by decide), s.past_words (k := "returning") (by decide)]
  cases s with
  | select s =>
    rw [equations_where]
    obtain ⟨conditions, limit, offset⟩ := s
    cases limit with
    | none => rfl
    | some n => rfl
  | insert columns =>
    have hnames := equates_each (fun p => equates_column p.1) columns
    have hnumbers := equates_each (fun p => equates_placeholder p.2) columns
    simp only [Statement.parts, partsFrom, inParts, String.reduceEq, ↓reduceIte,
      List.flatMap_cons, List.flatMap_nil, List.append_nil]
    rw [List.cons_append, List.drop_succ_cons, List.drop_zero, List.cons_append,
      upTo_append (hnames.notMem (by decide)), upTo_append (hnumbers.notMem (by decide))]
    simp only [upTo, equations, List.takeWhile_nil, List.filter_nil, List.map_nil,
      List.append_nil]
    rfl
  | update settings conditions =>
    have hsettings := equates_settings settings
    have hconditions := equates_conditionWords conditions
    have hwhere : "where" ∉ settings.flatMap settingWords := fun hw =>
      keyless_settings settings _ hw (by decide)
    simp only [Statement.parts, partsFrom, inParts, String.reduceEq, ↓reduceIte,
      List.flatMap_cons, List.flatMap_nil, List.append_nil]
    rw [List.cons_append, upTo_append hwhere, upTo_append (hconditions.notMem (by decide)),
      hsettings.equations_eq, hconditions.equations_eq, List.map_map, List.map_map]
    rfl

theorem Statement.length_layout (s : Statement Nat) :
    s.layout.columns.length = s.layout.values.length := by
  cases s with
  | select s => rfl
  | insert columns => exact (List.length_map _).trans (List.length_map _).symm
  | update settings conditions => exact (List.length_map _).trans (List.length_map _).symm

end Catalog.Sql
