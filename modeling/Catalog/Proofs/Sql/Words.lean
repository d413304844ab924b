import Catalog.Proofs.Sql.Placeholder
import Mathlib.Data.List.Basic

namespace Catalog.Sql

def isBreak (c : Char) : Bool := c = ' ' || c = ',' || c = '(' || c = ')'

def ended (w : List Char) : List String := if w = [] then [] else [.ofList w]

/-- The words that stand between breaks, in lower case and without quotation marks. The name of a
table before that of a column is left out. -/
def wordsFrom (w : List Char) : List Char → List String
  | [] => ended w
  | c :: cs =>
    if isBreak c then ended w ++ wordsFrom [] cs
    else if c = '"' then wordsFrom w cs
    else if c = '.' then wordsFrom [] cs
    else wordsFrom (w ++ [c.toLower]) cs

def words (x : String) : List String := wordsFrom [] x.toList

theorem wordsFrom_break {c : Char} (h : isBreak c = true) (w xs ys : List Char) :
    wordsFrom w (xs ++ c :: ys) = wordsFrom w xs ++ wordsFrom [] ys := by
  induction xs generalizing w with
  | nil =>
    rw [List.nil_append, wordsFrom.eq_2, if_pos h]
    rfl
  | cons x xs ih =>
    rw [List.cons_append, wordsFrom, wordsFrom]
    split
    · rw [ih, List.append_assoc]
    · split
      · exact ih _
      · split
        · exact ih _
        · exact ih _

def startsBroken (x : String) : Bool := x.toList.head?.any isBreak

theorem startsBroken_append {x : String} (h : startsBroken x = true) (y : String) :
    startsBroken (x ++ y) = true := by
  rw [startsBroken, String.toList_append]
  cases hx : x.toList with
  | nil =>
    rw [startsBroken, hx] at h
    cases h
  | cons c cs => rwa [startsBroken, hx] at h

theorem words_append {y : String} (h : startsBroken y = true) (x : String) :
    words (x ++ y) = words x ++ words y := by
  rw [words, String.toList_append]
  cases hy : y.toList with
  | nil =>
    rw [startsBroken, hy] at h
    cases h
  | cons c cs =>
    rw [startsBroken, hy] at h
    have hc : isBreak c = true := h
    rw [wordsFrom_break hc, words, words, hy, wordsFrom, if_pos hc]
    rfl

def isGap (x : String) : Bool := startsBroken x && x.toList.all isBreak

theorem words_gap_append {sep : String} (h : isGap sep = true) (y : String) :
    words (sep ++ y) = words y := by
  have hall (cs : List Char) (hcs : cs.all isBreak = true) :
      wordsFrom [] (cs ++ y.toList) = wordsFrom [] y.toList := by
    induction cs with
    | nil => rfl
    | cons c cs ih =>
      obtain ⟨hc, hcs⟩ := Bool.and_eq_true_iff.1 hcs
      rw [List.cons_append, wordsFrom, if_pos hc, ih hcs]
      rfl
  rw [words, String.toList_append]
  exact hall sep.toList (Bool.and_eq_true_iff.1 h).2

theorem words_gap {sep : String} (h : isGap sep = true) (x y : String) :
    words (x ++ sep ++ y) = words x ++ words y := by
  have hbroken := startsBroken_append (Bool.and_eq_true_iff.1 h).1 y
  rw [String.append_assoc, words_append hbroken, words_gap_append h]

/-- Whether two texts with a text between them have its words between theirs. -/
def Joins (sep : String) (ws : List String) : Prop :=
  ∀ x y, words (x ++ sep ++ y) = words x ++ ws ++ words y

theorem joins_word (w : String) : Joins (" " ++ w ++ " ") (words w) := by
  intro x y
  rw [← String.append_assoc, ← String.append_assoc, words_gap rfl, words_gap rfl]

theorem joins_equals : Joins " = " ["="] := joins_word "="

theorem words_intercalate {sep : String} {ws : List String} (h : Joins sep ws)
    (xs : List String) : words (sep.intercalate xs) = ws.intercalate (xs.map words) := by
  induction xs with
  | nil => rfl
  | cons x xs ih =>
    cases xs with
    | nil => simp
    | cons y ys =>
      rw [String.intercalate_cons_cons, h, ih, List.map_cons, List.map_cons, List.map_cons,
        List.intercalate_cons_cons]

theorem words_list {α : Type} {sep : String} {text : α → String} {ws : α → List String}
    (hsep : isGap sep = true) (h : ∀ a, words (text a) = ws a) (as : List α) :
    words (sep.intercalate (as.map text)) = as.flatMap ws := by
  induction as with
  | nil => rfl
  | cons a as ih =>
    cases as with
    | nil =>
      rw [List.map_singleton, String.intercalate_singleton, List.flatMap_singleton]
      exact h a
    | cons b bs =>
      rw [List.map_cons, List.map_cons, String.intercalate_cons_cons, List.flatMap_cons,
        words_gap hsep, h]
      exact congrArg _ ih

theorem toLower_of_isDigit {c : Char} (h : c.isDigit = true) : c.toLower = c := by
  rw [Text.isDigit_iff] at h
  apply Text.toLower_eq_self
  omega

theorem toUpper_eq_iff {c d : Char} (hd : d.toNat < 65) (hself : d.toUpper = d) :
    c.toUpper = d ↔ c = d := by
  constructor
  · intro h
    have hc : c.toUpper = c := toUpper_eq_self (by rwa [h])
    rw [← hc, h]
  · rintro rfl
    exact hself

theorem words_toUpper (x : String) : words x.toUpper = words x := by
  have hall (w cs : List Char) : wordsFrom w (cs.map Char.toUpper) = wordsFrom w cs := by
    induction cs generalizing w with
    | nil => rfl
    | cons c cs ih =>
      have hbreak : isBreak c.toUpper = isBreak c := by
        simp only [isBreak, toUpper_eq_iff (d := ' ') (by decide) rfl,
          toUpper_eq_iff (d := ',') (by decide) rfl, toUpper_eq_iff (d := '(') (by decide) rfl,
          toUpper_eq_iff (d := ')') (by decide) rfl]
      rw [List.map_cons, wordsFrom, wordsFrom, hbreak, Text.toLower_toUpper]
      simp only [toUpper_eq_iff (d := '"') (by decide) rfl,
        toUpper_eq_iff (d := '.') (by decide) rfl, ih]
  rw [words, String.toUpper, String.toList_map]
  exact hall [] x.toList

section Dialect

variable (d : Dialect)

theorem words_word (w : String) : words (d.word w) = words w := by
  cases d with
  | plain => rfl
  | quoted => exact words_toUpper w

theorem words_column (c : Column) : words (d.column c) = [c.name] := by
  cases d <;> cases c <;> decide

theorem words_ownColumn (c : Column) : words (d.ownColumn c) = [c.name] := by
  cases d <;> cases c <;> decide

theorem Dialect.isGap_separator : isGap d.separator = true := by
  cases d <;> rfl

theorem words_table : words d.table = [tableName] := by
  cases d <;> decide

theorem wordsFrom_digits (w : List Char) {ds : List Char} (h : ∀ c ∈ ds, c.isDigit = true) :
    wordsFrom w ds = ended (w ++ ds) := by
  induction ds generalizing w with
  | nil => rw [List.append_nil, wordsFrom]
  | cons c ds ih =>
    obtain ⟨hc, hds⟩ := List.forall_mem_cons.1 h
    have hne (d : Char) (hd : d.isDigit = false) : c ≠ d := by
      rintro rfl
      rw [hc] at hd
      cases hd
    have hbreak : isBreak c = false := by
      simp only [isBreak, hne ' ' rfl, hne ',' rfl, hne '(' rfl, hne ')' rfl, decide_false,
        Bool.or_false]
    rw [wordsFrom, hbreak, if_neg Bool.false_ne_true, if_neg (hne '"' rfl), if_neg (hne '.' rfl),
      toLower_of_isDigit hc, ih _ hds, List.append_assoc, List.singleton_append]

theorem words_placeholder (n : Nat) : words (placeholder n) = [placeholder n] := by
  have hdigits := wordsFrom_digits ['$'] fun c (hc : c ∈ Nat.toDigits 10 n) =>
    Nat.isDigit_of_mem_toDigits (by decide) (by decide) hc
  have hname : ended ('$' :: Nat.toDigits 10 n) = [placeholder n] := by
    rw [← toList_placeholder, ended, if_neg, String.ofList_toList]
    rw [toList_placeholder]
    exact List.cons_ne_nil _ _
  rw [words, toList_placeholder, ← hname]
  exact hdigits

def Pattern.words : Pattern Nat → List String
  | .exactly n => [placeholder n]
  | .around n => ["'%'", "||", placeholder n, "||", "'%'"]

def likeWords (p : Column × Pattern Nat) : List String :=
  p.1.name :: "ilike" :: p.2.words

def Condition.words : Condition Nat → List String
  | .equal c n => [c.name, "=", placeholder n]
  | .isNull c => [c.name, "is", "null"]
  | .isNotNull c => [c.name, "is", "not", "null"]
  | .anyLike alternatives => ["or"].intercalate (alternatives.map likeWords)

def whereWords (conditions : List (Condition Nat)) : List String :=
  "where" :: ["and"].intercalate (conditions.map Condition.words)

def Setting.words (c : Column) : Setting Nat → List String
  | .to n => [placeholder n]
  | .null => ["null"]
  | .toIfGiven n => ["coalesce", placeholder n, c.name]

def settingWords (p : Column × Setting Nat) : List String :=
  p.1.name :: "=" :: p.2.words p.1

def boundWords (w : String) : Option Nat → List String
  | some n => [w, placeholder n]
  | none => []

def returningWords : List String := "returning" :: Column.all.map Column.name

def Select.words (s : Select Nat) : List String :=
  "select" :: Column.all.map Column.name ++ ["from", tableName] ++ whereWords s.conditions ++
    boundWords "limit" s.limit ++ boundWords "offset" s.offset

def Statement.words : Statement Nat → List String
  | .select s => s.words
  | .insert columns =>
    ["insert", "into", tableName] ++ (columns.map fun p => p.1.name) ++ ["values"] ++
      (columns.map fun p => placeholder p.2) ++ returningWords
  | .update settings conditions =>
    ["update", tableName, "set"] ++ settings.flatMap settingWords ++ whereWords conditions ++
      returningWords

theorem Pattern.words_text (p : Pattern Nat) : Sql.words (p.text placeholder) = p.words := by
  cases p with
  | exactly n => exact words_placeholder n
  | around n =>
    have hbefore : "'%' || " = "'%' ||" ++ " " := rfl
    have hafter : Sql.words " || '%'" = ["||", "'%'"] := by decide
    rw [Pattern.text, words_append rfl, hbefore, words_gap rfl, words_placeholder, hafter]
    rfl

theorem words_likeText (p : Column × Pattern Nat) :
    words (likeText d placeholder p) = likeWords p := by
  have hplain : words (d.column p.1 ++ " " ++ d.word "ilike" ++ " " ++ p.2.text placeholder) =
      likeWords p := by
    rw [words_gap rfl, words_gap rfl, words_column, words_word, p.2.words_text]
    rfl
  rw [likeText, Dialect.alternative.eq_def]
  cases d with
  | plain => exact hplain
  | quoted =>
    change words ("(" ++ _ ++ ")") = _
    rw [words_append rfl, words_gap_append rfl, hplain]
    exact List.append_nil _

theorem Condition.words_text (c : Condition Nat) : Sql.words (c.text d placeholder) = c.words := by
  cases c with
  | equal c n =>
    rw [Condition.text, joins_equals, words_ownColumn, words_placeholder]
    rfl
  | isNull c =>
    rw [Condition.text, words_gap rfl, words_ownColumn, words_word]
    rfl
  | isNotNull c =>
    rw [Condition.text, words_gap rfl, words_ownColumn, words_word]
    rfl
  | anyLike alternatives =>
    have hor := joins_word (d.word "or")
    rw [words_word] at hor
    have halternatives : (alternatives.map (likeText d placeholder)).map Sql.words =
        alternatives.map likeWords := by
      rw [List.map_map]
      exact List.map_congr_left fun p _ => words_likeText d p
    rw [Condition.text, words_append rfl, words_gap_append rfl, words_intercalate hor,
      halternatives]
    exact List.append_nil _

theorem words_whereText (conditions : List (Condition Nat)) :
    words (whereText d placeholder conditions) = whereWords conditions := by
  have hand := joins_word (d.word "and")
  rw [words_word] at hand
  have hconditions : (conditions.map (Condition.text d placeholder)).map words =
      conditions.map Condition.words := by
    rw [List.map_map]
    exact List.map_congr_left fun c _ => c.words_text d
  rw [whereText, words_gap rfl, words_gap_append rfl, words_word, words_intercalate hand,
    hconditions]
  rfl

theorem startsBroken_whereText (conditions : List (Condition Nat)) :
    startsBroken (whereText d placeholder conditions) = true :=
  startsBroken_append (startsBroken_append (startsBroken_append rfl _) _) _

theorem words_settingText (p : Column × Setting Nat) :
    words (settingText d placeholder p) = settingWords p := by
  obtain ⟨c, n | _ | n⟩ := p
  · rw [settingText, joins_equals, words_column, Setting.text, words_placeholder]
    rfl
  · rw [settingText, joins_equals, words_column, Setting.text, words_word]
    rfl
  · rw [settingText, joins_equals, words_column, Setting.text, words_append rfl, words_gap rfl,
      words_gap rfl, words_word, words_placeholder, words_column]
    rfl

theorem words_returningText : words (returningText d) = returningWords := by
  rw [returningText, words_gap rfl, words_gap_append rfl, words_word,
    words_list d.isGap_separator (words_column d)]
  rfl

theorem startsBroken_returningText : startsBroken (returningText d) = true :=
  startsBroken_append (startsBroken_append (startsBroken_append rfl _) _) _

theorem words_append_boundText (x w : String) (n? : Option Nat) (hw : words w = [w]) :
    words (x ++ boundText d placeholder w n?) = words x ++ boundWords w n? := by
  cases n? with
  | none =>
    rw [boundText, String.append_empty]
    exact (List.append_nil _).symm
  | some n =>
    have hbroken : startsBroken (" " ++ d.word w ++ " " ++ placeholder n) = true :=
      startsBroken_append (startsBroken_append (startsBroken_append rfl _) _) _
    rw [boundText, words_append hbroken, words_gap rfl, words_gap_append rfl, words_word, hw,
      words_placeholder]
    rfl

theorem Select.words_text (s : Select Nat) : Sql.words (s.text d placeholder) = s.words := by
  rw [Select.text, words_append_boundText d _ _ _ (by decide),
    words_append_boundText d _ _ _ (by decide), words_append (startsBroken_whereText d _),
    words_whereText, words_gap rfl, words_gap rfl, words_gap rfl, words_word, words_word,
    words_table, words_list d.isGap_separator (words_ownColumn d)]
  rfl

/-- The words of a statement's text are those of its parts, in either dialect. -/
theorem Statement.words_text (s : Statement Nat) : Sql.words (s.text d placeholder) = s.words := by
  cases s with
  | select s => exact s.words_text d
  | insert columns =>
    have hnames := words_list d.isGap_separator (fun p : Column × Nat => words_column d p.1)
    have hnumbers := words_list d.isGap_separator (fun p : Column × Nat => words_placeholder p.2)
    rw [Statement.text, words_append (startsBroken_returningText d), words_append rfl,
      words_gap rfl, words_gap rfl, words_gap rfl, words_gap rfl, words_word, words_word,
      words_table, hnames, hnumbers, words_returningText, ← List.map_eq_flatMap,
      ← List.map_eq_flatMap]
    exact congrArg (· ++ returningWords) (List.append_nil _)
  | update settings conditions =>
    rw [Statement.text, words_append (startsBroken_returningText d),
      words_append (startsBroken_whereText d _), words_gap rfl, words_gap rfl, words_gap rfl,
      words_word, words_word, words_table, words_list rfl (words_settingText d),
      words_whereText, words_returningText]
    rfl

end Dialect

end Catalog.Sql
