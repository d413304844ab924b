import Catalog.Proofs.Sql.Arguments
import Catalog.Proofs.Text.Letter

namespace Catalog.Sql

/-- Where a reader of placeholders is: in other text, behind the sign of a placeholder, or behind
the digits of a number. -/
inductive Reading where
  | text
  | sign
  | number (n : Nat)

namespace Reading

def ended : Reading → List Nat
  | number n => [n]
  | _ => []

def digit (c : Char) : Reading → Reading
  | text => text
  | sign => number (c.toNat - '0'.toNat)
  | number n => number (10 * n + (c.toNat - '0'.toNat))

end Reading

def placeholdersFrom (r : Reading) : List Char → List Nat
  | [] => r.ended
  | c :: cs =>
    if c = '$' then r.ended ++ placeholdersFrom .sign cs
    else if c.isDigit then placeholdersFrom (r.digit c) cs
    else r.ended ++ placeholdersFrom .text cs

def placeholders (x : String) : List Nat := placeholdersFrom .text x.toList

def NoDigitFirst (cs : List Char) : Prop := ∀ c ∈ cs.head?, c.isDigit = false

theorem noDigitFirst_nil : NoDigitFirst [] := by
  intro c hc
  cases hc

theorem NoDigitFirst.append {xs ys : List Char} (h : NoDigitFirst xs) (h' : NoDigitFirst ys) :
    NoDigitFirst (xs ++ ys) := by
  cases xs with
  | nil => exact h'
  | cons c cs => exact h

theorem placeholdersFrom_of_noDigitFirst (r : Reading) {ys : List Char} (h : NoDigitFirst ys) :
    placeholdersFrom r ys = r.ended ++ placeholdersFrom .text ys := by
  cases ys with
  | nil => exact (List.append_nil _).symm
  | cons c cs =>
    have hc : c.isDigit = false := h c rfl
    simp only [placeholdersFrom, hc, Bool.false_eq_true, ↓reduceIte]
    split <;> rfl

theorem placeholdersFrom_text {xs : List Char} (h : '$' ∉ xs) (ys : List Char) :
    placeholdersFrom .text (xs ++ ys) = placeholdersFrom .text ys := by
  induction xs with
  | nil => rfl
  | cons c cs ih =>
    rw [List.mem_cons, not_or] at h
    have hc : c ≠ '$' := fun he => h.1 he.symm
    simp only [List.cons_append, placeholdersFrom, if_neg hc]
    split
    · exact ih h.2
    · exact ih h.2

theorem placeholdersFrom_digits {ds : List Char} (h : ∀ c ∈ ds, c.isDigit = true) (n : Nat)
    (ys : List Char) :
    placeholdersFrom (.number n) (ds ++ ys) =
      placeholdersFrom (.number (Nat.ofDigitChars 10 ds n)) ys := by
  induction ds generalizing n with
  | nil => rfl
  | cons c cs ih =>
    rw [List.forall_mem_cons] at h
    have hc : c ≠ '$' := by
      rintro rfl
      exact absurd h.1 (by decide)
    simp only [List.cons_append, placeholdersFrom, if_neg hc, if_pos h.1, Nat.ofDigitChars_cons]
    exact ih h.2 _

theorem toList_placeholder (n : Nat) : (placeholder n).toList = '$' :: Nat.toDigits 10 n := by
  have hn : (toString n).toList = Nat.toDigits 10 n := by
    rw [Nat.toString_eq_ofList_toDigits, String.toList_ofList]
  rw [placeholder, String.toList_append, hn]
  rfl

/-- A text that reads as some numbers, whatever stands behind it that is not a digit. -/
structure Reads (x : String) (ns : List Nat) : Prop where
  first : NoDigitFirst x.toList
  read : ∀ ys, NoDigitFirst ys →
    placeholdersFrom .text (x.toList ++ ys) = ns ++ placeholdersFrom .text ys

namespace Reads

variable {x x' : String} {ns ns' : List Nat}

theorem placeholders_eq (h : Reads x ns) : placeholders x = ns := by
  have hr := h.read [] noDigitFirst_nil
  rw [List.append_nil] at hr
  exact hr.trans (List.append_nil ns)

theorem append (h : Reads x ns) (h' : Reads x' ns') : Reads (x ++ x') (ns ++ ns') where
  first := by
    rw [String.toList_append]
    exact h.first.append h'.first
  read ys hy := by
    rw [String.toList_append, List.append_assoc, h.read _ (h'.first.append hy), h'.read ys hy,
      List.append_assoc]

theorem placeholder (n : Nat) : Reads (placeholder n) [n] where
  first := by
    rw [toList_placeholder]
    intro c hc
    cases hc
    rfl
  read ys hy := by
    obtain ⟨d, ds, hd⟩ := List.exists_cons_of_ne_nil (Nat.toDigits_ne_nil (n := n) (b := 10))
    have hdigits : ∀ c ∈ d :: ds, c.isDigit = true := fun c hc =>
      Nat.isDigit_of_mem_toDigits (by decide) (by decide) (hd ▸ hc)
    rw [List.forall_mem_cons] at hdigits
    have hne : d ≠ '$' := by
      rintro rfl
      exact absurd hdigits.1 (by decide)
    have hvalue : Nat.ofDigitChars 10 ds (d.toNat - '0'.toNat) = n := by
      have h := Nat.ofDigitChars_ten_toDigits (n := n)
      rw [hd, Nat.ofDigitChars_cons] at h
      simpa only [Nat.mul_zero, Nat.zero_add] using h
    rw [toList_placeholder, hd]
    simp only [List.cons_append, placeholdersFrom, if_neg hne,
      if_pos hdigits.1, ↓reduceIte, Reading.ended, List.nil_append, Reading.digit]
    rw [placeholdersFrom_digits hdigits.2, hvalue, placeholdersFrom_of_noDigitFirst _ hy]
    rfl

end Reads

theorem Reads.before {x x' : String} {ns : List Nat} (h : Reads x ns) (h' : Reads x' []) :
    Reads (x ++ x') ns := by
  have ha := h.append h'
  rwa [List.append_nil] at ha

def isPlain (x : String) : Bool :=
  !x.toList.contains '$' && !x.toList.head?.any Char.isDigit

theorem Reads.plain {x : String} (h : isPlain x = true) : Reads x [] := by
  rw [isPlain, Bool.and_eq_true, Bool.not_eq_true', Bool.not_eq_true'] at h
  constructor
  · intro c hc
    rw [Option.mem_def] at hc
    simpa only [hc, Option.any_some] using h.2
  · intro ys _
    rw [List.nil_append]
    apply placeholdersFrom_text
    intro hc
    rw [List.contains_iff_mem.2 hc] at h
    cases h.1

theorem Reads.intercalate {α : Type} {x : String} {text : α → String} {numbers : α → List Nat}
    (hx : Reads x []) (h : ∀ a, Reads (text a) (numbers a)) (as : List α) :
    Reads (x.intercalate (as.map text)) (as.flatMap numbers) := by
  induction as with
  | nil => exact .plain rfl
  | cons a as ih =>
    cases as with
    | nil =>
      rw [List.map_singleton, String.intercalate_singleton, List.flatMap_singleton]
      exact h a
    | cons b bs =>
      rw [List.map_cons, List.map_cons, String.intercalate_cons_cons, List.flatMap_cons]
      exact ((h a).before hx).append ih

theorem toUpper_eq_self {c : Char} (h : c.toUpper.toNat < 65) : c.toUpper = c := by
  apply Text.toUpper_eq_self
  intro hsmall
  rw [Text.toNat_toUpper hsmall] at h
  omega

theorem isDigit_toUpper {c : Char} (h : c.toUpper.isDigit = true) : c.isDigit = true := by
  have hc : c.toUpper.toNat < 65 := by
    rw [Text.isDigit_iff] at h
    omega
  rwa [toUpper_eq_self hc] at h

theorem isPlain_toUpper {w : String} (h : isPlain w = true) : isPlain w.toUpper = true := by
  rw [isPlain, Bool.and_eq_true, Bool.not_eq_true', Bool.not_eq_true'] at h ⊢
  rw [String.toUpper, String.toList_map]
  constructor
  · rw [← Bool.not_eq_true, List.contains_iff_mem, List.mem_map]
    rintro ⟨c, hc, he⟩
    rw [toUpper_eq_self (by rw [he]; decide)] at he
    rw [he, ← List.contains_iff_mem, h.1] at hc
    cases hc
  · cases hw : w.toList with
    | nil => rfl
    | cons c cs =>
      rw [hw] at h
      rw [← Bool.not_eq_true]
      intro hd
      have hc : c.isDigit = true := isDigit_toUpper hd
      have hf : c.isDigit = false := h.2
      rw [hc] at hf
      cases hf

variable (d : Dialect)

theorem reads_word {w : String} (h : isPlain w = true) : Reads (d.word w) [] := by
  cases d with
  | plain => exact .plain h
  | quoted => exact .plain (isPlain_toUpper h)

theorem reads_column (c : Column) : Reads (d.column c) [] := by
  apply Reads.plain
  cases d <;> cases c <;> decide

theorem reads_ownColumn (c : Column) : Reads (d.ownColumn c) [] := by
  apply Reads.plain
  cases d <;> cases c <;> decide

theorem reads_separator : Reads d.separator [] := by
  apply Reads.plain
  cases d <;> decide

theorem reads_alternative {x : String} {ns : List Nat} (h : Reads x ns) :
    Reads (d.alternative x) ns := by
  cases d with
  | plain => exact h
  | quoted => exact ((Reads.plain (x := "(") rfl).append h).before (.plain (x := ")") rfl)

theorem Pattern.reads (p : Pattern Nat) : Reads (p.text placeholder) p.arguments := by
  cases p with
  | exactly n => exact .placeholder n
  | around n =>
    exact ((Reads.plain (x := "'%' || ") rfl).append (.placeholder n)).before
      (.plain (x := " || '%'") rfl)

theorem reads_like (p : Column × Pattern Nat) :
    Reads (likeText d placeholder p) p.2.arguments := by
  have hw : Reads (d.column p.1 ++ " " ++ d.word "ilike" ++ " ") [] :=
    (((reads_column d p.1).append (.plain rfl)).append (reads_word d rfl)).append (.plain rfl)
  exact reads_alternative d (hw.append p.2.reads)

theorem Condition.reads (c : Condition Nat) : Reads (c.text d placeholder) c.arguments := by
  cases c with
  | equal c n =>
    exact ((reads_ownColumn d c).append (.plain (x := " = ") rfl)).append (.placeholder n)
  | isNull c =>
    exact ((reads_ownColumn d c).append (.plain (x := " ") rfl)).append (reads_word d rfl)
  | isNotNull c =>
    exact ((reads_ownColumn d c).append (.plain (x := " ") rfl)).append (reads_word d rfl)
  | anyLike alternatives =>
    have hor : Reads (" " ++ d.word "or" ++ " ") [] :=
      ((Reads.plain rfl).append (reads_word d rfl)).append (.plain rfl)
    have has := Reads.intercalate hor (reads_like d) alternatives
    exact ((Reads.plain (x := "(") rfl).append has).before (.plain (x := ")") rfl)

theorem reads_where (cs : List (Condition Nat)) :
    Reads (whereText d placeholder cs) (cs.flatMap Condition.arguments) := by
  have hand : Reads (" " ++ d.word "and" ++ " ") [] :=
    ((Reads.plain rfl).append (reads_word d rfl)).append (.plain rfl)
  have hw : Reads (" " ++ d.word "where" ++ " ") [] :=
    ((Reads.plain rfl).append (reads_word d rfl)).append (.plain rfl)
  exact hw.append (.intercalate hand (Condition.reads d) cs)

theorem reads_setting (p : Column × Setting Nat) :
    Reads (settingText d placeholder p) p.2.arguments := by
  have hc : Reads (d.column p.1 ++ " = ") [] := (reads_column d p.1).append (.plain rfl)
  obtain ⟨c, n | _ | n⟩ := p
  · exact hc.append (.placeholder n)
  · exact hc.append (reads_word d rfl)
  · have hn : Reads (d.word "coalesce" ++ "(" ++ placeholder n) [n] :=
      ((reads_word d rfl).append (.plain rfl)).append (.placeholder n)
    have hd := ((hn.before (.plain (x := ", ") rfl)).before (reads_column d c)).before
      (.plain (x := ")") rfl)
    exact hc.append hd

theorem reads_bound {w : String} (h : isPlain w = true) (n? : Option Nat) :
    Reads (boundText d placeholder w n?) n?.toList := by
  cases n? with
  | none => exact .plain rfl
  | some n =>
    have hw : Reads (" " ++ d.word w ++ " ") [] :=
      ((Reads.plain rfl).append (reads_word d h)).append (.plain rfl)
    exact hw.append (.placeholder n)

theorem reads_table : Reads d.table [] := by
  apply Reads.plain
  cases d <;> decide

theorem reads_returning : Reads (returningText d) [] := by
  have hw : Reads (" " ++ d.word "returning" ++ " ") [] :=
    ((Reads.plain rfl).append (reads_word d rfl)).append (.plain rfl)
  exact hw.append (.intercalate (reads_separator d) (reads_column d) Column.all)

theorem Select.reads (s : Select Nat) : Reads (s.text d placeholder) s.arguments := by
  have hw : Reads (d.word "select" ++ " " ++
      d.separator.intercalate (Column.all.map d.ownColumn) ++ " ") [] :=
    (((reads_word d rfl).append (.plain rfl)).append
      (.intercalate (reads_separator d) (reads_ownColumn d) Column.all)).append (.plain rfl)
  have hf := (((hw.append (reads_word d (w := "from") rfl)).append (.plain (x := " ") rfl)).append
    (reads_table d)).append (reads_where d s.conditions)
  have hs := (hf.append (reads_bound d (w := "limit") rfl s.limit)).append
    (reads_bound d (w := "offset") rfl s.offset)
  rw [List.append_assoc] at hs
  exact hs

/-- The placeholders in the text of a statement are its arguments, in their order. -/
theorem Statement.reads (s : Statement Nat) : Reads (s.text d placeholder) s.arguments := by
  cases s with
  | select s => exact s.reads d
  | insert columns =>
    have hw := ((reads_word d (w := "insert into") rfl).append (.plain (x := " ") rfl)).append
      (reads_table d)
    have hc := (((hw.append (.plain (x := " (") rfl)).append
      (.intercalate (reads_separator d) (fun p => reads_column d p.1) columns)).append
      (.plain (x := ") ") rfl)).append (reads_word d (w := "values") rfl)
    have hv := ((hc.append (.plain (x := " (") rfl)).append (.intercalate (reads_separator d)
      (fun p => .placeholder p.2) columns)).before (.plain (x := ")") rfl)
    have hr := hv.before (reads_returning d)
    have hn : columns.flatMap (fun _ : Column × Nat => ([] : List Nat)) = [] :=
      List.flatMap_eq_nil_iff.2 fun _ _ => rfl
    have hs : columns.flatMap (fun p => [p.2]) = columns.map Prod.snd :=
      List.map_eq_flatMap.symm
    simp only [hn, hs, List.nil_append, List.append_nil] at hr
    exact hr
  | update settings conditions =>
    have hw := ((((reads_word d (w := "update") rfl).append (.plain (x := " ") rfl)).append
      (reads_table d)).append (.plain (x := " ") rfl)).append (reads_word d (w := "set") rfl)
    have hs := (hw.append (.plain (x := " ") rfl)).append
      (.intercalate (.plain (x := ", ") rfl) (reads_setting d) settings)
    exact (hs.append (reads_where d conditions)).before (reads_returning d)

end Catalog.Sql
