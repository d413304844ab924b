import Catalog.Json.Printer
import Catalog.Proofs.Decimal
import Catalog.Proofs.Text.Letter
import Mathlib.Tactic.SplitIfs

namespace Catalog.Json

open Text (hexDigit? hexDigit?_digitChar)

variable {c : Char} {cs rest : List Char} {n : Nat}

theorem scan?_cons {m next : Mode} (h : m.step? c = some ([], next)) (cs : List Char) :
    m.scan? (c :: cs) = next.scan? cs := by
  rw [Mode.scan?, h, Option.bind_some]
  exact Option.map_id'

theorem step?_escape (points : List Nat) :
    (Mode.string points).step? '\\' = some ([], .escape points) := rfl

theorem scan?_escaped {e : Char} (he : e ≠ 'u') (hd : escaped? e = some c) (points : List Nat)
    (rest : List Char) :
    (Mode.string points).scan? ('\\' :: e :: rest) =
      (Mode.string (c.toNat :: points)).scan? rest := by
  have hescaped : (Mode.escape points).step? e = some ([], .string (c.toNat :: points)) := by
    rw [Mode.step?, if_neg he, hd, Option.map_some]
  rw [scan?_cons (step?_escape points), scan?_cons hescaped]

theorem step?_hex (h : hexDigit? c = some n) (points : List Nat) (value left : Nat) :
    (Mode.hex points value (left + 2)).step? c =
      some ([], .hex points (16 * value + n) (left + 1)) := by
  rw [Mode.step?, h, Option.map_some]
  rfl

theorem step?_hex_last (h : hexDigit? c = some n) (points : List Nat) (value : Nat) :
    (Mode.hex points value 1).step? c = some ([], .string ((16 * value + n) :: points)) := by
  rw [Mode.step?, h, Option.map_some]
  rfl

def hexFrom? (acc : Nat) : List Char → Option Nat
  | [] => some acc
  | c :: cs => (hexDigit? c).bind fun d => hexFrom? (16 * acc + d) cs

theorem scan?_hex {ds : List Char} {value left : Nat} (hlen : ds.length = left + 1)
    (hn : hexFrom? value ds = some n) (points : List Nat) (rest : List Char) :
    (Mode.hex points value (left + 1)).scan? (ds ++ rest) =
      (Mode.string (n :: points)).scan? rest := by
  induction ds generalizing value left with
  | nil => cases hlen
  | cons c ds ih =>
    rw [hexFrom?] at hn
    obtain ⟨d, hd, hn⟩ := Option.bind_eq_some_iff.1 hn
    cases left with
    | zero =>
      cases List.eq_nil_of_length_eq_zero (Nat.succ.inj hlen)
      cases hn
      exact scan?_cons (step?_hex_last hd points value) rest
    | succ left =>
      exact (scan?_cons (step?_hex hd points value left) _).trans (ih (Nat.succ.inj hlen) hn)

/-- How code points stand inside of a string. Halves of surrogate pairs may be among them, which
only escapes can name. -/
inductive Codes : List Char → List Nat → Prop where
  | nil : Codes [] []
  | plain {c : Char} {cs : List Char} {ns : List Nat} (hquote : c ≠ '"') (hslash : c ≠ '\\')
    (hc : ¬c < ' ') (h : Codes cs ns) : Codes (c :: cs) (c.toNat :: ns)
  | escaped {e c : Char} {cs : List Char} {ns : List Nat} (he : escaped? e = some c)
    (h : Codes cs ns) : Codes ('\\' :: e :: cs) (c.toNat :: ns)
  | hex {ds : List Char} {n : Nat} {cs : List Char} {ns : List Nat} (hlen : ds.length = 4)
    (hn : hexFrom? 0 ds = some n) (h : Codes cs ns) : Codes ('\\' :: 'u' :: (ds ++ cs)) (n :: ns)

theorem Codes.scan? {ns : List Nat} (h : Codes cs ns) (points : List Nat) (rest : List Char) :
    (Mode.string points).scan? (cs ++ rest) =
      (Mode.string (ns.reverse ++ points)).scan? rest := by
  induction h generalizing points with
  | nil => rfl
  | @plain c cs ns hquote hslash hc h ih =>
    have hstep : (Mode.string points).step? c = some ([], .string (c.toNat :: points)) := by
      rw [Mode.step?, if_neg hquote, if_neg hslash, if_neg hc]
    rw [List.cons_append, scan?_cons hstep, ih, List.reverse_cons, List.append_assoc]
    rfl
  | @escaped e c cs ns he h ih =>
    have hu : e ≠ 'u' := by
      rintro rfl
      cases he
    rw [List.cons_append, List.cons_append, scan?_escaped hu he, ih, List.reverse_cons,
      List.append_assoc]
    rfl
  | @hex ds n cs ns hlen hn h ih =>
    have hu : (Mode.escape points).step? 'u' = some ([], .hex points 0 4) := rfl
    rw [List.cons_append, List.cons_append, scan?_cons (step?_escape points), scan?_cons hu,
      List.append_assoc, scan?_hex hlen hn, ih, List.reverse_cons, List.append_assoc]
    rfl

theorem Codes.charText {ns : List Nat} (h : Codes cs ns) (c : Char) :
    Codes (charText c ++ cs) (c.toNat :: ns) := by
  rw [Json.charText]
  split_ifs with hquote hslash hb hf hn hr ht hcontrol
  · subst hquote
    exact .escaped rfl h
  · subst hslash
    exact .escaped rfl h
  · subst hb
    exact .escaped rfl h
  · subst hf
    exact .escaped rfl h
  · subst hn
    exact .escaped rfl h
  · subst hr
    exact .escaped rfl h
  · subst ht
    exact .escaped rfl h
  · have hlt : c.toNat < 32 := hcontrol
    have hzero : hexDigit? '0' = some 0 := rfl
    have hhigh := hexDigit?_digitChar (n := c.toNat / 16) (by omega)
    have hlow := hexDigit?_digitChar (n := c.toNat % 16) (by omega)
    have hn : hexFrom? 0 ['0', '0', Nat.digitChar (c.toNat / 16), Nat.digitChar (c.toNat % 16)] =
        some c.toNat := by
      simp only [hexFrom?, hzero, hhigh, hlow, Option.bind_some]
      exact congrArg some (by omega)
    exact .hex rfl hn h
  · exact .plain hquote hslash hcontrol h

theorem codes_flatMap_charText (cs : List Char) :
    Codes (cs.flatMap charText) (cs.map Char.toNat) := by
  induction cs with
  | nil => exact .nil
  | cons c cs ih => exact ih.charText c

theorem not_isSurrogate (c : Char) :
    isHighSurrogate c.toNat = false ∧ isLowSurrogate c.toNat = false := by
  have hvalid : c.toNat < 0xd800 ∨ 0xdfff < c.toNat ∧ c.toNat < 0x110000 := c.valid
  simp only [isHighSurrogate, isLowSurrogate, Bool.and_eq_false_iff, decide_eq_false_iff_not]
  omega

theorem joinSurrogates_cons (c : Char) (points : List Nat) :
    joinSurrogates (c.toNat :: points) = (joinSurrogates points).map (c :: ·) := by
  cases points with
  | nil => simp [joinSurrogates, not_isSurrogate]
  | cons n points => simp [joinSurrogates, not_isSurrogate]

theorem joinSurrogates_map_toNat (cs : List Char) : joinSurrogates (cs.map Char.toNat) = some cs := by
  induction cs with
  | nil => rfl
  | cons c cs ih =>
    rw [List.map_cons, joinSurrogates_cons, ih]
    rfl

theorem stringText_some (s : String) :
    stringText (some s) = '"' :: (s.toList.flatMap charText ++ ['"']) := rfl

theorem stringText_none : stringText none = ['"', '\\', 'u', 'd', '8', '0', '0', '"'] := rfl

theorem scan?_openQuote (cs : List Char) :
    Mode.between.scan? ('"' :: cs) = (Mode.string []).scan? cs := by
  simp [Mode.scan?, Mode.step?, begin?, isSpace]

theorem scan?_closeQuote (points : List Nat) (cs : List Char) :
    (Mode.string points).scan? ('"' :: cs) = (Mode.between.scan? cs).map
      (.str ((joinSurrogates points.reverse).map .ofList) :: ·) := rfl

theorem Codes.scan?_quoted {ns : List Nat} (h : Codes cs ns) (rest : List Char) :
    Mode.between.scan? ('"' :: (cs ++ ['"']) ++ rest) = (Mode.between.scan? rest).map
      (.str ((joinSurrogates ns).map .ofList) :: ·) := by
  rw [List.cons_append, scan?_openQuote, List.append_assoc, h.scan?, List.singleton_append,
    scan?_closeQuote, List.append_nil, List.reverse_reverse]

theorem scan?_stringText (s : Option String) (rest : List Char) :
    Mode.between.scan? (stringText s ++ rest) = (Mode.between.scan? rest).map (.str s :: ·) := by
  cases s with
  | none =>
    have hn : hexFrom? 0 ['d', '8', '0', '0'] = some 0xd800 := rfl
    have hhalf : Codes ['\\', 'u', 'd', '8', '0', '0'] [0xd800] := .hex rfl hn .nil
    rw [stringText_none]
    exact hhalf.scan?_quoted rest
  | some s =>
    rw [stringText_some, (codes_flatMap_charText s.toList).scan?_quoted, joinSurrogates_map_toNat,
      Option.map_some, String.ofList_toList]

def EndsWord (cs : List Char) : Prop :=
  ∀ c ∈ cs.head?, ¬('a' ≤ c ∧ c ≤ 'z')

def EndsNumber (cs : List Char) : Prop :=
  ∀ c ∈ cs.head?, inNumber c = false

/-- Whether a word or a number that stands before a text is at its end there. -/
def Stops (cs : List Char) : Prop :=
  ∀ c ∈ cs.head?, inNumber c = false ∧ ¬('a' ≤ c ∧ c ≤ 'z')

theorem stops_nil : Stops [] := by
  intro c hc
  cases hc

theorem stops_cons (hn : inNumber c = false) (hw : ¬('a' ≤ c ∧ c ≤ 'z')) : Stops (c :: cs) := by
  intro d hd
  cases hd
  exact ⟨hn, hw⟩

theorem thenBegin?_bind (m : Mode) (c : Char) (cs : List Char) :
    ((m.thenBegin? c).bind fun r => (r.2.scan? cs).map (r.1 ++ ·)) =
      m.close?.bind fun ts => (Mode.between.scan? (c :: cs)).map (ts ++ ·) := by
  rw [Mode.thenBegin?, Mode.scan?, Mode.step?]
  cases m.close? with
  | none => rfl
  | some ts =>
    cases begin? c with
    | none => rfl
    | some r =>
      simp only [Option.bind_some, Option.map_some]
      cases r.2.scan? cs with
      | none => rfl
      | some us => simp

theorem scan?_nil (m : Mode) :
    m.scan? [] = m.close?.bind fun ts => (Mode.between.scan? []).map (ts ++ ·) := by
  rw [Mode.scan?]
  cases m.close? with
  | none => rfl
  | some ts => exact congrArg some (List.append_nil ts).symm

theorem scan?_word (letters : List Char) (h : EndsWord rest) :
    (Mode.word letters).scan? rest =
      (Mode.word letters).close?.bind fun ts => (Mode.between.scan? rest).map (ts ++ ·) := by
  cases rest with
  | nil => exact scan?_nil _
  | cons c cs => rw [← thenBegin?_bind, Mode.scan?, Mode.step?, if_neg (h c rfl)]

theorem scan?_number (chars : List Char) (h : EndsNumber rest) :
    (Mode.number chars).scan? rest =
      (Mode.number chars).close?.bind fun ts => (Mode.between.scan? rest).map (ts ++ ·) := by
  cases rest with
  | nil => exact scan?_nil _
  | cons c cs =>
    have hc : ¬ inNumber c = true := Bool.not_eq_true _ ▸ h c rfl
    rw [← thenBegin?_bind, Mode.scan?, Mode.step?, if_neg hc]

theorem scan?_word_append (hd : ∀ c ∈ cs, 'a' ≤ c ∧ c ≤ 'z') (letters : List Char) :
    (Mode.word letters).scan? (cs ++ rest) = (Mode.word (cs.reverse ++ letters)).scan? rest := by
  induction cs generalizing letters with
  | nil => rfl
  | cons c cs ih =>
    obtain ⟨hc, hcs⟩ := List.forall_mem_cons.1 hd
    rw [List.cons_append, Mode.scan?, Mode.step?, if_pos hc, Option.bind_some, ih hcs,
      List.reverse_cons, List.append_assoc]
    simp

theorem scan?_number_append (hd : ∀ c ∈ cs, inNumber c = true) (chars : List Char) :
    (Mode.number chars).scan? (cs ++ rest) = (Mode.number (cs.reverse ++ chars)).scan? rest := by
  induction cs generalizing chars with
  | nil => rfl
  | cons c cs ih =>
    obtain ⟨hc, hcs⟩ := List.forall_mem_cons.1 hd
    rw [List.cons_append, Mode.scan?, Mode.step?, if_pos hc, Option.bind_some, ih hcs,
      List.reverse_cons, List.append_assoc]
    simp

def TakesNumber (cs rest : List Char) : Prop :=
  ∃ taken, cs = taken ++ rest ∧ ∀ c ∈ taken, inNumber c = true

theorem TakesNumber.refl (cs : List Char) : TakesNumber cs cs :=
  ⟨[], rfl, List.forall_mem_nil _⟩

theorem TakesNumber.cons (hc : inNumber c = true) (h : TakesNumber cs rest) :
    TakesNumber (c :: cs) rest := by
  obtain ⟨taken, rfl, htaken⟩ := h
  exact ⟨c :: taken, rfl, List.forall_mem_cons.2 ⟨hc, htaken⟩⟩

theorem TakesNumber.trans {cs' : List Char} (h : TakesNumber cs cs') (h' : TakesNumber cs' rest) :
    TakesNumber cs rest := by
  obtain ⟨taken, rfl, htaken⟩ := h
  obtain ⟨taken', rfl, htaken'⟩ := h'
  refine ⟨taken ++ taken', (List.append_assoc ..).symm, ?_⟩
  exact List.forall_mem_append.2 ⟨htaken, htaken'⟩

theorem inNumber_of_isDigit (h : c.isDigit = true) : inNumber c = true := by
  simp [inNumber, h]

theorem takesNumber_digits? (h : digits? cs = some rest) : TakesNumber cs rest := by
  cases cs with
  | nil => cases h
  | cons c cs =>
    rw [digits?] at h
    split at h
    · rename_i hc
      cases h
      refine .cons (inNumber_of_isDigit hc)
        ⟨cs.takeWhile Char.isDigit, List.takeWhile_append_dropWhile.symm, fun d hd => ?_⟩
      exact inNumber_of_isDigit (List.all_eq_true.1 List.all_takeWhile d hd)
    · cases h

theorem takesNumber_integerPart? (h : integerPart? cs = some rest) : TakesNumber cs rest := by
  rw [integerPart?.eq_def] at h
  split at h
  · cases h
    exact .cons rfl (.refl _)
  · exact takesNumber_digits? h

theorem takesNumber_fractionPart? (h : fractionPart? cs = some rest) : TakesNumber cs rest := by
  rw [fractionPart?.eq_def] at h
  split at h
  · exact .cons rfl (takesNumber_digits? h)
  · cases h
    exact .refl _

theorem takesNumber_exponentPart? (h : exponentPart? cs = some rest) : TakesNumber cs rest := by
  rw [exponentPart?.eq_def] at h
  split at h
  · exact .cons rfl (.cons rfl (takesNumber_digits? h))
  · exact .cons rfl (.cons rfl (takesNumber_digits? h))
  · exact .cons rfl (.cons rfl (takesNumber_digits? h))
  · exact .cons rfl (.cons rfl (takesNumber_digits? h))
  · exact .cons rfl (takesNumber_digits? h)
  · exact .cons rfl (takesNumber_digits? h)
  · cases h
    exact .refl _

theorem takesNumber_of_isNumber (h : isNumber cs = true) : TakesNumber (unsignedPart cs) [] := by
  have hparts := eq_of_beq h
  obtain ⟨cs', hparts, hexponent⟩ := Option.bind_eq_some_iff.1 hparts
  obtain ⟨cs'', hinteger, hfraction⟩ := Option.bind_eq_some_iff.1 hparts
  exact ((takesNumber_integerPart? hinteger).trans (takesNumber_fractionPart? hfraction)).trans
    (takesNumber_exponentPart? hexponent)

theorem inNumber_of_isNumber (h : isNumber cs = true) : ∀ c ∈ cs, inNumber c = true := by
  have hsign : TakesNumber cs (unsignedPart cs) := by
    rw [unsignedPart.eq_def]
    split
    · exact .cons rfl (.refl _)
    · exact .refl _
  obtain ⟨taken, rfl, htaken⟩ := hsign.trans (takesNumber_of_isNumber h)
  rwa [List.append_nil]

theorem exists_cons_of_isNumber (h : isNumber cs = true) :
    ∃ c cs', cs = c :: cs' ∧ (c = '-' ∨ c.isDigit = true) := by
  cases cs with
  | nil => cases h
  | cons c cs' =>
    refine ⟨c, cs', rfl, ?_⟩
    by_cases hc : c = '-'
    · exact .inl hc
    · have hsign : unsignedPart (c :: cs') = c :: cs' := by
        rw [unsignedPart.eq_def]
        split
        · rename_i heq
          exact absurd (List.cons.inj heq).1 hc
        · rfl
      have hparts := eq_of_beq h
      obtain ⟨_, hparts, _⟩ := Option.bind_eq_some_iff.1 hparts
      obtain ⟨_, hinteger, _⟩ := Option.bind_eq_some_iff.1 hparts
      rw [hsign, integerPart?.eq_def] at hinteger
      split at hinteger
      · rename_i heq
        rw [(List.cons.inj heq).1]
        exact .inr rfl
      · rw [digits?] at hinteger
        split at hinteger
        · rename_i hdigit
          exact .inr hdigit
        · cases hinteger

theorem begin?_letter (h : 'a' ≤ c ∧ c ≤ 'z') : begin? c = some ([], .word [c]) := by
  have hne (d : Char) (hd : ¬('a' ≤ d ∧ d ≤ 'z')) : c ≠ d := by
    rintro rfl
    exact hd h
  have hdigit : c.isDigit = false := by
    have ha : 97 ≤ c.toNat := h.1
    rw [Bool.eq_false_iff, ne_eq, Text.isDigit_iff]
    omega
  simp (disch := decide) [begin?, isSpace, h, hne, hdigit]

theorem begin?_number (h : c = '-' ∨ c.isDigit = true) : begin? c = some ([], .number [c]) := by
  rcases h with rfl | h
  · rfl
  · have hne (d : Char) (hd : d.isDigit = false) : c ≠ d := by
      rintro rfl
      rw [h] at hd
      cases hd
    simp (disch := decide) [begin?, isSpace, h, hne]

theorem scan?_literal (hn : isNumber cs = true) (hr : EndsNumber rest) :
    Mode.between.scan? (cs ++ rest) = (Mode.between.scan? rest).map (.num cs :: ·) := by
  obtain ⟨c, cs', rfl, hc⟩ := exists_cons_of_isNumber hn
  have hin := List.forall_mem_cons.1 (inNumber_of_isNumber hn)
  have hclose : (Mode.number (cs'.reverse ++ [c])).close? = some [.num (c :: cs')] := by
    rw [Mode.close?, List.reverse_append, List.reverse_reverse]
    change (ofNumber? (c :: cs')).map _ = _
    rw [ofNumber?, if_pos hn]
    rfl
  rw [List.cons_append, Mode.scan?, Mode.step?, begin?_number hc, Option.bind_some,
    scan?_number_append hin.2, scan?_number _ hr, hclose, Option.bind_some, Option.map_map]
  rfl

def Token.isClosed : Token → Bool
  | .null | .bool _ | .num _ => false
  | _ => true

/-- Whether a token can be written. The characters of a number may be no number. -/
def Token.Proper : Token → Prop
  | .num literal => isNumber literal = true
  | _ => True

theorem scan?_letters {letters : List Char} {t : Token} (hc : 'a' ≤ c ∧ c ≤ 'z')
    (hl : ∀ c ∈ letters, 'a' ≤ c ∧ c ≤ 'z') (ht : ofWord? (c :: letters) = some t)
    (hr : EndsWord rest) :
    Mode.between.scan? (c :: letters ++ rest) = (Mode.between.scan? rest).map (t :: ·) := by
  rw [List.cons_append, Mode.scan?, Mode.step?, begin?_letter hc, Option.bind_some,
    scan?_word_append hl, scan?_word _ hr, Mode.close?, List.reverse_append, List.reverse_reverse]
  change (((ofWord? (c :: letters)).map _).bind _).map _ = _
  rw [ht, Option.map_some, Option.bind_some, Option.map_map]
  rfl

def Token.Ends (t : Token) (cs : List Char) : Prop :=
  match t with
  | .null | .bool _ => EndsWord cs
  | .num _ => EndsNumber cs
  | _ => True

theorem Token.ends_of_isClosed {t : Token} (h : t.isClosed = true) (cs : List Char) :
    t.Ends cs := by
  cases t with
  | null => cases h
  | bool b => cases h
  | num literal => cases h
  | _ => trivial

theorem Stops.ends (h : Stops cs) (t : Token) : t.Ends cs := by
  cases t with
  | null => exact fun c hc => (h c hc).2
  | bool b => exact fun c hc => (h c hc).2
  | num literal => exact fun c hc => (h c hc).1
  | _ => trivial

/-- How a token may be written: in its own text or, as a string, in any that names its code
points. -/
inductive Token.Written : Token → List Char → Prop where
  | own {t : Token} (ht : t.Proper) : Written t t.text
  | quoted {cs : List Char} {ns : List Nat} (h : Codes cs ns) :
    Written (.str ((joinSurrogates ns).map .ofList)) ('"' :: (cs ++ ['"']))

theorem scan?_text {t : Token} (ht : t.Proper) (hr : t.Ends rest) :
    Mode.between.scan? (t.text ++ rest) = (Mode.between.scan? rest).map (t :: ·) := by
  cases t with
  | openArr => rfl
  | closeArr => rfl
  | openObj => rfl
  | closeObj => rfl
  | comma => rfl
  | colon => rfl
  | null =>
    have hletters : ∀ c ∈ ['u', 'l', 'l'], 'a' ≤ c ∧ c ≤ 'z' := by simp
    exact scan?_letters (by decide) hletters rfl hr
  | bool b =>
    cases b with
    | true =>
      have hletters : ∀ c ∈ ['r', 'u', 'e'], 'a' ≤ c ∧ c ≤ 'z' := by simp
      exact scan?_letters (by decide) hletters rfl hr
    | false =>
      have hletters : ∀ c ∈ ['a', 'l', 's', 'e'], 'a' ≤ c ∧ c ≤ 'z' := by simp
      exact scan?_letters (by decide) hletters rfl hr
  | num literal => exact scan?_literal ht hr
  | str s => exact scan?_stringText s rest

theorem Token.Written.scan? {t : Token} (h : t.Written cs) (hr : t.Ends rest) :
    Mode.between.scan? (cs ++ rest) = (Mode.between.scan? rest).map (t :: ·) := by
  cases h with
  | own ht => exact scan?_text ht hr
  | quoted h => exact h.scan?_quoted rest

/-- What a text with blanks between its tokens spells. -/
inductive Spells : List Char → List Token → Prop where
  | nil : Spells [] []
  | blank {c : Char} {cs : List Char} {ts : List Token} (hc : isSpace c = true)
    (h : Spells cs ts) : Spells (c :: cs) ts
  | token {t : Token} {text cs : List Char} {ts : List Token} (ht : t.Written text)
    (hcs : t.Ends cs) (h : Spells cs ts) : Spells (text ++ cs) (t :: ts)

theorem Spells.scan? {ts : List Token} (h : Spells cs ts) : scan? cs = some ts := by
  induction h with
  | nil => rfl
  | @blank c cs ts hc h ih =>
    rw [Json.scan?, Mode.scan?, Mode.step?, begin?, if_pos hc]
    change (Mode.between.scan? cs).map _ = _
    rw [← Json.scan?, ih]
    rfl
  | token ht hcs h ih =>
    rw [Json.scan?, ht.scan? hcs, ← Json.scan?, ih]
    rfl

end Catalog.Json
