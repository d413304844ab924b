import Catalog.Proofs.Json.Document

namespace Catalog.Json

open Text (hexDigit?)

variable {c : Char} {cs rest : List Char} {t : Token} {ts : List Token} {v : Json}

def SpellsString (points : List Nat) (cs : List Char) (ts : List Token) : Prop :=
  ∃ (body rest : List Char) (ns : List Nat) (ts' : List Token), Codes body ns ∧
    cs = body ++ '"' :: rest ∧ Spells rest ts' ∧
    ts = .str ((joinSurrogates (points.reverse ++ ns)).map .ofList) :: ts'

/-- What is spelled by a text at which a scan stands: with the characters of the token that it is
inside of, the text would spell this from the beginning of that token. -/
def Mode.Spells : Mode → List Char → List Token → Prop
  | .between, cs, ts => Json.Spells cs ts
  | .word letters, cs, ts =>
    ∃ more rest t ts', cs = more ++ rest ∧ ofWord? (letters.reverse ++ more) = some t ∧
      EndsWord rest ∧ Json.Spells rest ts' ∧ ts = t :: ts'
  | .number chars, cs, ts =>
    ∃ more rest ts', cs = more ++ rest ∧ isNumber (chars.reverse ++ more) = true ∧
      EndsNumber rest ∧ Json.Spells rest ts' ∧ ts = .num (chars.reverse ++ more) :: ts'
  | .string points, cs, ts => SpellsString points cs ts
  | .escape points, cs, ts => SpellsString points ('\\' :: cs) ts
  | .hex points value left, cs, ts =>
    ∀ read : List Char, hexFrom? 0 read = some value → read.length + left = 4 → 0 < left →
      SpellsString points ('\\' :: 'u' :: (read ++ cs)) ts

theorem SpellsString.plain {points : List Nat} (h : SpellsString (c.toNat :: points) cs ts)
    (hquote : c ≠ '"') (hslash : c ≠ '\\') (hc : ¬c < ' ') : SpellsString points (c :: cs) ts := by
  obtain ⟨body, rest, ns, ts', hbody, rfl, hrest, rfl⟩ := h
  refine ⟨c :: body, rest, c.toNat :: ns, ts', .plain hquote hslash hc hbody, rfl, hrest, ?_⟩
  rw [List.reverse_cons, List.append_assoc]
  rfl

theorem SpellsString.escaped {points : List Nat} {e : Char}
    (h : SpellsString (c.toNat :: points) cs ts) (he : escaped? e = some c) :
    SpellsString points ('\\' :: e :: cs) ts := by
  obtain ⟨body, rest, ns, ts', hbody, rfl, hrest, rfl⟩ := h
  refine ⟨'\\' :: e :: body, rest, c.toNat :: ns, ts', .escaped he hbody, rfl, hrest, ?_⟩
  rw [List.reverse_cons, List.append_assoc]
  rfl

theorem SpellsString.hex {points : List Nat} {n : Nat} {ds : List Char}
    (h : SpellsString (n :: points) cs ts) (hlen : ds.length = 4) (hn : hexFrom? 0 ds = some n) :
    SpellsString points ('\\' :: 'u' :: (ds ++ cs)) ts := by
  obtain ⟨body, rest, ns, ts', hbody, rfl, hrest, rfl⟩ := h
  refine ⟨'\\' :: 'u' :: (ds ++ body), rest, n :: ns, ts', .hex hlen hn hbody, ?_, hrest, ?_⟩
  · simp
  · rw [List.reverse_cons, List.append_assoc]
    rfl

theorem hexFrom?_append {ds : List Char} {acc n d : Nat} (h : hexFrom? acc ds = some n)
    (hd : hexDigit? c = some d) : hexFrom? acc (ds ++ [c]) = some (16 * n + d) := by
  induction ds generalizing acc with
  | nil =>
    cases h
    rw [List.nil_append, hexFrom?, hd]
    rfl
  | cons c' ds ih =>
    rw [hexFrom?] at h
    obtain ⟨d', hd', h⟩ := Option.bind_eq_some_iff.1 h
    rw [List.cons_append, hexFrom?, hd', Option.bind_some, ih h]

theorem written_of_ofWord? {letters : List Char} (h : ofWord? letters = some t) :
    t.Written letters ∧ ∀ cs, EndsWord cs → t.Ends cs := by
  rw [ofWord?] at h
  split at h
  · rename_i hletters
    cases h
    exact ⟨hletters ▸ .own (t := .null) trivial, fun _ hcs => hcs⟩
  · split at h
    · rename_i hletters
      cases h
      exact ⟨hletters ▸ .own (t := .bool true) trivial, fun _ hcs => hcs⟩
    · split at h
      · rename_i hletters
        cases h
        exact ⟨hletters ▸ .own (t := .bool false) trivial, fun _ hcs => hcs⟩
      · cases h

theorem spells_string (h : SpellsString [] cs ts) : Spells ('"' :: cs) ts := by
  obtain ⟨body, rest, ns, ts', hbody, rfl, hrest, rfl⟩ := h
  have hstring := Spells.token (.quoted hbody) trivial hrest
  rwa [List.cons_append, List.append_assoc] at hstring

theorem begin?_cases {r : List Token × Mode} (h : begin? c = some r) :
    (isSpace c = true ∧ r = ([], .between)) ∨
    (∃ t : Token, t.text = [c] ∧ t.isClosed = true ∧ r = ([t], .between)) ∨
    (c = '"' ∧ r = ([], .string [])) ∨ r = ([], .number [c]) ∨ r = ([], .word [c]) := by
  rw [begin?] at h
  split_ifs at h with hspace hopen hclose hopen' hclose' hcomma hcolon hquote hnumber hword
  · exact .inl ⟨hspace, (Option.some.inj h).symm⟩
  · exact .inr (.inl ⟨_, hopen ▸ rfl, rfl, (Option.some.inj h).symm⟩)
  · exact .inr (.inl ⟨_, hclose ▸ rfl, rfl, (Option.some.inj h).symm⟩)
  · exact .inr (.inl ⟨_, hopen' ▸ rfl, rfl, (Option.some.inj h).symm⟩)
  · exact .inr (.inl ⟨_, hclose' ▸ rfl, rfl, (Option.some.inj h).symm⟩)
  · exact .inr (.inl ⟨_, hcomma ▸ rfl, rfl, (Option.some.inj h).symm⟩)
  · exact .inr (.inl ⟨_, hcolon ▸ rfl, rfl, (Option.some.inj h).symm⟩)
  · exact .inr (.inr (.inl ⟨hquote, (Option.some.inj h).symm⟩))
  · exact .inr (.inr (.inr (.inl (Option.some.inj h).symm)))
  · exact .inr (.inr (.inr (.inr (Option.some.inj h).symm)))

theorem spells_begin {r : List Token × Mode} (h : begin? c = some r) (hs : r.2.Spells cs ts) :
    Spells (c :: cs) (r.1 ++ ts) := by
  rcases begin?_cases h with ⟨hspace, rfl⟩ | ⟨t, htext, hclosed, rfl⟩ | ⟨rfl, rfl⟩ | rfl | rfl
  · exact .blank hspace hs
  · exact Spells.mark hs htext hclosed
  · exact spells_string hs
  · obtain ⟨more, rest, ts', rfl, hn, hends, hrest, rfl⟩ := hs
    exact .token (.own (t := .num (c :: more)) hn) hends hrest
  · obtain ⟨more, rest, t, ts', rfl, ht, hends, hrest, rfl⟩ := hs
    obtain ⟨hwritten, hstop⟩ := written_of_ofWord? ht
    exact .token hwritten (hstop rest hends) hrest

/-- The token that a scan is inside of does not go on with the characters. -/
def Mode.EndsBefore (m : Mode) (cs : List Char) : Prop :=
  match m with
  | .word _ => EndsWord cs
  | .number _ => EndsNumber cs
  | _ => True

theorem Mode.spells_of_close? {m : Mode} {closed : List Token} (h : m.close? = some closed)
    (hends : m.EndsBefore cs) (hs : Json.Spells cs ts) : m.Spells cs (closed ++ ts) := by
  cases m with
  | between =>
    cases h
    exact hs
  | word letters =>
    obtain ⟨t, ht, rfl⟩ := Option.map_eq_some_iff.1 h
    refine ⟨[], cs, t, ts, rfl, ?_, hends, hs, rfl⟩
    rw [List.append_nil, ht]
  | number chars =>
    obtain ⟨t, ht, rfl⟩ := Option.map_eq_some_iff.1 h
    rw [ofNumber?] at ht
    split at ht
    · rename_i hn
      cases ht
      refine ⟨[], cs, ts, rfl, ?_, hends, hs, ?_⟩
      · rw [List.append_nil, hn]
      · rw [List.append_nil]
        rfl
    · cases ht
  | string points => cases h
  | escape points => cases h
  | hex points value left => cases h

theorem Mode.spells_of_thenBegin? {m : Mode} {r : List Token × Mode}
    (h : m.thenBegin? c = some r) (hends : m.EndsBefore (c :: cs)) (hs : r.2.Spells cs ts) :
    m.Spells (c :: cs) (r.1 ++ ts) := by
  obtain ⟨closed, hclose, h⟩ := Option.bind_eq_some_iff.1 h
  obtain ⟨begun, hbegun, rfl⟩ := Option.map_eq_some_iff.1 h
  rw [List.append_assoc]
  exact spells_of_close? hclose hends (spells_begin hbegun hs)

theorem Mode.spells_hex_cons {points : List Nat} {value left d : Nat} (hd : hexDigit? c = some d)
    (hs : (if left ≤ 1 then Mode.string ((16 * value + d) :: points)
      else .hex points (16 * value + d) (left - 1)).Spells cs ts) :
    (Mode.hex points value left).Spells (c :: cs) ts := by
  intro read hread hlen hleft
  have hnext := hexFrom?_append hread hd
  have hlength : (read ++ [c]).length = read.length + 1 := List.length_append
  have happend : read ++ c :: cs = read ++ [c] ++ cs := by
    rw [List.append_assoc, List.singleton_append]
  rw [happend]
  -- the fourth digit ends the escape
  split_ifs at hs with hlast
  · exact SpellsString.hex hs (by omega) hnext
  · exact hs (read ++ [c]) hnext (by omega) (by omega)

theorem Mode.spells_step {m : Mode} {r : List Token × Mode} (h : m.step? c = some r)
    (hs : r.2.Spells cs ts) : m.Spells (c :: cs) (r.1 ++ ts) := by
  cases m with
  | between => exact spells_begin h hs
  | word letters =>
    rw [Mode.step?] at h
    split_ifs at h with hc
    · cases h
      obtain ⟨more, rest, t, ts', rfl, ht, hends, hrest, rfl⟩ := hs
      refine ⟨c :: more, rest, t, ts', rfl, ?_, hends, hrest, rfl⟩
      rwa [List.reverse_cons, List.append_assoc] at ht
    · refine spells_of_thenBegin? h (fun d hd => ?_) hs
      cases hd
      exact hc
  | number chars =>
    rw [Mode.step?] at h
    split_ifs at h with hc
    · cases h
      obtain ⟨more, rest, ts', rfl, hn, hends, hrest, rfl⟩ := hs
      rw [List.reverse_cons, List.append_assoc] at hn
      refine ⟨c :: more, rest, ts', rfl, hn, hends, hrest, ?_⟩
      rw [List.reverse_cons, List.append_assoc]
      rfl
    · refine spells_of_thenBegin? h (fun d hd => ?_) hs
      cases hd
      exact Bool.eq_false_iff.2 hc
  | string points =>
    rw [Mode.step?] at h
    split_ifs at h with hquote hslash hcontrol
    · subst hquote
      cases h
      refine ⟨[], cs, [], ts, .nil, rfl, hs, ?_⟩
      rw [List.append_nil]
      rfl
    · -- a backslash is kept for what is read after it
      subst hslash
      cases h
      exact hs
    · cases h
      exact hs.plain hquote hslash hcontrol
  | escape points =>
    rw [Mode.step?] at h
    split_ifs at h with hu
    · subst hu
      cases h
      exact hs [] rfl rfl (by decide)
    · obtain ⟨e, he, rfl⟩ := Option.map_eq_some_iff.1 h
      exact hs.escaped he
  | hex points value left =>
    obtain ⟨d, hd, rfl⟩ := Option.map_eq_some_iff.1 h
    exact spells_hex_cons hd hs

theorem Mode.spells_of_scan? {m : Mode} (h : m.scan? cs = some ts) : m.Spells cs ts := by
  induction cs generalizing m ts with
  | nil =>
    have hs : m.Spells [] (ts ++ []) := by
      refine spells_of_close? h ?_ .nil
      cases m with
      | word letters => exact fun _ hc => nomatch hc
      | number chars => exact fun _ hc => nomatch hc
      | _ => trivial
    rwa [List.append_nil] at hs
  | cons c cs ih =>
    obtain ⟨r, hr, h⟩ := Option.bind_eq_some_iff.1 h
    obtain ⟨ts', hts', rfl⟩ := Option.map_eq_some_iff.1 h
    exact spells_step hr (ih hts')

/-- The tokens of a text are those that it spells. -/
theorem scan?_eq_some_iff : scan? cs = some ts ↔ Spells cs ts :=
  ⟨Mode.spells_of_scan?, Spells.scan?⟩

def openItems : List Json → List Token
  | [] => [.openArr]
  | v :: vs => .openArr :: (v.tokens ++ itemTokens vs)

def openMembers : List Member → List Token
  | [] => [.openObj]
  | (k, v) :: ms => .openObj :: .str k :: .colon :: (v.tokens ++ memberTokens ms)

def commaAfter {α : Type} (xs : List α) : List Token :=
  if xs.isEmpty then [] else [.comma]

def Frame.read : Frame → List Token
  | .arr items => openItems items.reverse ++ commaAfter items
  | .obj ms k => openMembers ms.reverse ++ commaAfter ms ++ [.str k, .colon]

/-- The tokens that have been read inside of the containers. -/
def Phase.read : Phase → List Token
  | .value => []
  | .itemOrEnd => [.openArr]
  | .keyOrEnd => [.openObj]
  | .key ms => openMembers ms.reverse ++ commaAfter ms
  | .colon ms k => openMembers ms.reverse ++ commaAfter ms ++ [.str k]
  | .after v => v.tokens

def readStack (stack : List Frame) : List Token :=
  stack.reverse.flatMap Frame.read

def readTokens (p : Progress) : List Token :=
  readStack p.1 ++ p.2.read

theorem readStack_cons (f : Frame) (stack : List Frame) :
    readStack (f :: stack) = readStack stack ++ f.read := by
  rw [readStack, List.reverse_cons, List.flatMap_append, List.flatMap_singleton]
  rfl

theorem itemTokens_append (vs vs' : List Json) :
    itemTokens (vs ++ vs') = itemTokens vs ++ itemTokens vs' := by
  induction vs with
  | nil => rfl
  | cons v vs ih => rw [List.cons_append, itemTokens, itemTokens, ih, List.append_assoc]

theorem memberTokens_append (ms ms' : List Member) :
    memberTokens (ms ++ ms') = memberTokens ms ++ memberTokens ms' := by
  induction ms with
  | nil => rfl
  | cons m ms ih => simp [memberTokens, ih]

theorem openItems_concat (vs : List Json) (v : Json) :
    openItems (vs ++ [v]) = openItems vs ++ commaAfter vs ++ v.tokens := by
  cases vs with
  | nil => simp [openItems, commaAfter, itemTokens]
  | cons w vs => simp [openItems, commaAfter, itemTokens, itemTokens_append]

theorem openMembers_concat (ms : List Member) (k : Option String) (v : Json) :
    openMembers (ms ++ [(k, v)]) =
      openMembers ms ++ commaAfter ms ++ [.str k, .colon] ++ v.tokens := by
  cases ms with
  | nil => simp [openMembers, commaAfter, memberTokens]
  | cons m ms => simp [openMembers, commaAfter, memberTokens, memberTokens_append]

theorem tokens_arr (vs : List Json) : (Json.arr vs).tokens = openItems vs ++ [.closeArr] := by
  cases vs <;> simp [tokens, openItems]

theorem tokens_obj (ms : List Member) : (Json.obj ms).tokens = openMembers ms ++ [.closeObj] := by
  cases ms <;> simp [tokens, openMembers]

theorem commaAfter_reverse {α : Type} (xs : List α) : commaAfter xs.reverse = commaAfter xs := by
  rw [commaAfter, commaAfter, List.isEmpty_reverse]

theorem readTokens_start? {stack : List Frame} {p : Progress} (h : start? stack t = some p) :
    readTokens p = readStack stack ++ [t] := by
  cases t <;> cases h <;> rfl

theorem openItems_reverse_cons (v : Json) (items : List Json) :
    openItems (v :: items).reverse = (Frame.arr items).read ++ v.tokens := by
  rw [List.reverse_cons, openItems_concat, commaAfter_reverse]
  rfl

theorem openMembers_reverse_cons (k : Option String) (v : Json) (ms : List Member) :
    openMembers ((k, v) :: ms).reverse = (Frame.obj ms k).read ++ v.tokens := by
  rw [List.reverse_cons, openMembers_concat, commaAfter_reverse]
  rfl

theorem readTokens_advance? {p q : Progress} (h : advance? p t = some q) :
    readTokens q = readTokens p ++ [t] := by
  rw [advance?.eq_def] at h
  split at h
  · rw [readTokens_start? h, readTokens, Phase.read, List.append_nil]
  · cases h
    simp [readTokens, Phase.read, tokens]
  · rw [readTokens_start? h, readStack_cons]
    rfl
  · cases h
    simp [readTokens, Phase.read, tokens]
  · cases h
    simp [readTokens, Phase.read, openMembers, commaAfter]
  · cases h
    simp [readTokens, Phase.read]
  · cases h
    simp [readTokens, Phase.read, readStack_cons, Frame.read]
  · cases h
    rw [readTokens, readStack_cons, Frame.read, openItems_reverse_cons]
    simp [readTokens, Phase.read, readStack_cons, commaAfter]
  · cases h
    rw [readTokens, Phase.read, tokens_arr, openItems_reverse_cons]
    simp [readTokens, Phase.read, readStack_cons]
  · cases h
    rw [readTokens, Phase.read, openMembers_reverse_cons]
    simp [readTokens, Phase.read, readStack_cons, commaAfter]
  · cases h
    rw [readTokens, Phase.read, tokens_obj, openMembers_reverse_cons]
    simp [readTokens, Phase.read, readStack_cons]
  · cases h

theorem readTokens_advanceAll? {p q : Progress} (h : advanceAll? p ts = some q) :
    readTokens q = readTokens p ++ ts := by
  induction ts generalizing p with
  | nil =>
    cases h
    rw [List.append_nil]
  | cons t ts ih =>
    obtain ⟨p', hp, h⟩ := Option.bind_eq_some_iff.1 h
    rw [ih h, readTokens_advance? hp, List.append_assoc]
    rfl

theorem ofTokens?_eq_some_iff : ofTokens? ts = some v ↔ ts = v.tokens := by
  constructor
  · intro h
    obtain ⟨p, hp, hwhole⟩ := Option.bind_eq_some_iff.1 h
    have hread := readTokens_advanceAll? hp
    rw [whole?.eq_def] at hwhole
    split at hwhole
    · cases hwhole
      exact hread.symm
    · cases hwhole
  · rintro rfl
    exact ofTokens?_tokens v

/-- Whether a text is one of a document. -/
def IsText (v : Json) (s : String) : Prop :=
  Spells s.toList v.tokens

/-- A document is read from its texts and no others. -/
theorem parse?_eq_some_iff {s : String} : parse? s = some v ↔ v.IsText s := by
  rw [parse?, Option.bind_eq_some_iff]
  simp only [scan?_eq_some_iff, ofTokens?_eq_some_iff]
  constructor
  · rintro ⟨_, h, rfl⟩
    exact h
  · intro h
    exact ⟨_, h, rfl⟩

theorem stops_of_isSpace (h : isSpace c = true) (cs : List Char) : Stops (c :: cs) := by
  simp only [isSpace, Bool.or_eq_true, beq_iff_eq] at h
  rcases h with ((rfl | rfl) | rfl) | rfl <;> exact stops_cons rfl (by decide)

theorem Token.Ends.append_blank (h : t.Ends cs) (hc : isSpace c = true) (rest : List Char) :
    t.Ends (cs ++ c :: rest) := by
  cases cs with
  | nil => exact (stops_of_isSpace hc rest).ends t
  | cons d cs => cases t <;> exact h

theorem Spells.append_blank {ts' : List Token} (h : Spells cs ts) (hc : isSpace c = true)
    (hrest : Spells (c :: rest) ts') : Spells (cs ++ c :: rest) (ts ++ ts') := by
  induction h with
  | nil => exact hrest
  | blank hc _ ih => exact .blank hc ih
  | token ht hends _ ih =>
    rw [List.append_assoc]
    exact .token ht (hends.append_blank hc rest) ih

/-- Blanks between two tokens of a text change nothing. -/
theorem Spells.insert_blanks {blanks : List Char} {ts' : List Token} (hcs : Spells cs ts)
    (hrest : Spells rest ts') (hall : Spells (cs ++ rest) (ts ++ ts'))
    (hblanks : ∀ c ∈ blanks, isSpace c = true) :
    Spells (cs ++ blanks ++ rest) (ts ++ ts') := by
  cases blanks with
  | nil => rwa [List.append_nil]
  | cons c blanks =>
    obtain ⟨hc, hblanks⟩ := List.forall_mem_cons.1 hblanks
    rw [List.append_assoc]
    exact hcs.append_blank hc (.blank hc (hrest.blanks hblanks))

end Catalog.Json
