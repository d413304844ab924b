import Catalog.Json.Parser
import Catalog.Proofs.Json.Token
import Mathlib.Data.List.Chain

namespace Catalog.Json

variable {cs : List Char} {ts : List Token} {stack : List Frame}

theorem advanceAll?_itemOrEnd (v : Json) (ts : List Token) :
    advanceAll? (stack, .itemOrEnd) (v.tokens ++ ts) =
      advanceAll? (.arr [] :: stack, .value) (v.tokens ++ ts) := by
  cases v with
  | null => rfl
  | bool b => rfl
  | num literal => rfl
  | str s => rfl
  | arr items => cases items <;> rfl
  | obj members => cases members <;> rfl

mutual

theorem advanceAll?_tokens (stack : List Frame) (ts : List Token) : (v : Json) →
    advanceAll? (stack, .value) (v.tokens ++ ts) = advanceAll? (stack, .after v) ts
  | .null => rfl
  | .bool _ => rfl
  | .num _ => rfl
  | .str _ => rfl
  | .arr [] => rfl
  | .obj [] => rfl
  | .arr (v :: vs) => by
    have hopen : advanceAll? (stack, .value) ((Json.arr (v :: vs)).tokens ++ ts) =
        advanceAll? (stack, .itemOrEnd) (v.tokens ++ (itemTokens vs ++ .closeArr :: ts)) := by
      simp [tokens, advanceAll?, advance?, start?]
    rw [hopen, advanceAll?_itemOrEnd, advanceAll?_tokens, advanceAll?_itemTokens]
    rfl
  | .obj ((k, v) :: ms) => by
    have hopen : advanceAll? (stack, .value) ((Json.obj ((k, v) :: ms)).tokens ++ ts) =
        advanceAll? (.obj [] k :: stack, .value) (v.tokens ++ (memberTokens ms ++ .closeObj :: ts)) := by
      simp [tokens, advanceAll?, advance?, start?]
    rw [hopen, advanceAll?_tokens, advanceAll?_memberTokens]
    rfl

theorem advanceAll?_itemTokens (stack : List Frame) (ts : List Token) (w : Json)
    (items : List Json) : (vs : List Json) →
    advanceAll? (.arr items :: stack, .after w) (itemTokens vs ++ .closeArr :: ts) =
      advanceAll? (stack, .after (.arr ((w :: items).reverse ++ vs))) ts
  | [] => by
    rw [List.append_nil]
    rfl
  | v :: vs => by
    have hcomma : advanceAll? (.arr items :: stack, .after w)
        (itemTokens (v :: vs) ++ .closeArr :: ts) =
        advanceAll? (.arr (w :: items) :: stack, .value)
          (v.tokens ++ (itemTokens vs ++ .closeArr :: ts)) := by
      simp [itemTokens, advanceAll?, advance?]
    rw [hcomma, advanceAll?_tokens, advanceAll?_itemTokens, List.reverse_cons, List.append_assoc]
    rfl

theorem advanceAll?_memberTokens (stack : List Frame) (ts : List Token) (k : Option String)
    (w : Json) (members : List Member) : (ms : List (Option String × Json)) →
    advanceAll? (.obj members k :: stack, .after w) (memberTokens ms ++ .closeObj :: ts) =
      advanceAll? (stack, .after (.obj (((k, w) :: members).reverse ++ ms))) ts
  | [] => by
    rw [List.append_nil]
    rfl
  | (k', v) :: ms => by
    have hcomma : advanceAll? (.obj members k :: stack, .after w)
        (memberTokens ((k', v) :: ms) ++ .closeObj :: ts) =
        advanceAll? (.obj ((k, w) :: members) k' :: stack, .value)
          (v.tokens ++ (memberTokens ms ++ .closeObj :: ts)) := by
      simp [memberTokens, advanceAll?, advance?]
    rw [hcomma, advanceAll?_tokens, advanceAll?_memberTokens, List.reverse_cons,
      List.append_assoc]
    rfl

end

theorem ofTokens?_tokens (v : Json) : ofTokens? v.tokens = some v := by
  have h := advanceAll?_tokens [] [] v
  rw [List.append_nil] at h
  rw [ofTokens?, h]
  rfl

/-- Whether all numbers of a document are written as numbers. -/
def Proper (v : Json) : Prop :=
  ∀ t ∈ v.tokens, t.Proper

theorem stops_text {t : Token} (h : t.isClosed = true) (cs : List Char) : Stops (t.text ++ cs) := by
  cases t with
  | null => cases h
  | bool b => cases h
  | num literal => cases h
  | str s => cases s <;> exact stops_cons rfl (by decide)
  | openArr => exact stops_cons rfl (by decide)
  | closeArr => exact stops_cons rfl (by decide)
  | openObj => exact stops_cons rfl (by decide)
  | closeObj => exact stops_cons rfl (by decide)
  | comma => exact stops_cons rfl (by decide)
  | colon => exact stops_cons rfl (by decide)

theorem Spells.own {t : Token} (ht : t.Proper) (hcs : t.isClosed = true ∨ Stops cs)
    (h : Spells cs ts) : Spells (t.text ++ cs) (t :: ts) :=
  .token (.own ht) (hcs.elim (fun h => t.ends_of_isClosed h cs) fun h => h.ends t) h

theorem Spells.closed {t : Token} (h : Spells cs ts) (ht : t.isClosed = true) :
    Spells (t.text ++ cs) (t :: ts) := by
  refine .own ?_ (.inl ht) h
  cases t with
  | num literal => cases ht
  | _ => trivial

theorem Spells.mark {t : Token} {c : Char} (h : Spells cs ts) (htext : t.text = [c])
    (ht : t.isClosed = true) : Spells (c :: cs) (t :: ts) := by
  have hc := h.closed ht
  rwa [htext] at hc

theorem Spells.blanks {blanks : List Char} (hblanks : ∀ c ∈ blanks, isSpace c = true)
    (h : Spells cs ts) : Spells (blanks ++ cs) ts := by
  induction blanks with
  | nil => exact h
  | cons c blanks ih =>
    obtain ⟨hc, hblanks⟩ := List.forall_mem_cons.1 hblanks
    exact .blank hc (ih hblanks)

theorem Spells.newline (h : Spells cs ts) (depth : Nat) : Spells (newline depth ++ cs) ts := by
  refine .blank rfl (h.blanks fun c hc => ?_)
  rw [List.eq_of_mem_replicate hc]
  rfl

theorem stops_newline (depth : Nat) (cs : List Char) : Stops (newline depth ++ cs) :=
  stops_cons rfl (by decide)

theorem stops_indentedItems (hs : Stops cs) (depth : Nat) (vs : List Json) :
    Stops (indentedItems depth vs ++ cs) := by
  cases vs with
  | nil => exact hs
  | cons v vs => exact stops_cons rfl (by decide)

theorem stops_indentedMembers (hs : Stops cs) (depth : Nat) (ms : List Member) :
    Stops (indentedMembers depth ms ++ cs) := by
  cases ms with
  | nil => exact hs
  | cons m ms => exact stops_cons rfl (by decide)

theorem Spells.member (h : Spells cs ts) (k : Option String) :
    Spells (stringText k ++ ':' :: ' ' :: cs) (.str k :: .colon :: ts) := by
  have hcolon := (Spells.blank (c := ' ') rfl h).mark (t := .colon) rfl rfl
  exact hcolon.closed (t := .str k) rfl

mutual

theorem spells_indented {cs : List Char} {ts : List Token} (hs : Stops cs) (h : Spells cs ts)
    (depth : Nat) : (v : Json) → v.Proper → Spells (indented depth v ++ cs) (v.tokens ++ ts)
  | .null, hv => .own (hv _ List.mem_cons_self) (.inr hs) h
  | .bool true, hv => .own (hv _ List.mem_cons_self) (.inr hs) h
  | .bool false, hv => .own (hv _ List.mem_cons_self) (.inr hs) h
  | .num _, hv => .own (hv _ List.mem_cons_self) (.inr hs) h
  | .str s, _ => h.closed (t := .str s) rfl
  | .arr [], _ => (h.mark (t := .closeArr) rfl rfl).mark (t := .openArr) rfl rfl
  | .obj [], _ => (h.mark (t := .closeObj) rfl rfl).mark (t := .openObj) rfl rfl
  | .arr (v :: vs), hv => by
    -- from the end to the beginning, as what a text spells depends on what stands behind it
    have hclose := (h.mark (t := .closeArr) rfl rfl).newline depth
    have hstops := stops_newline depth (']' :: cs)
    have hitems := spells_indentedItems hstops hclose (depth + 1) vs fun t ht =>
      hv t (by simp [tokens, ht])
    have hfirst := spells_indented (stops_indentedItems hstops (depth + 1) vs) hitems (depth + 1) v
      fun t ht => hv t (by simp [tokens, ht])
    have hall := (hfirst.newline (depth + 1)).mark (t := .openArr) rfl rfl
    simpa only [indented, tokens, List.append_assoc, List.cons_append, List.nil_append] using hall
  | .obj ((k, v) :: ms), hv => by
    have hclose := (h.mark (t := .closeObj) rfl rfl).newline depth
    have hstops := stops_newline depth ('\x7d' :: cs)
    have hmembers := spells_indentedMembers hstops hclose (depth + 1) ms fun t ht =>
      hv t (by simp [tokens, ht])
    have hfirst := spells_indented (stops_indentedMembers hstops (depth + 1) ms) hmembers
      (depth + 1) v fun t ht => hv t (by simp [tokens, ht])
    have hall := ((hfirst.member k).newline (depth + 1)).mark (t := .openObj) rfl rfl
    simpa only [indented, tokens, List.append_assoc, List.cons_append, List.nil_append] using hall

theorem spells_indentedItems {cs : List Char} {ts : List Token} (hs : Stops cs)
    (h : Spells cs ts) (depth : Nat) : (vs : List Json) → (∀ t ∈ itemTokens vs, t.Proper) →
    Spells (indentedItems depth vs ++ cs) (itemTokens vs ++ ts)
  | [], _ => h
  | v :: vs, hv => by
    have hitems := spells_indentedItems hs h depth vs fun t ht => hv t (by simp [itemTokens, ht])
    have hfirst := spells_indented (stops_indentedItems hs depth vs) hitems depth v fun t ht =>
      hv t (by simp [itemTokens, ht])
    have hall := (hfirst.newline depth).mark (t := .comma) rfl rfl
    simpa only [indentedItems, itemTokens, List.append_assoc, List.cons_append, List.nil_append]
      using hall

theorem spells_indentedMembers {cs : List Char} {ts : List Token} (hs : Stops cs)
    (h : Spells cs ts) (depth : Nat) : (ms : List (Option String × Json)) →
    (∀ t ∈ memberTokens ms, t.Proper) →
    Spells (indentedMembers depth ms ++ cs) (memberTokens ms ++ ts)
  | [], _ => h
  | (k, v) :: ms, hv => by
    have hmembers := spells_indentedMembers hs h depth ms fun t ht =>
      hv t (by simp [memberTokens, ht])
    have hfirst := spells_indented (stops_indentedMembers hs depth ms) hmembers depth v fun t ht =>
      hv t (by simp [memberTokens, ht])
    have hall := ((hfirst.member k).newline depth).mark (t := .comma) rfl rfl
    simpa only [indentedMembers, memberTokens, List.append_assoc, List.cons_append,
      List.nil_append] using hall

end

/-- Whether of two tokens side by side one ends by itself or the other shows that it has ended. -/
def Apart (t u : Token) : Prop :=
  t.isClosed = true ∨ u.isClosed = true

theorem spells_flatMap (hproper : ∀ t ∈ ts, t.Proper) (h : ts.IsChain Apart) :
    Spells (ts.flatMap Token.text) ts := by
  induction ts with
  | nil => exact .nil
  | cons t ts ih =>
    obtain ⟨ht, hts⟩ := List.forall_mem_cons.1 hproper
    rw [List.flatMap_cons]
    refine .own ht ?_ (ih hts h.tail)
    cases ts with
    | nil => exact .inr stops_nil
    | cons u us => exact (h.rel_head? rfl).imp_right fun hu => stops_text hu _

/-- Tokens that are told apart, and from whatever stands before them. -/
structure Follows (ts : List Token) : Prop where
  apart : ts.IsChain Apart
  first : ∀ u ∈ ts.head?, u.isClosed = true

theorem Follows.nil : Follows [] :=
  ⟨.nil, fun _ hu => nomatch hu⟩

theorem Follows.after (h : Follows ts) (t : Token) : (t :: ts).IsChain Apart :=
  h.apart.cons fun u hu => .inr (h.first u hu)

theorem isChain_cons {t : Token} (ht : t.isClosed = true) (h : ts.IsChain Apart) :
    (t :: ts).IsChain Apart :=
  h.cons fun _ _ => .inl ht

theorem follows_cons {t : Token} (ht : t.isClosed = true) (h : ts.IsChain Apart) :
    Follows (t :: ts) := by
  refine ⟨isChain_cons ht h, fun u hu => ?_⟩
  cases hu
  exact ht

mutual

theorem isChain_tokens {ts : List Token} (h : Follows ts) : (v : Json) →
    (v.tokens ++ ts).IsChain Apart
  | .null => h.after _
  | .bool _ => h.after _
  | .num _ => h.after _
  | .str _ => h.after _
  | .arr [] => isChain_cons rfl (isChain_cons rfl h.apart)
  | .obj [] => isChain_cons rfl (isChain_cons rfl h.apart)
  | .arr (v :: vs) => by
    have hclose : Follows (.closeArr :: ts) := follows_cons rfl h.apart
    have hfirst := isChain_tokens (follows_itemTokens hclose vs) v
    simpa only [tokens, List.append_assoc, List.cons_append, List.nil_append]
      using isChain_cons (t := .openArr) rfl hfirst
  | .obj ((k, v) :: ms) => by
    have hclose : Follows (.closeObj :: ts) := follows_cons rfl h.apart
    have hfirst := isChain_tokens (follows_memberTokens hclose ms) v
    have hkey := isChain_cons (t := .str k) rfl (isChain_cons (t := .colon) rfl hfirst)
    simpa only [tokens, List.append_assoc, List.cons_append, List.nil_append]
      using isChain_cons (t := .openObj) rfl hkey

theorem follows_itemTokens {ts : List Token} (h : Follows ts) : (vs : List Json) →
    Follows (itemTokens vs ++ ts)
  | [] => h
  | v :: vs => by
    have hfirst := isChain_tokens (follows_itemTokens h vs) v
    simpa only [itemTokens, List.append_assoc, List.cons_append]
      using follows_cons (t := .comma) rfl hfirst

theorem follows_memberTokens {ts : List Token} (h : Follows ts) :
    (ms : List (Option String × Json)) → Follows (memberTokens ms ++ ts)
  | [] => h
  | (k, v) :: ms => by
    have hfirst := isChain_tokens (follows_memberTokens h ms) v
    have hkey := isChain_cons (t := .str k) rfl (isChain_cons (t := .colon) rfl hfirst)
    simpa only [memberTokens, List.append_assoc, List.cons_append]
      using follows_cons (t := .comma) rfl hkey

end

theorem parse?_of_spells {s : String} {v : Json} (h : Spells s.toList v.tokens) :
    parse? s = some v := by
  rw [parse?, h.scan?]
  exact ofTokens?_tokens v

theorem parse?_compact {v : Json} (h : v.Proper) : parse? v.compact = some v := by
  have hchain := isChain_tokens .nil v
  rw [List.append_nil] at hchain
  apply parse?_of_spells
  rw [compact, String.toList_ofList]
  exact spells_flatMap h hchain

theorem parse?_pretty {v : Json} (h : v.Proper) : parse? (v.pretty ++ "\n") = some v := by
  have hend : Spells ['\n'] [] := .blank rfl .nil
  have hspells := spells_indented (stops_cons rfl (by decide)) hend 0 v h
  rw [List.append_nil] at hspells
  apply parse?_of_spells
  rw [String.toList_append, pretty, String.toList_ofList]
  exact hspells

end Catalog.Json
