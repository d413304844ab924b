import Catalog.Json.Record
import Catalog.Proofs.Json.Document
import Catalog.Proofs.Json.Member
import Mathlib.Data.List.TakeWhile

namespace Catalog.Json

variable {α : Type} {cs : List Char} {n : Nat}

theorem proper_null : Json.null.Proper := by
  intro t ht
  cases List.mem_singleton.1 ht
  trivial

theorem proper_text (s : String) : (Json.text s).Proper := by
  intro t ht
  cases List.mem_singleton.1 ht
  trivial

theorem integerPart?_toDigits (n : Nat) : integerPart? (Nat.toDigits 10 n) = some [] := by
  rw [integerPart?.eq_def]
  split
  · rename_i cs h
    rw [Decimal.eq_zero_of_toDigits_eq h, Nat.toDigits_zero] at h
    cases h
    rfl
  · obtain ⟨c, cs, hcs⟩ := List.exists_cons_of_ne_nil (Nat.toDigits_ne_nil (n := n) (b := 10))
    have hdigits : ∀ d ∈ c :: cs, d.isDigit = true := fun d hd =>
      Decimal.isDigit_of_mem_toDigits (hcs ▸ hd)
    obtain ⟨hc, hrest⟩ := List.forall_mem_cons.1 hdigits
    have hdrop : cs.dropWhile Char.isDigit = [] := List.dropWhile_eq_nil_iff.2 hrest
    rw [hcs, digits?, if_pos hc, hdrop]

theorem isNumber_toString (n : Int) : isNumber (toString n).toList = true := by
  have hsign : unsignedPart (toString n).toList = Nat.toDigits 10 n.natAbs := by
    cases n with
    | ofNat n =>
      change unsignedPart (toString n).toList = _
      rw [Decimal.toList_toString, unsignedPart.eq_def]
      split
      · rename_i h
        have hminus : '-'.isDigit = true := Decimal.isDigit_of_mem_toDigits (h ▸ List.mem_cons_self)
        cases hminus
      · rfl
    | negSucc n => rw [Decimal.toList_toString_negSucc, unsignedPart, Int.natAbs_negSucc]
  rw [isNumber, hsign, integerPart?_toDigits]
  rfl

theorem proper_int (n : Int) : (Json.int n).Proper := by
  intro t ht
  cases List.mem_singleton.1 ht
  exact isNumber_toString n

theorem proper_itemTokens {vs : List Json} (h : ∀ v ∈ vs, v.Proper) :
    ∀ t ∈ itemTokens vs, t.Proper := by
  induction vs with
  | nil => exact List.forall_mem_nil _
  | cons v vs ih =>
    obtain ⟨hv, hvs⟩ := List.forall_mem_cons.1 h
    exact List.forall_mem_cons.2 ⟨trivial, List.forall_mem_append.2 ⟨hv, ih hvs⟩⟩

theorem proper_arr {vs : List Json} (h : ∀ v ∈ vs, v.Proper) : (Json.arr vs).Proper := by
  have hmark : ∀ t ∈ [Token.closeArr], t.Proper := List.forall_mem_singleton.2 trivial
  cases vs with
  | nil => exact List.forall_mem_cons.2 ⟨trivial, hmark⟩
  | cons v vs =>
    obtain ⟨hv, hvs⟩ := List.forall_mem_cons.1 h
    have hitems := List.forall_mem_append.2 ⟨hv, proper_itemTokens hvs⟩
    exact List.forall_mem_cons.2 ⟨trivial, List.forall_mem_append.2 ⟨hitems, hmark⟩⟩

theorem proper_memberTokens {ms : List Member} (h : ∀ m ∈ ms, m.2.Proper) :
    ∀ t ∈ memberTokens ms, t.Proper := by
  induction ms with
  | nil => exact List.forall_mem_nil _
  | cons m ms ih =>
    obtain ⟨hm, hms⟩ := List.forall_mem_cons.1 h
    have hrest := List.forall_mem_append.2 ⟨hm, ih hms⟩
    exact List.forall_mem_cons.2 ⟨trivial, List.forall_mem_cons.2 ⟨trivial,
      List.forall_mem_cons.2 ⟨trivial, hrest⟩⟩⟩

theorem proper_obj {ms : List Member} (h : ∀ m ∈ ms, m.2.Proper) : (Json.obj ms).Proper := by
  have hmark : ∀ t ∈ [Token.closeObj], t.Proper := List.forall_mem_singleton.2 trivial
  cases ms with
  | nil => exact List.forall_mem_cons.2 ⟨trivial, hmark⟩
  | cons m ms =>
    obtain ⟨hm, hms⟩ := List.forall_mem_cons.1 h
    have hmembers := List.forall_mem_append.2 ⟨hm, proper_memberTokens hms⟩
    have hall := List.forall_mem_append.2 ⟨hmembers, hmark⟩
    exact List.forall_mem_cons.2 ⟨trivial, List.forall_mem_cons.2 ⟨trivial,
      List.forall_mem_cons.2 ⟨trivial, hall⟩⟩⟩

theorem proper_ofMembers {ms : List (String × Json)} (h : ∀ m ∈ ms, m.2.Proper) :
    (ofMembers ms).Proper := by
  apply proper_obj
  intro m hm
  obtain ⟨m', hm', rfl⟩ := List.mem_map.1 hm
  exact h m' hm'

theorem keys?_ofMembers (ms : List (String × Json)) :
    keys? (ms.map fun m => (some m.1, m.2)) = some (ms.map Prod.fst) := by
  have hkey : (Prod.fst ∘ fun m : String × Json => (some m.1, m.2)) = fun m => pure m.1 := rfl
  rw [keys?, List.mapM_map, hkey, List.mapM_pure]
  rfl

theorem named_ofMembers {ms : List (String × Json)} (h : (ms.map Prod.fst).Nodup)
    (name : String) : named name (ms.map fun m => (some m.1, m.2)) =
      (ms.lookup name).toList.map fun v => (some name, v) := by
  induction ms with
  | nil => rfl
  | cons m ms ih =>
    obtain ⟨hm, hms⟩ := List.nodup_cons.1 h
    rw [List.map_cons]
    by_cases hname : m.1 = name
    · subst hname
      have hrest : named m.1 (ms.map fun m => (some m.1, m.2)) = [] := by
        refine named_eq_nil fun m' hm' hkey => ?_
        obtain ⟨m'', hm'', rfl⟩ := List.mem_map.1 hm'
        exact hm (List.mem_map.2 ⟨m'', hm'', Option.some.inj hkey⟩)
      rw [named_cons_self, hrest, List.lookup_cons_self]
      rfl
    · have hlookup : (m :: ms).lookup name = ms.lookup name := by
        rw [List.lookup_cons, beq_eq_false_iff_ne.2 (Ne.symm hname)]
      rw [named_cons_of_ne hname, hlookup, ih hms]

theorem fields?_ofMembers {ms : List (String × Json)} (h : (ms.map Prod.fst).Nodup)
    (names : List String) (mayEndEarly : Bool) :
    (ofMembers ms).fields? names mayEndEarly = some (names.map fun name => ms.lookup name) := by
  have hnamed : WellNamed names (ms.map fun m => (some m.1, m.2)) := by
    refine ⟨fun m hm => ?_, fun name _ => ?_⟩
    · obtain ⟨_, _, rfl⟩ := List.mem_map.1 hm
      rfl
    · rw [named_ofMembers h]
      cases ms.lookup name <;> simp
  have hvalue : valueOf (ms.map fun m => (some m.1, m.2)) = fun name => ms.lookup name := by
    funext name
    rw [valueOf, named_ofMembers h]
    cases ms.lookup name <;> rfl
  rw [ofMembers, fields?_obj hnamed, hvalue]

theorem toString_ne_minusZero (n : Int) : (toString n).toList ≠ ['-', '0'] := by
  intro h
  have hn := Decimal.signed?_toString n
  rw [h] at hn
  cases hn
  revert h
  decide

theorem int64?_int (n : Int64) : int64? (.int n.toInt) = some n := by
  rw [int, int64?.eq_def]
  split
  · rename_i h
    exact absurd (Json.num.inj h) (toString_ne_minusZero _)
  · rename_i h
    rw [← Json.num.inj h, Decimal.signed?_toString, Option.bind_some, Decimal.toInt64?_toInt]
  · rename_i h
    exact absurd rfl (h _)

theorem of_required? {read : Json → Option α} {p : α → Prop} (hread : ∀ v a, read v = some a → p a)
    {v? : Option Json} {a : α} (h : required? read v? = some a) : p a := by
  cases v? with
  | none => cases h
  | some v => exact hread v a h

theorem of_optional? {read : Json → Option α} {p : α → Prop} (hread : ∀ v a, read v = some a → p a)
    {v? : Option Json} {x : Option α} (h : optional? read v? = some x) : ∀ a ∈ x.toList, p a := by
  rw [optional?.eq_def] at h
  split at h
  · cases h
    exact List.forall_mem_nil p
  · cases h
    exact List.forall_mem_nil p
  · rename_i v _
    obtain ⟨a, ha, rfl⟩ := Option.map_eq_some_iff.1 h
    exact List.forall_mem_singleton.2 (hread v a ha)

/-- A value that may be missing is read like one that may not, unless a null is written for it. -/
theorem optional?_map {β : Type} {read : Json → Option β} {write : α → Json} {f : α → β}
    (hread : ∀ a, read (write a) = some (f a)) (hnull : ∀ a, write a ≠ .null) (x : Option α) :
    optional? read (x.map write) = some (x.map f) := by
  cases x with
  | none => rfl
  | some a =>
    rw [Option.map_some, optional?.eq_def]
    split
    · rename_i h
      cases h
    · rename_i h
      exact absurd (Option.some.inj h) (hnull a)
    · rename_i h
      rw [← Option.some.inj h, hread]
      rfl

end Catalog.Json
