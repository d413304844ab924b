import Catalog.Proofs.Json.Token
import Catalog.Text.Quoted

namespace Catalog.Text

def named? : Char → Option Char
  | '"' => some '"'
  | '\\' => some '\\'
  | 'n' => some '\n'
  | 'r' => some '\r'
  | 't' => some '\t'
  | '0' => some '\x00'
  | _ => none

/-- Where a reader of a quoted text stands: among its characters, behind a backslash, before the
digits of a code point, or among them with the number read so far. -/
inductive Place where
  | inside
  | escape
  | opening
  | digits (value : Nat)

def Place.read? : Place → List Char → Option (List Char)
  | _, [] => none
  | inside, c :: cs =>
    if c = '"' then if cs = [] then some [] else none
    else if c = '\\' then escape.read? cs
    else (inside.read? cs).map (c :: ·)
  | escape, c :: cs =>
    if c = 'u' then opening.read? cs
    else (named? c).bind fun d => (inside.read? cs).map (d :: ·)
  | opening, c :: cs => if c = '\x7b' then (digits 0).read? cs else none
  | digits value, c :: cs =>
    if c = '\x7d' then (inside.read? cs).map (Char.ofNat value :: ·)
    else (hexDigit? c).bind fun d => (digits (16 * value + d)).read? cs

/-- The text that a quoted text stands for. -/
def unquoted? (s : String) : Option String :=
  match s.toList with
  | '"' :: cs => (Place.inside.read? cs).map .ofList
  | _ => none

variable {c d : Char} {n : Nat}

theorem read?_named (hc : c ≠ 'u') (hd : named? c = some d) (rest : List Char) :
    Place.inside.read? ('\\' :: c :: rest) = (Place.inside.read? rest).map (d :: ·) := by
  have hescape : Place.escape.read? (c :: rest) = (Place.inside.read? rest).map (d :: ·) := by
    rw [Place.read?, if_neg hc, hd, Option.bind_some]
  exact hescape

theorem read?_plain (hquote : c ≠ '"') (hslash : c ≠ '\\') (rest : List Char) :
    Place.inside.read? (c :: rest) = (Place.inside.read? rest).map (c :: ·) := by
  rw [Place.read?, if_neg hquote, if_neg hslash]

theorem digitChar_ne (h : n < 16) : Nat.digitChar n ≠ '\x7d' := by
  have hall : ∀ n < 16, Nat.digitChar n ≠ '\x7d' := by decide
  exact hall n h

theorem read?_digitChar (h : n < 16) (value : Nat) (rest : List Char) :
    (Place.digits value).read? (Nat.digitChar n :: rest) =
      (Place.digits (16 * value + n)).read? rest := by
  rw [Place.read?, if_neg (digitChar_ne h), hexDigit?_digitChar h, Option.bind_some]

theorem read?_toDigits (n : Nat) (rest : List Char) :
    (Place.digits 0).read? (Nat.toDigits 16 n ++ rest) = (Place.digits n).read? rest := by
  induction n using Nat.strongRecOn generalizing rest with
  | ind n ih =>
    by_cases hn : n < 16
    · rw [Nat.toDigits_of_lt_base hn]
      exact (read?_digitChar hn 0 rest).trans (by rw [Nat.mul_zero, Nat.zero_add])
    · have hmod : n % 16 < 16 := Nat.mod_lt n (by decide)
      rw [Nat.toDigits_of_base_le (by decide) (Nat.le_of_not_lt hn), List.append_assoc,
        ih (n / 16) (by omega), List.singleton_append, read?_digitChar hmod, Nat.div_add_mod]

theorem read?_point (c : Char) (rest : List Char) :
    Place.inside.read? ("\\u\x7b".toList ++ Nat.toDigits 16 c.toNat ++ ['\x7d'] ++ rest) =
      (Place.inside.read? rest).map (c :: ·) := by
  have hdigits : (Place.digits 0).read? (Nat.toDigits 16 c.toNat ++ '\x7d' :: rest) =
      (Place.inside.read? rest).map (c :: ·) := by
    rw [read?_toDigits, Place.read?, if_pos rfl, Char.ofNat_toNat]
  rw [List.append_assoc, List.append_assoc]
  exact hdigits

theorem read?_quotedChar (c : Char) (rest : List Char) :
    Place.inside.read? (quotedChar c ++ rest) = (Place.inside.read? rest).map (c :: ·) := by
  rw [quotedChar]
  split_ifs with hquote hslash hn hr ht hzero hprintable hhidden
  · subst hquote
    exact read?_named (by decide) rfl rest
  · subst hslash
    exact read?_named (by decide) rfl rest
  · subst hn
    exact read?_named (by decide) rfl rest
  · subst hr
    exact read?_named (by decide) rfl rest
  · subst ht
    exact read?_named (by decide) rfl rest
  · subst hzero
    exact read?_named (by decide) rfl rest
  · exact read?_plain hquote hslash rest
  · exact read?_point c rest
  · exact read?_plain hquote hslash rest

theorem read?_flatMap_quotedChar (cs : List Char) :
    Place.inside.read? (cs.flatMap quotedChar ++ ['"']) = some cs := by
  induction cs with
  | nil => rfl
  | cons c cs ih =>
    rw [List.flatMap_cons, List.append_assoc, read?_quotedChar, ih]
    rfl

theorem unquoted?_quoted (s : String) : unquoted? (quoted s) = some s := by
  have hlist : (quoted s).toList = '"' :: (s.toList.flatMap quotedChar ++ ['"']) := by
    rw [quoted, String.toList_ofList, List.cons_append]
  rw [unquoted?, hlist]
  change (Place.inside.read? (s.toList.flatMap quotedChar ++ ['"'])).map String.ofList = some s
  rw [read?_flatMap_quotedChar, Option.map_some, String.ofList_toList]

end Catalog.Text
