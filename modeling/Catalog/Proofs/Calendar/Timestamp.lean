import Catalog.Calendar.Timestamp
import Catalog.Proofs.Decimal
import Catalog.Proofs.Text.Blank
import Mathlib.Data.List.TakeWhile
import Mathlib.Tactic.SplitIfs

namespace Catalog

namespace Instant

variable {t : Instant}

/-- Whether a leap second in which the time may lie is the last second of its minute. -/
def LeapsLast (t : Instant) : Prop := 1_000_000_000 ≤ t.nano → t.second = 59

instance (t : Instant) : Decidable t.LeapsLast :=
  inferInstanceAs (Decidable (_ → _))

/-- The time with a leap second inside of a minute taken for the second that comes next. -/
def carried (t : Instant) : Instant :=
  if h : 1_000_000_000 ≤ t.nano ∧ t.second ≠ 59 then
    { t with
      second := t.second + 1
      nano := t.nano - 1_000_000_000
      valid := by
        obtain ⟨hhour, hminute, hsecond, hnano⟩ := t.valid
        refine ⟨hhour, hminute, ?_, ?_⟩ <;> omega }
  else t

theorem carried_of_leapsLast (h : t.LeapsLast) : t.carried = t :=
  dif_neg fun hinside => hinside.2 (h hinside.1)

theorem leapsLast_carried (t : Instant) : t.carried.LeapsLast := by
  obtain ⟨_, _, _, hnano⟩ := t.valid
  rw [carried]
  split
  · intro hleap
    have hleap : 1_000_000_000 ≤ t.nano - 1_000_000_000 := hleap
    omega
  · rename_i h
    exact fun hleap => Classical.not_not.1 fun hlast => h ⟨hleap, hlast⟩

theorem carried_eq_self_iff : t.carried = t ↔ t.LeapsLast := by
  constructor
  · intro h
    exact h ▸ t.leapsLast_carried
  · exact carried_of_leapsLast

end Instant

end Catalog

namespace Catalog.Timestamp

open Text (isBlank skipBlanks)

variable {c : Char} {cs rest : List Char} {n width least most : Nat} {t : Instant}

theorem skipBlanks_cons (h : isBlank c = false) (cs : List Char) :
    skipBlanks (c :: cs) = c :: cs :=
  List.dropWhile_cons_of_neg (Bool.eq_false_iff.1 h)

theorem skipBlanks_padded (width n : Nat) (rest : List Char) :
    skipBlanks (Decimal.padded width n ++ rest) = Decimal.padded width n ++ rest := by
  obtain ⟨c, cs, hp⟩ := List.exists_cons_of_ne_nil (Decimal.padded_ne_nil width n)
  have hc : c.isDigit = true := Decimal.isDigit_of_mem_padded (hp ▸ List.mem_cons_self)
  rw [hp, List.cons_append]
  exact skipBlanks_cons (Text.isBlank_of_isDigit hc) _

theorem mark?_cons (h : isBlank c = false) (cs : List Char) : mark? c (c :: cs) = some cs := by
  rw [mark?, skipBlanks_cons h]
  exact if_pos rfl

theorem takeWhile_padded (width n : Nat) :
    (Decimal.padded width n).takeWhile Char.isDigit = Decimal.padded width n := by
  rw [List.takeWhile_eq_self_iff]
  intro c hc
  exact Decimal.isDigit_of_mem_padded hc

theorem isDigit_of_padded_append (h : Decimal.padded width n ++ rest = c :: cs) :
    c.isDigit = true := by
  obtain ⟨d, ds, hp⟩ := List.exists_cons_of_ne_nil (Decimal.padded_ne_nil width n)
  have hd : d.isDigit = true := Decimal.isDigit_of_mem_padded (hp ▸ List.mem_cons_self)
  rw [hp, List.cons_append, List.cons.injEq] at h
  exact h.1 ▸ hd

theorem shortDigits?_padded (hw : 0 < width) (h : n < 10 ^ width) (rest : List Char) :
    shortDigits? width (Decimal.padded width n ++ rest) = some (n, rest) := by
  have htake : (Decimal.padded width n ++ rest).take width = Decimal.padded width n :=
    List.take_left' (Decimal.length_padded hw h)
  simp only [shortDigits?, htake, takeWhile_padded, Decimal.nat?_padded, List.drop_left,
    Option.map_some]

theorem digits?_padded (width n : Nat) (h : c.isDigit = false) (cs : List Char) :
    digits? (Decimal.padded width n ++ c :: cs) = some (n, c :: cs) := by
  have hc : ¬c.isDigit = true := Bool.eq_false_iff.1 h
  rw [digits?, List.takeWhile_append_of_pos fun _ => Decimal.isDigit_of_mem_padded,
    List.dropWhile_append_of_pos fun _ => Decimal.isDigit_of_mem_padded,
    List.takeWhile_cons_of_neg hc, List.dropWhile_cons_of_neg hc, List.append_nil,
    Decimal.nat?_padded]
  rfl

theorem field?_padded (hl : least ≤ n) (hm : n ≤ most) (h : n < 100) (rest : List Char) :
    field? least most (Decimal.padded 2 n ++ rest) = some (n, rest) := by
  rw [field?, skipBlanks_padded, shortDigits?_padded (by decide) h]
  exact if_pos ⟨hl, hm⟩

theorem year?_yearText (year : Int) (hc : c.isDigit = false) (cs : List Char) :
    year? (yearText year ++ c :: cs) = some (year, c :: cs) := by
  rw [yearText]
  split_ifs with hshort hneg
  · have hyear : ((year.toNat : Nat) : Int) = year := Int.toNat_of_nonneg hshort.1
    rw [year?, skipBlanks_padded]
    split
    · rename_i heq
      cases isDigit_of_padded_append heq
    · rename_i heq
      cases isDigit_of_padded_append heq
    · rw [shortDigits?_padded (by decide) (by omega), Option.map_some, hyear]
  · have hyear : -(year.natAbs : Int) = year := by omega
    rw [year?, List.cons_append, skipBlanks_cons rfl]
    simp only [digits?_padded 4 year.natAbs hc, Option.map_some, hyear]
  · have hyear : (year.natAbs : Int) = year := by omega
    rw [year?, List.cons_append, skipBlanks_cons rfl]
    simp only [digits?_padded 4 year.natAbs hc, Option.map_some, hyear]

theorem daysInMonth_le (year : Int) (month : Nat) : daysInMonth year month ≤ 31 := by
  rw [daysInMonth]
  split_ifs <;> decide

theorem date?_text (d : Date) (rest : List Char) :
    date? (yearText d.year ++ '-' :: (Decimal.padded 2 d.month ++ '-' ::
      (Decimal.padded 2 d.day ++ rest))) = some (d, rest) := by
  obtain ⟨_, ⟨hmonth, hmonth'⟩, hday, hday'⟩ := d.valid
  have hlast := daysInMonth_le d.year d.month
  simp only [date?, year?_yearText d.year (c := '-') rfl, mark?_cons (c := '-') rfl,
    field?_padded hmonth hmonth' (by omega), field?_padded hday (Nat.le_trans hday' hlast) (by omega),
    Date.of?_self, bind, Option.bind, pure]

theorem fraction?_padded (hw : 0 < width) (hw' : width ≤ 9) (h : n < 10 ^ width)
    (hc : c.isDigit = false) (cs : List Char) :
    fraction? ('.' :: (Decimal.padded width n ++ c :: cs)) =
      some (n * 10 ^ (9 - width), c :: cs) := by
  have hlength := Decimal.length_padded hw h
  have hc : ¬c.isDigit = true := Bool.eq_false_iff.1 hc
  -- of the nine characters that may be digits, those behind the fraction are none
  have htake : ((c :: cs).take (9 - width)).takeWhile Char.isDigit = [] := by
    cases 9 - width with
    | zero => rfl
    | succ m => exact List.takeWhile_cons_of_neg hc
  have hdigits : ((Decimal.padded width n ++ c :: cs).take 9).takeWhile Char.isDigit =
      Decimal.padded width n := by
    rw [List.take_append, List.take_of_length_le (by omega), hlength,
      List.takeWhile_append_of_pos fun _ => Decimal.isDigit_of_mem_padded, htake, List.append_nil]
  have hdrop : (Decimal.padded width n ++ c :: cs).drop width = c :: cs := List.drop_left' hlength
  simp only [fraction?, hdigits, Decimal.nat?_padded, hlength, Option.map_some, hdrop,
    List.dropWhile_cons_of_neg hc]
  rfl

theorem fraction?_fractionText (h : n < 10 ^ 9) :
    fraction? (fractionText n ++ ['Z']) = some (n, ['Z']) := by
  rw [fractionText]
  split_ifs with hzero hmillis hmicros
  · rw [hzero]
    rfl
  · have hn : n / 1_000_000 * 10 ^ (9 - 3) = n := by omega
    rw [List.cons_append, fraction?_padded (by decide) (by decide) (by omega) rfl, hn]
  · have hn : n / 1_000 * 10 ^ (9 - 6) = n := by omega
    rw [List.cons_append, fraction?_padded (by decide) (by decide) (by omega) rfl, hn]
  · have hn : n * 10 ^ (9 - 9) = n := Nat.mul_one n
    rw [List.cons_append, fraction?_padded (by decide) (by decide) h rfl, hn]

theorem ofLocal?_utc (t : Instant) :
    Instant.ofLocal? 0 t.date t.hour t.minute t.second t.nano = some t := by
  obtain ⟨hhour, hminute, _⟩ := t.valid
  have hminutes : ((t.hour : Int) * 60 + t.minute - 0).toNat = t.hour * 60 + t.minute := by omega
  have hdiv : (t.hour * 60 + t.minute) / 60 = t.hour := by omega
  have hmod : (t.hour * 60 + t.minute) % 60 = t.minute := by omega
  simp only [Instant.ofLocal?]
  rw [if_neg (by omega), if_pos (by omega), hminutes, hdiv, hmod, Instant.of?, dif_pos t.valid]

def timeText (t : Instant) (second : Nat) : List Char :=
  Decimal.padded 2 t.hour ++ ':' :: (Decimal.padded 2 t.minute ++ ':' ::
    (Decimal.padded 2 second ++ (fractionText (t.nano % 1_000_000_000) ++ ['Z'])))

theorem chars_eq (t : Instant) : chars t =
    yearText t.date.year ++ '-' :: (Decimal.padded 2 t.date.month ++ '-' ::
      (Decimal.padded 2 t.date.day ++ 'T' :: timeText t
        (t.second + if 1_000_000_000 ≤ t.nano then 1 else 0))) := by
  simp only [chars, timeText, List.append_assoc, List.cons_append]

theorem read?_timeText (t : Instant) {second : Nat} (hs : second ≤ 60) :
    read? (yearText t.date.year ++ '-' :: (Decimal.padded 2 t.date.month ++ '-' ::
      (Decimal.padded 2 t.date.day ++ 'T' :: timeText t second))) =
      if second = 60 then Instant.ofLocal? 0 t.date t.hour t.minute 59
        (1_000_000_000 + t.nano % 1_000_000_000)
      else Instant.ofLocal? 0 t.date t.hour t.minute second (t.nano % 1_000_000_000) := by
  obtain ⟨hhour, hminute, _⟩ := t.valid
  have hfraction := fraction?_fractionText (n := t.nano % 1_000_000_000) (Nat.mod_lt _ (by decide))
  have hoffset : offset? (skipBlanks ['Z']) = some (0, []) := rfl
  have hend : skipBlanks [] = [] := rfl
  simp only [read?, date?_text t.date, divider?, timeText, bind, Option.bind,
    field?_padded (Nat.zero_le t.hour) (Nat.le_of_lt_succ hhour) (by omega),
    field?_padded (Nat.zero_le t.minute) (Nat.le_of_lt_succ hminute) (by omega),
    field?_padded (Nat.zero_le second) hs (by omega), mark?_cons (c := ':') rfl, hfraction,
    hoffset, hend, if_true]

theorem read?_chars (h : t.LeapsLast) : read? (chars t) = some t := by
  obtain ⟨hhour, hminute, hsecond, hnano⟩ := t.valid
  rw [chars_eq]
  by_cases hleap : 1_000_000_000 ≤ t.nano
  · have hlast : t.second = 59 := h hleap
    have hrest : 1_000_000_000 + t.nano % 1_000_000_000 = t.nano := by omega
    rw [if_pos hleap, read?_timeText t (by omega), if_pos (by omega), hrest, ← hlast]
    exact ofLocal?_utc t
  · have hrest : t.nano % 1_000_000_000 = t.nano := Nat.mod_eq_of_lt (by omega)
    rw [if_neg hleap, read?_timeText t (by omega), if_neg (by omega), hrest]
    exact ofLocal?_utc t

/-- Inside of a minute the text of a leap second is that of the second that comes next. -/
theorem text_carried (t : Instant) : text t.carried = text t := by
  rw [text, text, Instant.carried]
  split
  · rename_i h
    obtain ⟨_, _, _, hnano⟩ := t.valid
    have hless : ¬1_000_000_000 ≤ t.nano - 1_000_000_000 := by omega
    have hrest : (t.nano - 1_000_000_000) % 1_000_000_000 = t.nano % 1_000_000_000 := by omega
    simp only [chars, if_pos h.1, if_neg hless, hrest, Nat.add_zero]
  · rfl

theorem parse?_text (t : Instant) : parse? (text t) = some t.carried := by
  rw [← text_carried, parse?, text, String.toList_ofList]
  exact read?_chars t.leapsLast_carried

theorem fraction?_lt {nano : Nat} (h : fraction? cs = some (nano, rest)) : nano < 10 ^ 9 := by
  rw [fraction?.eq_def] at h
  split at h
  · rename_i cs
    obtain ⟨n, hn, hr⟩ := Option.map_eq_some_iff.1 h
    cases hr
    have hlength : ((cs.take 9).takeWhile Char.isDigit).length ≤ 9 :=
      (List.takeWhile_prefix Char.isDigit).length_le.trans (List.length_take_le 9 cs)
    have hlt := Nat.mul_lt_mul_of_pos_right (Decimal.lt_of_nat? hn)
      (Nat.pow_pos (a := 10) (n := 9 - ((cs.take 9).takeWhile Char.isDigit).length) (by decide))
    rwa [← Nat.pow_add, Nat.add_sub_cancel' hlength] at hlt
  · cases h
    exact Nat.pow_pos (by decide)

theorem leapsLast_of_ofLocal? {offset : Int} {date : Date} {hour minute second nano : Nat}
    (h : Instant.ofLocal? offset date hour minute second nano = some t)
    (hleap : 1_000_000_000 ≤ nano → second = 59) : t.LeapsLast := by
  -- an offset moves the date, the hour and the minute only
  have hof (d : Date) (hour minute : Nat) (h : Instant.of? d hour minute second nano = some t) :
      t.LeapsLast := by
    rw [Instant.of?] at h
    split at h
    · cases h
      exact hleap
    · cases h
  simp only [Instant.ofLocal?] at h
  split at h
  · obtain ⟨d, _, h⟩ := Option.bind_eq_some_iff.1 h
    exact hof d _ _ h
  · split at h
    · exact hof date _ _ h
    · obtain ⟨d, _, h⟩ := Option.bind_eq_some_iff.1 h
      exact hof d _ _ h

/-- No text is read as a leap second inside of a minute. -/
theorem leapsLast_of_parse? {s : String} (h : parse? s = some t) : t.LeapsLast := by
  rw [parse?, read?] at h
  obtain ⟨⟨date, cs⟩, _, h⟩ := Option.bind_eq_some_iff.1 h
  obtain ⟨_, _, h⟩ := Option.bind_eq_some_iff.1 h
  obtain ⟨⟨hour, _⟩, _, h⟩ := Option.bind_eq_some_iff.1 h
  obtain ⟨_, _, h⟩ := Option.bind_eq_some_iff.1 h
  obtain ⟨⟨minute, _⟩, _, h⟩ := Option.bind_eq_some_iff.1 h
  obtain ⟨_, _, h⟩ := Option.bind_eq_some_iff.1 h
  obtain ⟨⟨second, _⟩, _, h⟩ := Option.bind_eq_some_iff.1 h
  obtain ⟨⟨nano, _⟩, hnano, h⟩ := Option.bind_eq_some_iff.1 h
  obtain ⟨⟨offset, _⟩, _, h⟩ := Option.bind_eq_some_iff.1 h
  have hnano := fraction?_lt hnano
  dsimp only at h
  split at h
  · split at h
    · exact leapsLast_of_ofLocal? h fun _ => rfl
    · exact leapsLast_of_ofLocal? h fun hleap => absurd hnano (Nat.not_lt.2 hleap)
  · cases h

end Catalog.Timestamp
