import Catalog.Calendar.Date

namespace Catalog

/-- Times of day in UTC. A thousand million nanoseconds or more lie in a leap second after the second
that is given. -/
def IsTime (hour minute second nano : Nat) : Prop :=
  hour < 24 ∧ minute < 60 ∧ second < 60 ∧ nano < 2_000_000_000

instance (hour minute second nano : Nat) : Decidable (IsTime hour minute second nano) :=
  inferInstanceAs (Decidable (_ ∧ _ ∧ _ ∧ _))

structure Instant where
  date : Date
  hour : Nat
  minute : Nat
  second : Nat
  nano : Nat
  valid : IsTime hour minute second nano := by decide
  deriving DecidableEq, Repr

namespace Instant

def of? (date : Date) (hour minute second nano : Nat) : Option Instant :=
  if h : IsTime hour minute second nano then some ⟨date, hour, minute, second, nano, h⟩ else none

/-- The moment at which clocks that are `offset` minutes ahead of UTC show the given date and time,
for an offset of less than a day. -/
def ofLocal? (offset : Int) (date : Date) (hour minute second nano : Nat) : Option Instant :=
  let minutes : Int := hour * 60 + minute - offset
  if minutes < 0 then
    date.previous?.bind fun d =>
      let m := (minutes + 1440).toNat
      of? d (m / 60) (m % 60) second nano
  else if minutes < 1440 then
    let m := minutes.toNat
    of? date (m / 60) (m % 60) second nano
  else
    date.next?.bind fun d =>
      let m := (minutes - 1440).toNat
      of? d (m / 60) (m % 60) second nano

end Instant

end Catalog
