/-!
# Time stamps

A time stamp is a day of the Gregorian calendar and a time of that day, in UTC, with
nanoseconds.  A leap second may follow any second, and its nanoseconds count on from those
of the second in front of it.  The years reach from -262143 to 262142.
-/

namespace HistoryTree

/-- Whether a year has 366 days. -/
def isLeapYear (year : Int) : Bool :=
  year % 4 = 0 && (year % 100 ≠ 0 || year % 400 = 0)

/-- The number of days of a month; none has this number for a month outside 1 to 12. -/
def daysInMonth (year : Int) (month : Nat) : Nat :=
  match month with
  | 1 | 3 | 5 | 7 | 8 | 10 | 12 => 31
  | 4 | 6 | 9 | 11 => 30
  | 2 => if isLeapYear year then 29 else 28
  | _ => 0

/-- The numbers name a day within the years that are kept. -/
def Date.Valid (year : Int) (month day : Nat) : Prop :=
  -262143 ≤ year ∧ year ≤ 262142 ∧ 1 ≤ day ∧ day ≤ daysInMonth year month

instance (year : Int) (month day : Nat) : Decidable (Date.Valid year month day) :=
  inferInstanceAs (Decidable (_ ∧ _ ∧ _ ∧ _))

/-- A day of the calendar. -/
structure Date where
  year : Int
  month : Nat
  day : Nat
  valid : Date.Valid year month day
  deriving DecidableEq, Repr

namespace Date

/-- The day that the numbers name, if they name one. -/
def of? (year : Int) (month day : Nat) : Option Date :=
  if h : Valid year month day then some ⟨year, month, day, h⟩ else none

/-- The day after. -/
def next? (d : Date) : Option Date :=
  (of? d.year d.month (d.day + 1)).or
    ((of? d.year (d.month + 1) 1).or (of? (d.year + 1) 1 1))

/-- The day before. -/
def prev? (d : Date) : Option Date :=
  (of? d.year d.month (d.day - 1)).or
    ((of? d.year (d.month - 1) (daysInMonth d.year (d.month - 1))).or (of? (d.year - 1) 12 31))

theorem of?_self (d : Date) : of? d.year d.month d.day = some d := by
  rw [of?, dif_pos d.valid]

/-- The day a number of days after the first of March of the year 0.  Years are counted from
March, so that a leap day is the last of its year, in periods of 400 years. -/
def ofDays? (days : Int) : Option Date :=
  let era := days / 146097
  let dayOfEra := (days % 146097).toNat
  let yearOfEra := (dayOfEra - dayOfEra / 1460 + dayOfEra / 36524 - dayOfEra / 146096) / 365
  let dayOfYear := dayOfEra - (365 * yearOfEra + yearOfEra / 4 - yearOfEra / 100)
  let shifted := (5 * dayOfYear + 2) / 153
  let day := dayOfYear - (153 * shifted + 2) / 5 + 1
  let month := if shifted < 10 then shifted + 3 else shifted - 9
  let year := era * 400 + yearOfEra
  of? (if month ≤ 2 then year + 1 else year) month day

end Date

/-- The numbers name a time of day.  From 10⁹ on, a nanosecond lies in the leap second that
follows the second. -/
def Time.Valid (hour minute second nanosecond : Nat) : Prop :=
  hour < 24 ∧ minute < 60 ∧ second < 60 ∧ nanosecond < 2000000000

instance (hour minute second nanosecond : Nat) :
    Decidable (Time.Valid hour minute second nanosecond) :=
  inferInstanceAs (Decidable (_ ∧ _ ∧ _ ∧ _))

/-- A time of day. -/
structure Time where
  hour : Nat
  minute : Nat
  second : Nat
  nanosecond : Nat
  valid : Time.Valid hour minute second nanosecond
  deriving DecidableEq, Repr

namespace Time

/-- The time that the numbers name, if they name one. -/
def of? (hour minute second nanosecond : Nat) : Option Time :=
  if h : Valid hour minute second nanosecond then some ⟨hour, minute, second, nanosecond, h⟩
  else none

theorem of?_self (t : Time) : of? t.hour t.minute t.second t.nanosecond = some t := by
  rw [of?, dif_pos t.valid]

/-- The time that a clock shows.  Its nanoseconds end with the second, and the second 60 is the
leap second behind the second 59. -/
def ofClock? (hour minute second nanosecond : Nat) : Option Time :=
  if nanosecond < 1000000000 then
    if second = 60 then of? hour minute 59 (1000000000 + nanosecond)
    else of? hour minute second nanosecond
  else none

/-- The second that a clock shows: a leap second is counted on from the second in front of it. -/
def clockSecond (t : Time) : Nat := t.second + t.nanosecond / 1000000000

/-- The nanosecond that a clock shows. -/
def clockNanosecond (t : Time) : Nat := t.nanosecond % 1000000000

end Time

/-- An instant in UTC. -/
structure Timestamp where
  date : Date
  time : Time
  deriving DecidableEq, Repr

namespace Timestamp

/-- The instant whose local time, `minutes` minutes ahead of UTC, is the given one; none beyond
the first and the last day. -/
def ofLocal? (date : Date) (time : Time) (minutes : Int) : Option Timestamp :=
  let total : Int := time.hour * 60 + time.minute - minutes
  let at? (date : Option Date) (total : Int) : Option Timestamp := do
    let time ← Time.of? (total / 60).toNat (total % 60).toNat time.second time.nanosecond
    return ⟨← date, time⟩
  if total < 0 then at? date.prev? (total + 1440)
  else if 1440 ≤ total then at? date.next? (total - 1440)
  else at? (some date) total

/-- The instant a number of milliseconds after the start of 1970. -/
def ofMilliseconds? (ms : Int) : Option Timestamp := do
  let date ← Date.ofDays? (ms / 86400000 + 719468)
  let n := (ms % 86400000).toNat
  let time ← Time.of? (n / 3600000) (n / 60000 % 60) (n / 1000 % 60) (n % 1000 * 1000000)
  return ⟨date, time⟩

/-- A local time without distance from UTC is the instant itself. -/
theorem ofLocal?_zero (t : Timestamp) : ofLocal? t.date t.time 0 = some t := by
  obtain ⟨date, time⟩ := t
  obtain ⟨h, m, s, n, hv⟩ := time
  obtain ⟨hhour, hminute, -, -⟩ := id hv
  have hl : ¬ ((h * 60 + m - 0 : Int) < 0) := by omega
  have hu : ¬ (1440 ≤ (h * 60 + m - 0 : Int)) := by omega
  have hh : ((h * 60 + m - 0 : Int) / 60).toNat = h := by omega
  have hm : ((h * 60 + m - 0 : Int) % 60).toNat = m := by omega
  simp only [ofLocal?, hl, hu, if_false, hh, hm]
  rw [Time.of?, dif_pos hv]
  rfl

end Timestamp

end HistoryTree
