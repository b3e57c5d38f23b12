import ValueStream.Timestamp.Calendar

/-!
# Timestamps

An instant and the offset from universal time at which it is shown. The instant is the number of
whole seconds since the start of 1970 and the nanoseconds after them. The offset takes no part in
the order: two timestamps are equally early when their instants are one.
-/

namespace ValueStream

/-- An instant, shown at an offset. -/
structure Timestamp where
  /-- The whole seconds since the start of 1970, below zero for earlier instants. -/
  seconds : Int
  /-- The nanoseconds after the whole second. -/
  nanos : Nat
  /-- The offset from universal time in seconds, above zero to the east. -/
  offset : Int
  /-- The nanoseconds are less than a second. -/
  nanos_lt : nanos < 1000000000
deriving DecidableEq

namespace Timestamp

theorem ext {s t : Timestamp} (hs : s.seconds = t.seconds) (hn : s.nanos = t.nanos)
    (ho : s.offset = t.offset) : s = t := by
  cases s; cases t; simp_all

/-- The number of seconds of a day. -/
def daySeconds : Int := 86400

/-- The date at the offset. -/
def localDate (t : Timestamp) : Date := Date.ofDays ((t.seconds + t.offset) / daySeconds)

/-- The second of the day at the offset. -/
def secondOfDay (t : Timestamp) : Nat := ((t.seconds + t.offset) % daySeconds).toNat

/-- The timestamp of a date and a second of the day at an offset. -/
def ofLocal (date : Date) (secondOfDay : Nat) (nanos : Nat) (offset : Int)
    (h : nanos < 1000000000) : Timestamp :=
  ⟨date.toDays * daySeconds + secondOfDay - offset, nanos, offset, h⟩

/-- The order of the instants. -/
def order (s t : Timestamp) : Ordering :=
  (compareOfLessAndEq s.seconds t.seconds).then (compareOfLessAndEq s.nanos t.nanos)

/-- Whether the instant is the last nanosecond before midnight, at universal time, at the end of a
month: the place where a leap second would come. -/
def isBeforeLeapSecond (t : Timestamp) : Bool :=
  let date := Date.ofDays (t.seconds / daySeconds)
  t.seconds % daySeconds == daySeconds - 1 && t.nanos == 999999999 &&
    date.day == Date.monthLength date.year date.month

end Timestamp

end ValueStream
