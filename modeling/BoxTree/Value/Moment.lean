/-! Calendar dates and points in time, as documents may hold them. -/

namespace BoxTree

structure Date where
  year : Nat
  month : Nat
  day : Nat
deriving DecidableEq

/-- A point in time; `offset` is the zone's distance from universal time in seconds. -/
structure Moment where
  date : Date
  hour : Nat
  minute : Nat
  second : Nat
  micros : Nat
  offset : Option Int
deriving DecidableEq

def padded (width number : Nat) : String :=
  let digits := toString number
  String.ofList (List.replicate (width - digits.length) '0') ++ digits

namespace Date

def isLeap (year : Nat) : Bool :=
  year % 4 == 0 && (year % 100 != 0 || year % 400 == 0)

def monthLength (year month : Nat) : Nat :=
  if month == 2 then if isLeap year then 29 else 28
  else if [4, 6, 9, 11].contains month then 30 else 31

def daysBefore (d : Date) : Nat :=
  let years := d.year - 1
  let months := (List.range (d.month - 1)).map fun month => monthLength d.year (month + 1)
  365 * years + years / 4 - years / 100 + years / 400 + months.foldl (· + ·) 0 + (d.day - 1)

def ofDaysBefore (days : Nat) : Date :=
  let guess := days * 400 / 146097
  let year := ([guess + 2, guess + 1].find? fun year => daysBefore ⟨year, 1, 1⟩ ≤ days).getD guess
  let later := (List.range 11).map (12 - ·)
  let month := (later.find? fun month => daysBefore ⟨year, month, 1⟩ ≤ days).getD 1
  ⟨year, month, days - daysBefore ⟨year, month, 1⟩ + 1⟩

def text (d : Date) : String :=
  padded 4 d.year ++ "-" ++ padded 2 d.month ++ "-" ++ padded 2 d.day

end Date

namespace Moment

/-- The millionths of a second that its own clock has counted, from the start of the calendar. -/
def clockMicros (m : Moment) : Int :=
  (((m.date.daysBefore * 24 + m.hour) * 60 + m.minute) * 60 + m.second) * 1000000 + m.micros

/-- The moment without a zone whose clock has counted some millionths of a second. -/
def ofClockMicros (micros : Nat) : Moment :=
  let seconds := micros / 1000000
  ⟨.ofDaysBefore (seconds / 86400), seconds / 3600 % 24, seconds / 60 % 60, seconds % 60, micros % 1000000, none⟩

/-- The millionths of a second from the start of the calendar to its end after the year 9999. -/
def calendarMicros : Int := (Date.daysBefore ⟨10000, 1, 1⟩ : Int) * 86400000000

/-- The millionths of a second in universal time, for a moment with a zone. -/
def instant? (m : Moment) : Option Int := m.offset.map fun offset => m.clockMicros - offset * 1000000

/-- Moments with zones are the same if they are one instant, and those without if their clocks agree. -/
def same (left right : Moment) : Bool :=
  left.offset.isSome == right.offset.isSome
    && (left.instant?.getD left.clockMicros) == (right.instant?.getD right.clockMicros)

/-- Whether a moment comes before another; without a zone it cannot be put beside one with a zone. -/
def before? (left right : Moment) : Option Bool :=
  match left.instant?, right.instant? with
  | some a, some b => some (decide (a < b))
  | none, none => some (decide (left.clockMicros < right.clockMicros))
  | _, _ => none

def zoneText (offset : Int) : String :=
  let size := offset.natAbs
  let seconds := if size % 60 = 0 then "" else ":" ++ padded 2 (size % 60)
  (if offset < 0 then "-" else "+") ++ padded 2 (size / 3600) ++ ":" ++ padded 2 (size / 60 % 60) ++ seconds

def text (m : Moment) : String :=
  m.date.text ++ " " ++ padded 2 m.hour ++ ":" ++ padded 2 m.minute ++ ":" ++ padded 2 m.second ++
    (if m.micros = 0 then "" else "." ++ padded 6 m.micros) ++
    (match m.offset with | some offset => zoneText offset | none => "")

end Moment
end BoxTree
