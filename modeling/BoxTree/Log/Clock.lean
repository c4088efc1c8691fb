import BoxTree.Value.Moment

/-! The time of a log line, in universal time. -/

namespace BoxTree

namespace Date

/-- The date some days after the first of January 1970. Years are counted from March, so that a leap
day ends its year. -/
def ofDays (days : Nat) : Date :=
  let shifted := days + 719468
  let era := shifted / 146097
  let dayOfEra := shifted % 146097
  let yearOfEra := (dayOfEra - dayOfEra / 1460 + dayOfEra / 36524 - dayOfEra / 146096) / 365
  let dayOfYear := dayOfEra - (365 * yearOfEra + yearOfEra / 4 - yearOfEra / 100)
  let month := (5 * dayOfYear + 2) / 153
  let day := dayOfYear - (153 * month + 2) / 5 + 1
  let year := era * 400 + yearOfEra
  if month < 10 then ⟨year, month + 3, day⟩ else ⟨year + 1, month - 9, day⟩

end Date

/-- The time some millionths of a second after the beginning of 1970, as log lines give it. -/
def Log.timeText (micros : Nat) : String :=
  let seconds := micros / 1000000
  let clock := [seconds / 3600 % 24, seconds / 60 % 60, seconds % 60].map (padded 2)
  (Date.ofDays (seconds / 86400)).text ++ "T" ++ ":".intercalate clock ++ "." ++ padded 6 (micros % 1000000) ++ "Z"

end BoxTree
