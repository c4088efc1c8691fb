import BoxTree.Number.Layout
import BoxTree.Text.Integer
import BoxTree.Text.Quoted
import BoxTree.Value.Basic

/-! The text of a value in messages, in log lines and as the key of a canonical object. Inside a
container texts are quoted; a text by itself is shown bare. -/

namespace BoxTree

def Date.shown (d : Date) : String :=
  s!"datetime.date({d.year}, {d.month}, {d.day})"

/-- A span of time by its days and seconds; a negative one has negative days only. -/
def Moment.spanShown (seconds : Int) : String :=
  let days := seconds.fdiv 86400
  let rest := seconds.fmod 86400
  let amounts := (if days == 0 then [] else [s!"days={days}"]) ++ (if rest == 0 then [] else [s!"seconds={rest}"])
  "datetime.timedelta(" ++ (if amounts.isEmpty then "0" else ", ".intercalate amounts) ++ ")"

def Moment.shown (m : Moment) : String :=
  let clock := [m.hour, m.minute]
    ++ (if m.second == 0 && m.micros == 0 then [] else [m.second])
    ++ (if m.micros == 0 then [] else [m.micros])
  let parts := ([m.date.year, m.date.month, m.date.day] ++ clock).map toString
  let zone :=
    match m.offset with
    | none => []
    | some 0 => ["tzinfo=datetime.timezone.utc"]
    | some offset => [s!"tzinfo=datetime.timezone({spanShown offset})"]
  "datetime.datetime(" ++ ", ".intercalate (parts ++ zone) ++ ")"

namespace Value

/-- Whether a whole number has more digits than may be written. -/
def overlong (number : Int) : Bool := Nat.pow 10 Text.digitLimit ≤ number.natAbs

def overlongMessage : String :=
  s!"Exceeds the limit ({Text.digitLimit} digits) for integer string conversion; " ++
    "use sys.set_int_max_str_digits() to increase the limit"

mutual
/-- Whether a value has no text, for a whole number in it has too many digits. -/
def hasOverlong : Value → Bool
  | int number => overlong number
  | list items | tuple items | set items => hasOverlongAmong items
  | map entries => hasOverlongUnder entries
  | again _ _ around => hasOverlong around
  | _ => false

def hasOverlongAmong : List Value → Bool
  | [] => false
  | item :: rest => hasOverlong item || hasOverlongAmong rest

def hasOverlongUnder : List (Value × Value) → Bool
  | [] => false
  | (key, value) :: rest => hasOverlong key || hasOverlong value || hasOverlongUnder rest
end

mutual
/-- A value inside as many lists and mappings that are being shown. One of those themselves is shown closed. -/
def shownInside (depth : Nat) : Value → String
  | null => "None"
  | bool truth => if truth then "True" else "False"
  | int number => toString number
  | double number => number.text
  | text content => content.quoted
  | bytes content => Text.quotedBytes content
  | date day => day.shown
  | moment time => time.shown
  | list items => "[" ++ ", ".intercalate (shownItems (depth + 1) items) ++ "]"
  | tuple [item] => "(" ++ shownInside depth item ++ ",)"
  | tuple items => "(" ++ ", ".intercalate (shownItems depth items) ++ ")"
  | set [] => "set()"
  | set items => "\x7b" ++ ", ".intercalate (shownItems (depth + 1) items) ++ "\x7d"
  | map entries => "\x7b" ++ ", ".intercalate (shownEntries (depth + 1) entries) ++ "\x7d"
  | again _ steps around =>
    if depth < steps then shownInside depth around
    else if around.kindName == "dict" then "\x7b...\x7d"
    else "[...]"

def shownItems (depth : Nat) : List Value → List String
  | [] => []
  | item :: rest => shownInside depth item :: shownItems depth rest

def shownEntries (depth : Nat) : List (Value × Value) → List String
  | [] => []
  | (key, value) :: rest => (shownInside depth key ++ ": " ++ shownInside depth value) :: shownEntries depth rest
end

def shown (value : Value) : String := value.shownInside 0

def plain : Value → Wording
  | text content => content
  | date day => day.text
  | moment time => time.text
  | value => value.shown

end Value
end BoxTree
