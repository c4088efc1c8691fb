import BoxTree.Markup.Yaml.Node
import BoxTree.Number.Reading
import BoxTree.Text.Base64
import BoxTree.Text.Case
import BoxTree.Value.Show

/-! Plain data from YAML documents: one document, the usual tags only. Values are made level by level,
so of two faults the one nearer to the root counts. -/

namespace BoxTree.Yaml

/-! ### Scalars -/

namespace Scalar

def wholeIn (base : Nat) (letters : List Letter) : Except ReadError Int :=
  (Text.integerIn base (letters.map Letter.standIn)).mapError fun fault =>
    .badScalar (fault.message base (Wording.ofLetters letters).quoted)

def sixties (places : List Int) : Int := places.foldr (fun place total => place + 60 * total) 0

def noUnderscores (content : Wording) : List Letter := content.letters.filter (· != .char '_')

def colonParts (letters : List Letter) : List (List Letter) := letters.splitOn (.char ':')

def isNegative (letters : List Letter) : Bool := letters.head? == some (.char '-')

def unsigned (letters : List Letter) : List Letter :=
  if letters.head?.any (Plain.isSign ·.standIn) then letters.tail else letters

def unsignedWhole (rules : Rules) (digits : List Letter) : Except ReadError Int :=
  match digits.map Letter.standIn with
  | ['0'] => .ok 0
  | '0' :: 'b' :: _ => wholeIn 2 (digits.drop 2)
  | '0' :: 'x' :: _ => wholeIn 16 (digits.drop 2)
  | '0' :: 'o' :: _ => wholeIn 8 (if rules.isTolerant then digits.drop 2 else digits)
  | '0' :: _ => wholeIn (if rules.edition.isEarly then 8 else 10) digits
  | [] => if rules.edition.isEarly then .error .emptyNumber else wholeIn 10 []
  | _ =>
    if rules.edition.isEarly && digits.contains (.char ':') then do
      let places ← (colonParts digits).mapM (wholeIn 10)
      return sixties places.reverse
    else wholeIn 10 digits

def whole (rules : Rules) (content : Wording) : Except ReadError Int := do
  let letters := noUnderscores content
  if letters.isEmpty then throw .emptyNumber
  let size ← unsignedWhole rules (unsigned letters)
  return if isNegative letters then -size else size

def number (letters : List Letter) : Except ReadError Double :=
  match Double.read? (letters.map Letter.standIn) with
  | some number => .ok number
  | none => .error (.badScalar s!"could not convert string to float: {(Wording.ofLetters letters).quoted}")

/-- Add places of base sixty to a total, the last place first, each weighed by its power. -/
def addSixties (total : Double) (weight : Nat) : List Double → Double
  | [] => total
  | place :: rest => addSixties (total.add (place.mul (.ofInt weight))) (60 * weight) rest

def negate (number : Double) : Double := ⟨number.bits ^^^ 0x8000000000000000⟩

def fraction (rules : Rules) (content : Wording) : Except ReadError Double := do
  let letters := (Wording.ofLetters (noUnderscores content)).lower.letters
  let negative := isNegative letters
  if letters.isEmpty then throw .emptyNumber
  let digits := unsigned letters
  if Wording.ofLetters digits = ".inf" then return .infinity negative
  else if Wording.ofLetters digits = ".nan" then return .nan
  else
    let size ←
      if rules.edition.isEarly && digits.contains (.char ':') then do
        let places ← (colonParts digits).mapM number
        pure (addSixties (.ofInt 0) 1 places.reverse)
      else number digits
    return if negative then negate size else size

def truth (rules : Rules) (content : Wording) : Except ReadError Bool :=
  let word := content.lower
  let isAmong (words : List String) : Bool := word.whole?.any words.contains
  if isAmong ["yes", "true", "on"] || (rules.isTolerant && isAmong ["y"]) then .ok true
  else if isAmong ["no", "false", "off"] || (rules.isTolerant && isAmong ["n"]) then .ok false
  else .error (.unknownTruth word)

def bytes (content : Wording) : Except ReadError (List UInt8) :=
  if content.standIns.all (·.toNat < 0x80) then
    match Text.base64? content.standIns with
    | some bytes => .ok bytes
    | none => .error .malformed
  else .error .malformed

def numberOf (digits : List Char) : Nat := (Text.number? 10 digits).getD 0

def checkedDate (written : WrittenTime) : Except ReadError Date :=
  let date : Date := ⟨numberOf written.year, numberOf written.month, numberOf written.day⟩
  if date.year = 0 then .error (.badScalar "year 0 is out of range")
  else if date.month = 0 || 12 < date.month then .error (.badScalar "month must be in 1..12")
  else if date.day = 0 || Date.monthLength date.year date.month < date.day then
    .error (.badScalar "day is out of range for month")
  else .ok date

def zone (sign : Char) (hours minutes : List Char) : Int :=
  let size : Int := numberOf hours * 3600 + numberOf minutes * 60
  if sign = '-' then -size else size

def micros (digits : List Char) : Nat :=
  numberOf ((digits ++ List.replicate 6 '0').take 6)

def checkedClock (date : Date) (clock : WrittenClock) (micros : Nat) (offset : Option Int) :
    Except ReadError Moment := do
  let hour := numberOf clock.hour
  let minute := numberOf clock.minute
  let second := numberOf clock.second
  if 23 < hour then throw (.badScalar "hour must be in 0..23")
  if 59 < minute then throw (.badScalar "minute must be in 0..59")
  if 59 < second then throw (.badScalar "second must be in 0..59")
  if 999999 < micros then throw (.badScalar "microsecond must be in 0..999999")
  return ⟨date, hour, minute, second, micros, offset⟩

/-- A moment as a strict reader takes it: with the zone that it names, which has to be less than a day away. -/
def zonedMoment (written : WrittenTime) (clock : WrittenClock) : Except ReadError Moment := do
  let offset := clock.zone.map fun zone? =>
    match zone? with
    | none => 0
    | some (sign, hours, minutes) => zone sign hours minutes
  if let some seconds := offset then
    if 86400 ≤ seconds.natAbs then
      throw (.badScalar <|
        "offset must be a timedelta strictly between -timedelta(hours=24) and timedelta(hours=24), not " ++
          Moment.spanShown seconds)
  checkedClock (← checkedDate written) clock (micros clock.fraction) offset

/-- A moment as a tolerant reader takes it: in universal time, its fraction rounded to millionths. -/
def roundedMoment (written : WrittenTime) (clock : WrittenClock) : Except ReadError Moment := do
  let roundsUp := clock.fraction[6]?.any fun digit => '4' < digit
  let offset :=
    match clock.zone with
    | some (some (sign, hours, minutes)) => zone sign hours minutes
    | _ => 0
  let moment ← checkedClock (← checkedDate written) clock (micros clock.fraction + (if roundsUp then 1 else 0)) none
  let instant := moment.clockMicros - offset * 1000000
  if instant < 0 || Moment.calendarMicros ≤ instant then throw .outOfCalendar
  return .ofClockMicros instant.toNat

def time (rules : Rules) (content : Wording) : Except ReadError Value := do
  match WrittenTime.read? (Plain.withoutLineEnd content.standIns) with
  | none => throw (if rules.isTolerant then .malformed else .noDate)
  | some written =>
    match written.clock with
    | none => return .date (← checkedDate written)
    | some clock =>
      return .moment (← if rules.isTolerant then roundedMoment written clock else zonedMoment written clock)

/-- The value of a scalar; a tag for collections or an unknown one has none. -/
def value (rules : Rules) (tag : Tag) (content : Wording) : Except ReadError Value :=
  match tag with
  | .null => .ok .null
  | .truth => .bool <$> truth rules content
  | .whole => .int <$> whole rules content
  | .fraction => .double <$> fraction rules content
  | .text => .ok (.text content)
  | .bytes => .bytes <$> bytes content
  | .time => time rules content
  | _ => .error .malformed

end Scalar

/-! ### Nodes -/

namespace Node

def tag? : Node → Option Tag
  | scalar tag _ | sequence _ tag _ | mapping _ tag _ => some tag
  | reference _ => none

def number? : Node → Option Nat
  | sequence number _ _ | mapping number _ _ => some number
  | scalar _ _ | reference _ => none

/-- The node that an alias stands for. -/
def target (anchors : List (Nat × Node)) : Node → Node
  | reference name => (anchors.lookup name).getD (scalar .unknown "")
  | node => node

def isCollectionTag (tag : Tag) : Bool :=
  [Tag.sequence, .mapping, .set, .orderedMap, .pairs].contains tag

/-- The content of a node as a scalar. A mapping stands for the scalar under its default key. -/
def content (anchors : List (Nat × Node)) : Nat → Node → Except ReadError Wording
  | 0, _ => .error .endless
  | fuel + 1, node =>
    match node.target anchors with
    | scalar _ content => .ok content
    | mapping _ _ entries =>
      match entries.find? fun entry => (entry.1.target anchors).tag? == some .default with
      | some entry => content anchors fuel entry.2
      | none => .error .malformed
    | _ => .error .malformed

/-- The entries of a mapping that it merges in, and its own ones. -/
structure Entries where
  merged : List (Node × Node)
  own : List (Node × Node)

def Entries.all (entries : Entries) : List (Node × Node) := entries.merged ++ entries.own

/-- The entries of a mapping. Of several mappings to merge in a list the last comes first, so that an earlier
one wins. A tolerant reader lets only one key merge. `seen` holds the anchors on the way. -/
def entries (document : Document) (seen : List Nat) : Nat → List (Node × Node) → Except ReadError Entries
  | 0, _ => .ok ⟨[], []⟩
  | fuel + 1, written => do
    let anchors := document.anchors
    let isMerge (entry : Node × Node) : Bool := (entry.1.target anchors).tag? == some .merge
    let entriesOf (node : Node) : Except ReadError (List (Node × Node)) := do
      let anchor? := match node with | reference anchor => some anchor | _ => none
      if anchor?.any (seen.contains ·) then return []
      else
        match node.target anchors with
        | mapping _ _ inner => return (← entries document (anchor?.toList ++ seen) fuel inner).all
        | _ => throw .malformed
    let merged ← (written.filter isMerge).foldlM
      (fun held entry => do
        if document.rules.isTolerant && !held.isEmpty then throw .malformed
        match entry.2.target anchors with
        | sequence _ _ items => return held ++ (← items.mapM entriesOf).reverse.flatten
        | _ => return held ++ (← entriesOf entry.2))
      []
    return ⟨merged, written.filter (!isMerge ·)⟩

end Node

structure Fault where
  depth : Nat
  error : ReadError

abbrev Built (α : Type) := Except Fault α

def faultAt {α : Type} (depth : Nat) (result : Except ReadError α) : Built α :=
  result.mapError (⟨depth, ·⟩)

def collect {α : Type} (results : List (Built α)) : Built (List α) :=
  let faults := results.filterMap fun | .error fault => some fault | .ok _ => none
  match faults with
  | [] => .ok (results.filterMap Except.toOption)
  | first :: rest => .error (rest.foldl (fun best fault => if fault.depth < best.depth then fault else best) first)

/-- Keys that are built, each checked after its value: it may not change, and with `once` it may not be one of
those before it. -/
def keyChecks (depth : Nat) (once : Bool) (keys : List (Built Value)) : List (Built Unit) :=
  keys.zipIdx.map fun (key, place) =>
    match key with
    | .error _ => .ok ()
    | .ok key =>
      let isKnown := (keys.take place).any fun | .ok earlier => earlier.same key | .error _ => false
      match key.changing? with
      | some kind => .error ⟨depth, .changingKey kind⟩
      | none => if once && isKnown then .error ⟨depth, .malformed⟩ else .ok ()

/-- How often a value inside itself is told once more. Readers never look beyond: the longest way into a document takes
six steps, to the nodes, a node, its qualifiers, one of them, its object types and one of those. A comparison that comes
so far is taken to have no end. -/
def tellings : Nat := 7

def Tag.changingKind? : Tag → Option String
  | .sequence | .pairs => some "list"
  | .mapping => some "dict"
  | .set => some "set"
  | .orderedMap => some "ordereddict"
  | _ => none

/-- The value of a node at a depth. `around` holds the numbers of the collections around it, the nearest first. -/
def Node.value (document : Document) : Nat → Nat → List Nat → Nat → Node → Built Value
  | 0, _, _, _, _ => .ok .null
  | fuel + 1, left, around, depth, node =>
    let anchors := document.anchors
    let rules := document.rules
    let target := node.target anchors
    let below := depth + 1
    let fault {α : Type} (error : ReadError) : Built α := .error ⟨below, error⟩
    let inside := target.number?.toList ++ around
    let part (node : Node) : Built Value :=
      match (node.target anchors).number?.bind fun number => (inside.idxOf? number).map (number, ·) with
      | none => Node.value document fuel left inside below node
      | some (number, place) =>
        .again number (place + 1) <$>
          match left, node.target anchors with
          | left + 1, _ => Node.value document fuel left inside below node
          | 0, .mapping _ _ _ => .ok (.map [])
          | 0, _ => .ok (.list [])
    let key (node : Node) : Built Value :=
      match node.target anchors with
      | .scalar .default content => .ok (.text content)
      | target =>
        if !target.tag?.any Node.isCollectionTag then part node
        else if !rules.isTolerant then fault .malformed
        else
          match part node with
          | .ok (.list items) => .ok (.tuple items)
          | .ok _ => fault .malformed
          | .error inner => fault inner.error
    let table (written : List (Node × Node)) : Built Fields := do
      let entries ← faultAt below (Node.entries document [] (anchors.length + 2) written)
      let keys := entries.all.map fun entry => key entry.1
      let values := entries.all.map fun entry => part entry.2
      let checks := keyChecks below (rules.isTolerant && entries.merged.isEmpty) keys
      let done ← collect ((keys.zip (values.zip checks)).flatMap fun (key, value, check) =>
        [key, value, check.map fun _ => .null])
      return Entries.ofEntries (grouped done)
    let pairs (items : List Node) : Built (List (Value × Value)) := do
      let done ← collect (items.flatMap fun item =>
        match item.target anchors with
        | .mapping _ _ [entry] => [part entry.1, part entry.2, .ok .null]
        | _ => [fault .malformed])
      return grouped done
    let ordered (items : List Node) : Built Fields := do
      let parts := items.map fun item =>
        match item.target anchors with
        | .mapping _ _ [entry] =>
          match ((entry.1.target anchors).tag?.getD .unknown).changingKind? with
          | some kind => (fault (.changingKey kind), .ok .null)
          | none => (part entry.1, part entry.2)
        | _ => (fault .malformed, .ok .null)
      let checks := (keyChecks below true (parts.map (·.1))).map (·.mapError fun inner => ⟨inner.depth, .repeatedKey⟩)
      let done ← collect ((parts.zip checks).flatMap fun ((key, value), check) =>
        [key, check.map fun _ => .null, value])
      return Entries.ofEntries (swapped done)
    match target.tag?.getD .unknown, target with
    | .sequence, .sequence _ _ items => .list <$> collect (items.map part)
    | .mapping, .mapping _ _ entries => .map <$> table entries
    | .set, .mapping _ _ entries => do return .set (← table entries).keys
    | .orderedMap, .sequence _ _ items =>
      if rules.isTolerant then .map <$> ordered items else tuples <$> pairs items
    | .pairs, .sequence _ _ items => tuples <$> pairs items
    | tag, target =>
      if Node.isCollectionTag tag then fault .malformed
      else faultAt depth (do Scalar.value rules tag (← target.content anchors (fuel + 1)))
where
  /-- Keys and values, each pair followed by what came of its check. -/
  grouped : List Value → List (Value × Value)
    | key :: value :: _ :: rest => (key, value) :: grouped rest
    | _ => []
  /-- Keys and values, what came of the check between them. -/
  swapped : List Value → List (Value × Value)
    | key :: _ :: value :: rest => (key, value) :: swapped rest
    | _ => []
  tuples (entries : List (Value × Value)) : Value := .list (entries.map fun (key, value) => .tuple [key, value])

/-- The value of a text; a text without a document stands for nothing. -/
def read (dialect : Dialect) (text : String) : Except ReadError Value := do
  let tokens := tokens dialect text
  match ← Document.ofTokens? dialect tokens with
  | none => return .null
  | some document =>
    (document.root.value document (tokens.length * (tellings + 1) + 2) tellings [] 0).mapError (·.error)

end BoxTree.Yaml
