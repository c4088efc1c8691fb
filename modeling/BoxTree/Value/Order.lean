import BoxTree.Value.Basic

/-! Values in ascending order, where they can be compared: numbers with numbers, texts with texts, and
sequences place by place. -/

namespace BoxTree

namespace Double

def signedFraction (d : Double) : Int × Nat := (d.signedTop, d.fraction.2)

end Double

inductive Magnitude where
  | undefined
  | infinite (negative : Bool)
  | ratio (top : Int) (bottom : Nat)

namespace Magnitude

def ofDouble (d : Double) : Magnitude :=
  if d.isNaN then undefined
  else if d.isFinite then ratio d.signedFraction.1 d.signedFraction.2
  else infinite d.isNegative

def less : Magnitude → Magnitude → Bool
  | undefined, _ | _, undefined => false
  | infinite a, infinite b => a && !b
  | infinite a, ratio _ _ => a
  | ratio _ _, infinite b => !b
  | ratio a b, ratio c d => decide (a * d < c * b)

end Magnitude

inductive Incomparable where
  | kinds (left right : String)
  | zones
  | momentAndDay
  /-- Two values inside themselves that meet again and again. -/
  | endless
deriving DecidableEq

def Incomparable.message : Incomparable → String
  | kinds left right => s!"'<' not supported between instances of '{left}' and '{right}'"
  | zones => "can't compare offset-naive and offset-aware datetimes"
  | momentAndDay => "can't compare datetime.datetime to datetime.date"
  | endless => "maximum recursion depth exceeded in comparison"

namespace Value

def magnitude? : Value → Option Magnitude
  | bool truth => some (.ratio (if truth then 1 else 0) 1)
  | int number => some (.ratio number 1)
  | double number => some (.ofDouble number)
  | _ => none

def textLess (left right : Wording) : Bool := decide (left.letters.map Letter.code < right.letters.map Letter.code)

def number? : Value → Option Nat
  | again number _ _ => some number
  | _ => none

/-- A value without another one around it. What stands inside itself is never void, but where it is told no more. -/
def unfolded : Value → Except Incomparable Value
  | again _ _ around => if around.isVoid then .error .endless else .ok around
  | value => .ok value

mutual
/-- Whether two values are equal, where some pairs of values inside themselves are met already. A value is equal to
itself, whatever it holds. -/
def alike (met : List (Nat × Nat)) : Value → Value → Except Incomparable Bool
  | again number _ around, b =>
    if b.number? == some number then .ok true
    else if around.isVoid || b.number?.any fun other => met.contains (number, other) then .error .endless
    else alike (b.number?.toList.map (number, ·) ++ met) around b
  | list a, b => do
    match ← b.unfolded with
    | list b => if a.length == b.length then alikeItems met a b else .ok false
    | _ => .ok false
  | tuple a, tuple b => alikeItems met a b
  | map a, b => do
    match ← b.unfolded with
    | map b => if a.length == b.length then alikeEntries met a b else .ok false
    | _ => .ok false
  | a, b => .ok (same a b)
termination_by structural left => left

def alikeItems (met : List (Nat × Nat)) : List Value → List Value → Except Incomparable Bool
  | [], [] => .ok true
  | a :: as, b :: bs => do if ← alike met a b then alikeItems met as bs else .ok false
  | _, _ => .ok false
termination_by structural left => left

def alikeEntries (met : List (Nat × Nat)) : List (Value × Value) → List (Value × Value) → Except Incomparable Bool
  | [], _ => .ok true
  | entry :: rest, others => do if ← alikeEntry met entry others then alikeEntries met rest others else .ok false
termination_by structural left => left

def alikeEntry (met : List (Nat × Nat)) : Value × Value → List (Value × Value) → Except Incomparable Bool
  | (key, value), others =>
    match others.find? fun other => same key other.1 with
    | some other => alike met value other.2
    | none => .ok false
termination_by structural left => left
end

mutual
/-- Whether a value comes before another, where some pairs of values inside themselves are met already. -/
def lessAmong (met : List (Nat × Nat)) : Value → Value → Except Incomparable Bool
  | text a, text b => .ok (textLess a b)
  | bytes a, bytes b => .ok (decide (a.map UInt8.toNat < b.map UInt8.toNat))
  | date a, date b => .ok (decide ([a.year, a.month, a.day] < [b.year, b.month, b.day]))
  | moment a, moment b =>
    match a.before? b with
    | some answer => .ok answer
    | none => .error .zones
  | moment _, date _ | date _, moment _ => .error .momentAndDay
  | again number _ around, b =>
    if around.isVoid || b.number?.any fun other => met.contains (number, other) then .error .endless
    else lessAmong (b.number?.toList.map (number, ·) ++ met) around b
  | list a, b => do
    match ← b.unfolded with
    | list b => lessItems met a b
    | other => .error (.kinds "list" other.kindName)
  | tuple a, tuple b => lessItems met a b
  | set a, set b => .ok (decide (a.length < b.length) && a.all fun item => b.any (same item))
  | a, b =>
    match a.magnitude?, b.magnitude? with
    | some left, some right => .ok (left.less right)
    | _, _ => .error (.kinds a.kindName b.kindName)
termination_by structural left => left

def lessItems (met : List (Nat × Nat)) : List Value → List Value → Except Incomparable Bool
  | [], [] => .ok false
  | [], _ :: _ => .ok true
  | _ :: _, [] => .ok false
  | a :: as, b :: bs => do if ← alike [] a b then lessItems met as bs else lessAmong met a b
termination_by structural left => left
end

def less (left right : Value) : Except Incomparable Bool := lessAmong [] left right

/-- The place of a value among sorted ones, after its equals, found by halving the part `[low, high)`. -/
def placeAmong (value : Value) (sorted : Array Value) : Nat → Nat → Nat → Except Incomparable Nat
  | 0, low, _ => .ok low
  | tries + 1, low, high =>
    if low < high then do
      let middle := low + (high - low) / 2
      if ← less value (sorted.getD middle .null) then placeAmong value sorted tries low middle
      else placeAmong value sorted tries (middle + 1) high
    else .ok low

/-- How many values continue a run in which each comes before the last, or each does not. -/
def runLength (descending : Bool) (last : Value) : List Value → Except Incomparable Nat
  | [] => .ok 0
  | next :: rest => do
    if (← less next last) == descending then return (← runLength descending next rest) + 1
    else return 0

/-- Sort values: the run at the start is kept or turned, each later value is put in its place. -/
def sorted : List Value → Except Incomparable (List Value)
  | [] => .ok []
  | [only] => .ok [only]
  | first :: second :: rest => do
    let descending ← less second first
    let length ← runLength descending second rest
    let run := first :: second :: rest.take length
    let start := if descending then run.reverse else run
    let all ← (rest.drop length).foldlM
      (fun (done : Array Value) value => do
        let place ← placeAmong value done (done.size + 1) 0 done.size
        return (done.toList.take place ++ value :: done.toList.drop place).toArray)
      start.toArray
    return all.toList

end Value
end BoxTree
