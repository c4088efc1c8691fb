import BoxTree.Markup.Json.Reader
import BoxTree.Number.Layout
import BoxTree.Proofs.ShortestDigits

/-! Numbers in canonical text and what they are read as: a double that is written with digits alone as a whole number, and
any other double as itself. -/

namespace BoxTree

namespace Decimal

/-- The whole number that a decimal is written as with digits alone, if canonical text does so. -/
def bare? (decimal : Decimal) : Option Nat :=
  if decimal.digits.length ≤ decimal.point ∧ decimal.point ≤ 21 then
    some (Nat.ofDigitChars 10 decimal.digits 0 * 10 ^ (decimal.point - decimal.digits.length).toNat)
  else none

private theorem value_of_bare {decimal : Decimal} {size : Nat} (bare : decimal.bare? = some size) :
    decimal.value = size := by
  unfold bare? at bare
  split at bare
  next fits =>
    cases bare
    have power : (10 : ℚ) ^ (decimal.point - decimal.digits.length) =
        10 ^ (decimal.point - decimal.digits.length).toNat := by
      rw [← zpow_natCast, Int.toNat_of_nonneg (by omega)]
    rw [value, power]
    push_cast
    rfl
  next => cases bare

end Decimal

def Double.written (d : Double) : Value :=
  match d.shortest.bare? with
  | some size => .int (if d.isNegative then -size else size)
  | none => .double d

namespace Double
variable {d : Double}

/-- A double that is written with digits alone is the whole number that they spell, as long as doubles hold every whole
number of its size. -/
theorem whole?_of_bare (finite : d.isFinite = true) {size : Nat} (bare : d.shortest.bare? = some size)
    (small : size < 2 ^ 53) : d.whole? = some (if d.isNegative then -(size : Int) else size) := by
  apply whole?_of_size finite
  by_cases solid : d.significand = 0
  · have zero : d.shortest = ⟨['0'], 1⟩ := by rw [shortest, if_pos solid]
    have none : size = 0 := by
      rw [zero] at bare
      exact (Option.some.inj bare).symm
    rw [Double.size, solid, none]
    simp
  · obtain ⟨_, covers⟩ := shortest_spec finite solid
    rw [Decimal.value_of_bare bare] at covers
    exact covers.size_eq solid small

theorem same_written (finite : d.isFinite = true)
    (exact : ∀ size, d.shortest.bare? = some size → size < 2 ^ 53) : (Value.double d).same d.written = true := by
  rw [written]
  split
  next size bare =>
    have whole := whole?_of_bare finite bare (exact size bare)
    simp [Value.same, Value.whole?, whole]
  next => simp [Value.same, same, isNaN, finite]

end Double

namespace Json

variable {letters rest : List Char}

def EndsNumber (letters : List Char) : Prop :=
  ∀ c ∈ letters.head?, c.isDigit = false ∧ c ≠ '.' ∧ c ≠ 'e' ∧ c ≠ 'E'

section Digits

private theorem asciiDigit?_of_isDigit {c : Char} (digit : c.isDigit = true) :
    Text.asciiDigit? 10 c = some (c.toNat - '0'.toNat) := by
  have code : '0'.toNat = 0x30 := rfl
  have bounds := codes_of_isDigit digit
  simp [Text.asciiDigit?, digit, Option.filter_some, code]
  omega

private theorem number?_digits (digits : ∀ c ∈ letters, c.isDigit = true) :
    Text.number? 10 letters = some (Nat.ofDigitChars 10 letters 0) := by
  have run (start : Nat) : letters.foldlM (fun total c => (Text.asciiDigit? 10 c).map (total * 10 + ·)) start =
      some (Nat.ofDigitChars 10 letters start) := by
    induction letters generalizing start with
    | nil => rfl
    | cons c rest ih =>
      obtain ⟨digit, digits⟩ := List.forall_mem_cons.mp digits
      rw [List.foldlM_cons, asciiDigit?_of_isDigit digit, Nat.ofDigitChars_cons, Nat.mul_comm 10]
      exact ih digits _
  exact run 0

private theorem digitsOf_append (digits : ∀ c ∈ letters, c.isDigit = true)
    (ends : ∀ c ∈ rest.head?, c.isDigit = false) :
    digitsOf (letters ++ rest) = (letters, rest) := by
  have stops : rest.takeWhile Char.isDigit = [] ∧ rest.dropWhile Char.isDigit = rest := by
    cases rest with
    | nil => exact ⟨rfl, rfl⟩
    | cons c rest => simp [ends c rfl]
  rw [digitsOf, List.span_eq_takeWhile_dropWhile, List.takeWhile_append_of_pos digits,
    List.dropWhile_append_of_pos digits, stops.1, stops.2, List.append_nil]

private theorem isDigit_zeros (count : Int) : ∀ c ∈ Layout.zeros count, c.isDigit = true := by
  intro c member
  rw [List.eq_of_mem_replicate member]
  rfl

private theorem fractionDigits_none (ends : ∀ c ∈ rest.head?, c ≠ '.') : fractionDigits rest = ([], rest) := by
  unfold fractionDigits
  split
  next c _ => exact absurd rfl (ends '.' rfl)
  next => rfl

theorem fractionDigits_some (digits : ∀ c ∈ letters, c.isDigit = true) (some : letters ≠ [])
    (ends : ∀ c ∈ rest.head?, c.isDigit = false) : fractionDigits ('.' :: letters ++ rest) = (letters, rest) := by
  obtain ⟨c, more, rfl⟩ := List.exists_cons_of_ne_nil some
  have digit := digits c List.mem_cons_self
  rw [List.cons_append, List.cons_append, fractionDigits, if_pos digit]
  exact digitsOf_append digits ends

theorem exponent?_none (ends : EndsNumber rest) : exponent? rest = none := by
  have other : ∀ c ∈ rest.head?, (c == 'e' || c == 'E') = false := by
    intro c first
    obtain ⟨_, _, small, large⟩ := ends c first
    simp [small, large]
  unfold exponent?
  split
  next mark _ => simp [other mark rfl]
  next mark _ => simp [other mark rfl]
  next mark _ _ _ => simp [other mark rfl]
  next => rfl

def exponentLetters (exponent : Int) : List Char :=
  'e' :: (if exponent < 0 then '-' else '+') :: Nat.toDigits 10 exponent.natAbs

private theorem exponent?_letters (exponent : Int) (ends : ∀ c ∈ rest.head?, c.isDigit = false) :
    exponent? (exponentLetters exponent ++ rest) = some (exponent, rest) := by
  have split := digitsOf_append (isDigit_toDigits exponent.natAbs) ends
  have size := number?_digits (isDigit_toDigits exponent.natAbs)
  rw [Nat.ofDigitChars_ten_toDigits] at size
  rw [exponentLetters]
  obtain ⟨c, more, same⟩ := List.exists_cons_of_ne_nil (Nat.toDigits_ne_nil (n := exponent.natAbs) (b := 10))
  rw [same] at split size ⊢
  rw [List.cons_append] at split
  by_cases negative : exponent < 0
  all_goals
    simp only [negative, if_true, if_false, List.cons_append, exponent?, BEq.rfl, Bool.true_or, split, size,
      Option.getD_some, Option.some.injEq, Prod.mk.injEq, and_true, Bool.false_eq_true]
    omega

end Digits

section Numbers

variable {whole decimals : List Char} (negative : Bool)

/-- Digits with which a number may begin: a zero stands alone. -/
structure Leads (letters : List Char) : Prop where
  digits : ∀ c ∈ letters, c.isDigit = true
  start : letters = ['0'] ∨ ∃ c rest, letters = c :: rest ∧ c ≠ '0'

def wholeOf (letters : List Char) : List Char × List Char :=
  match letters with
  | '0' :: rest => (['0'], rest)
  | _ => digitsOf letters

private theorem wholeOf_append (leads : Leads letters) (ends : ∀ c ∈ rest.head?, c.isDigit = false) :
    wholeOf (letters ++ rest) = (letters, rest) := by
  obtain ⟨digits, rfl | ⟨c, more, rfl, other⟩⟩ := leads
  · rfl
  · rw [wholeOf]
    · exact digitsOf_append digits ends
    · exact fun _ same => other (List.cons.inj same).1

private theorem Leads.exists_cons (leads : Leads letters) : ∃ c rest, letters = c :: rest := by
  obtain ⟨_, rfl | ⟨c, rest, rfl, _⟩⟩ := leads <;> exact ⟨_, _, rfl⟩

theorem EndsNumber.notDigit (ends : EndsNumber rest) : ∀ c ∈ rest.head?, c.isDigit = false :=
  fun c first => (ends c first).1

private theorem EndsNumber.notPoint (ends : EndsNumber rest) : ∀ c ∈ rest.head?, c ≠ '.' :=
    fun c first => (ends c first).2.1

private theorem readNumber_int (leads : Leads whole) (short : whole.length ≤ Text.digitLimit) (ends : EndsNumber rest) :
    readNumber negative (whole ++ rest) = .ok (some (.int (if negative then -(Nat.ofDigitChars 10 whole 0 : Int)
      else Nat.ofDigitChars 10 whole 0), rest)) := by
  have size := number?_digits leads.digits
  unfold readNumber
  extract_lets found
  have split : found = (whole, rest) := wholeOf_append leads ends.notDigit
  obtain ⟨c, more, rfl⟩ := leads.exists_cons
  rw [split]
  simp only [fractionDigits_none ends.notPoint, exponent?_none ends, List.append_nil, size, Option.getD_some,
    if_neg (not_lt.mpr short)]

/-- A point or an exponent makes a number a double. -/
theorem readNumber_double (leads : Leads whole) (digits : ∀ c ∈ decimals, c.isDigit = true)
    (ends : ∀ c ∈ rest.head?, c.isDigit = false) {middle last : List Char}
    (fraction : fractionDigits rest = (decimals, middle)) {amount : Int}
    (exponent : exponent? middle = some (amount, last) ∨
      decimals ≠ [] ∧ exponent? middle = none ∧ amount = 0 ∧ last = middle) :
    readNumber negative (whole ++ rest) = .ok (some (.double (.ofDecimal negative
      (Nat.ofDigitChars 10 (whole ++ decimals) 0) (amount - decimals.length)), last)) := by
  have size := number?_digits (List.forall_mem_append.mpr ⟨leads.digits, digits⟩)
  unfold readNumber
  extract_lets found
  have split : found = (whole, rest) := wholeOf_append leads ends
  obtain ⟨c, more, rfl⟩ := leads.exists_cons
  rw [split]
  rcases exponent with scientific | ⟨some, none, rfl, rfl⟩
  · simp only [fraction, scientific, size, Option.getD_some]
  · obtain ⟨d, others, rfl⟩ := List.exists_cons_of_ne_nil some
    simp only [fraction, none, size, Option.getD_some, Int.zero_sub]

end Numbers

section Layouts

variable {decimal : Decimal} {size : Nat} {digits : List Char}

def sizeLetters (decimal : Decimal) : List Char :=
  if -6 < decimal.point && decimal.point ≤ 21 then Layout.canonical.positional decimal
  else Layout.canonical.scientific decimal

private theorem letters_canonical (d : Double) : Layout.canonical.letters d =
    if d.isNegative && !d.isZero then '-' :: sizeLetters d.shortest else sizeLetters d.shortest := by
  simp only [Layout.letters, Layout.canonical, Bool.false_or]
  rfl

private theorem leads_of_trimmed (trimmed : decimal.Trimmed) (more : List Char)
    (others : ∀ c ∈ more, c.isDigit = true) :
    Leads (decimal.digits ++ more) := by
  obtain ⟨c, rest, same, other⟩ := trimmed.first
  refine ⟨List.forall_mem_append.mpr ⟨trimmed.digits, others⟩, .inr ⟨c, rest ++ more, ?_, other⟩⟩
  rw [same, List.cons_append]

private theorem readNumber_bare (trimmed : decimal.Trimmed) (negative : Bool) (ends : EndsNumber rest)
    (bare : decimal.bare? = some size) : readNumber negative (sizeLetters decimal ++ rest) =
      .ok (some (.int (if negative then -(size : Int) else size), rest)) := by
  obtain ⟨c, more, same, _⟩ := trimmed.first
  unfold Decimal.bare? at bare
  split at bare
  next fits =>
    obtain ⟨whole, upper⟩ := fits
    cases bare
    have some : 0 < decimal.digits.length := by simp [same]
    have short : decimal.digits.length + (decimal.point - decimal.digits.length).toNat ≤ 21 := by omega
    have shape : sizeLetters decimal = decimal.digits ++ Layout.zeros (decimal.point - decimal.digits.length) := by
      rw [sizeLetters, if_pos (by simp; omega), Layout.positional, if_neg (by omega), if_pos whole]
      simp [Layout.canonical]
    rw [shape, readNumber_int negative (leads_of_trimmed trimmed _ (isDigit_zeros _)) _ ends, Nat.ofDigitChars_append,
      Layout.zeros, Nat.ofDigitChars_replicate_zero, Nat.mul_comm]
    rw [List.length_append, Layout.zeros, List.length_replicate, Text.digitLimit]
    omega
  next => cases bare

/-- Digits after a zero and a point. -/
theorem readNumber_small (trimmed : decimal.Trimmed) (negative : Bool) (ends : EndsNumber rest)
    (small : decimal.point ≤ 0) : readNumber negative (Layout.canonical.positional decimal ++ rest) =
      .ok (some (.double (.ofDecimal negative (Nat.ofDigitChars 10 decimal.digits 0)
        (decimal.point - decimal.digits.length)), rest)) := by
  have zero : Leads ['0'] := ⟨by simp, .inl rfl⟩
  have digits : ∀ c ∈ Layout.zeros (-decimal.point) ++ decimal.digits, c.isDigit = true :=
    List.forall_mem_append.mpr ⟨isDigit_zeros _, trimmed.digits⟩
  have some : Layout.zeros (-decimal.point) ++ decimal.digits ≠ [] := by
    obtain ⟨c, more, same, _⟩ := trimmed.first
    simp [same]
  have shape : Layout.canonical.positional decimal ++ rest =
      ['0'] ++ ('.' :: (Layout.zeros (-decimal.point) ++ decimal.digits) ++ rest) := by
    rw [Layout.positional, if_pos small]
    simp
  have fraction := fractionDigits_some digits some ends.notDigit
  have point : ∀ c ∈ ('.' :: (Layout.zeros (-decimal.point) ++ decimal.digits) ++ rest).head?, c.isDigit = false := by
    simp
  have size : (0 : Int) - (Layout.zeros (-decimal.point) ++ decimal.digits).length =
      decimal.point - decimal.digits.length := by
    rw [List.length_append, Layout.zeros, List.length_replicate]
    omega
  rw [shape, readNumber_double negative zero digits point fraction (.inr ⟨some, exponent?_none ends, rfl, rfl⟩), size,
    Nat.ofDigitChars_append, Nat.ofDigitChars_append, Layout.zeros, Nat.ofDigitChars_replicate_zero]
  rfl

/-- Digits around a point. -/
theorem readNumber_mixed (trimmed : decimal.Trimmed) (negative : Bool) (ends : EndsNumber rest)
    (large : 0 < decimal.point) (inner : decimal.point < decimal.digits.length) :
    readNumber negative (Layout.canonical.positional decimal ++ rest) =
      .ok (some (.double (.ofDecimal negative (Nat.ofDigitChars 10 decimal.digits 0)
        (decimal.point - decimal.digits.length)), rest)) := by
  obtain ⟨place, point⟩ := Int.eq_ofNat_of_zero_le large.le
  rw [point] at large inner
  have whole : Leads (decimal.digits.take place) := by
    refine ⟨fun c member => trimmed.digits c (List.mem_of_mem_take member), .inr ?_⟩
    obtain ⟨c, more, same, other⟩ := trimmed.first
    obtain ⟨fewer, rfl⟩ := Nat.exists_eq_add_of_lt (Int.natCast_pos.mp large)
    exact ⟨c, more.take (0 + fewer), by rw [same, List.take_succ_cons], other⟩
  have digits : ∀ c ∈ decimal.digits.drop place, c.isDigit = true :=
    fun c member => trimmed.digits c (List.mem_of_mem_drop member)
  have some : decimal.digits.drop place ≠ [] := by
    rw [ne_eq, List.drop_eq_nil_iff]
    omega
  have shape : Layout.canonical.positional decimal ++ rest =
      decimal.digits.take place ++ ('.' :: decimal.digits.drop place ++ rest) := by
    rw [Layout.positional, if_neg (by omega), if_neg (by omega), point, Int.toNat_natCast]
    simp
  have fraction := fractionDigits_some digits some ends.notDigit
  have size : (0 : Int) - (decimal.digits.drop place).length = place - decimal.digits.length := by
    rw [List.length_drop]
    omega
  rw [shape, readNumber_double negative whole digits (by simp) fraction (.inr ⟨some, exponent?_none ends, rfl, rfl⟩),
    size, List.take_append_drop, point]

/-- One digit before a point, and an exponent. -/
theorem readNumber_scientific (trimmed : decimal.Trimmed) (negative : Bool) (ends : EndsNumber rest) :
    readNumber negative (Layout.canonical.scientific decimal ++ rest) =
      .ok (some (.double (.ofDecimal negative (Nat.ofDigitChars 10 decimal.digits 0)
        (decimal.point - decimal.digits.length)), rest)) := by
  obtain ⟨c, more, same, other⟩ := trimmed.first
  obtain ⟨digit, digits⟩ := List.forall_mem_cons.mp (same ▸ trimmed.digits)
  have whole : Leads [c] := ⟨by simpa using digit, .inr ⟨c, [], rfl, other⟩⟩
  have shape : Layout.canonical.scientific decimal ++ rest =
      [c] ++ ((if more = [] then [] else '.' :: more) ++ (exponentLetters (decimal.point - 1) ++ rest)) := by
    have width : 1 - (Nat.toDigits 10 (decimal.point - 1).natAbs).length = 0 :=
      Nat.sub_eq_zero_of_le (List.length_pos_of_ne_nil Nat.toDigits_ne_nil)
    cases more <;> simp [Layout.scientific, same, Layout.canonical, width, exponentLetters]
  have fraction : fractionDigits ((if more = [] then [] else '.' :: more) ++
      (exponentLetters (decimal.point - 1) ++ rest)) = (more, exponentLetters (decimal.point - 1) ++ rest) := by
    by_cases single : more = []
    · rw [if_pos single, single, List.nil_append]
      exact fractionDigits_none (by simp [exponentLetters])
    · rw [if_neg single]
      exact fractionDigits_some digits single (by simp [exponentLetters])
  have size : decimal.point - 1 - more.length = decimal.point - decimal.digits.length := by
    rw [same, List.length_cons]
    omega
  rw [shape, readNumber_double negative whole digits _ fraction (.inl (exponent?_letters _ ends.notDigit)), size,
    List.singleton_append, same]
  cases more <;> simp [exponentLetters]

private theorem readNumber_pointed (trimmed : decimal.Trimmed) (negative : Bool) (ends : EndsNumber rest)
    (bare : decimal.bare? = none) : readNumber negative (sizeLetters decimal ++ rest) =
      .ok (some (.double (.ofDecimal negative (Nat.ofDigitChars 10 decimal.digits 0)
        (decimal.point - decimal.digits.length)), rest)) := by
  have other : ¬ (decimal.digits.length ≤ decimal.point ∧ decimal.point ≤ 21) := by
    intro fits
    simp [Decimal.bare?, fits] at bare
  rw [sizeLetters]
  split
  next usual =>
    simp only [Bool.and_eq_true, decide_eq_true_eq] at usual
    rcases le_or_gt decimal.point 0 with small | large
    · exact readNumber_small trimmed negative ends small
    · exact readNumber_mixed trimmed negative ends large (by omega)
  next => exact readNumber_scientific trimmed negative ends

end Layouts

section Letters

def IsNumeral (c : Char) : Prop := c.isDigit = true ∨ c ∈ ['-', '+', '.', 'e']

private theorem numeral_of_digits {letters : List Char} (digits : ∀ c ∈ letters, c.isDigit = true) :
    ∀ c ∈ letters, IsNumeral c := fun c member => .inl (digits c member)

private theorem numeral_of_positional {decimal : Decimal} (digits : ∀ c ∈ decimal.digits, IsNumeral c) :
    ∀ c ∈ Layout.canonical.positional decimal, IsNumeral c := by
  have zeros (count : Int) : ∀ c ∈ Layout.zeros count, IsNumeral c := numeral_of_digits (isDigit_zeros count)
  rw [Layout.positional]
  split
  · have start : ∀ c ∈ ['0', '.'], IsNumeral c := by simp [IsNumeral]
    exact List.forall_mem_append.mpr ⟨List.forall_mem_append.mpr ⟨start, zeros _⟩, digits⟩
  · split
    · exact List.forall_mem_append.mpr ⟨List.forall_mem_append.mpr ⟨digits, zeros _⟩, by simp [Layout.canonical]⟩
    · refine List.forall_mem_append.mpr ⟨List.forall_mem_append.mpr ⟨?_, by simp [IsNumeral]⟩, ?_⟩
      · exact fun c member => digits c (List.mem_of_mem_take member)
      · exact fun c member => digits c (List.mem_of_mem_drop member)

private theorem numeral_of_scientific {decimal : Decimal} (digits : ∀ c ∈ decimal.digits, IsNumeral c) :
    ∀ c ∈ Layout.canonical.scientific decimal, IsNumeral c := by
  have exponent (size : Nat) : ∀ c ∈ (toString size).toList, IsNumeral c := by
    rw [toList_toString]
    exact numeral_of_digits (isDigit_toDigits size)
  have zeros (count : Nat) : ∀ c ∈ List.replicate count '0', IsNumeral c := numeral_of_digits (isDigit_zeros count)
  have sign : ∀ c ∈ ['e', if decimal.point - 1 < 0 then '-' else '+'], IsNumeral c := by
    split <;> simp [IsNumeral]
  have point : IsNumeral '.' := .inr (by decide)
  obtain ⟨letters, place⟩ := decimal
  rw [Layout.scientific]
  refine List.forall_mem_append.mpr ⟨List.forall_mem_append.mpr ⟨List.forall_mem_append.mpr ⟨?_, sign⟩, zeros _⟩, exponent _⟩
  cases letters with
  | nil => exact digits
  | cons d more =>
    cases more with
    | nil => exact digits
    | cons e more =>
      obtain ⟨first, digits⟩ := List.forall_mem_cons.mp digits
      exact List.forall_mem_cons.mpr ⟨first, List.forall_mem_cons.mpr ⟨point, digits⟩⟩

theorem numeral_of_double {d : Double} (finite : d.isFinite = true) :
    ∀ c ∈ Layout.canonical.letters d, IsNumeral c := by
  have digits : ∀ c ∈ d.shortest.digits, c.isDigit = true := by
    by_cases solid : d.significand = 0
    · rw [Double.shortest, if_pos solid]
      simp
    · exact (Double.shortest_spec finite solid).1.digits
  have size : ∀ c ∈ sizeLetters d.shortest, IsNumeral c := by
    rw [sizeLetters]
    split
    · exact numeral_of_positional (numeral_of_digits digits)
    · exact numeral_of_scientific (numeral_of_digits digits)
  have sign : IsNumeral '-' := .inr (by decide)
  rw [letters_canonical]
  split
  · exact List.forall_mem_cons.mpr ⟨sign, size⟩
  · exact size

end Letters

section Scalars

variable {c : Char} {found : Value × List Char}

private theorem word?_of_isDigit (digit : c.isDigit = true) (rest : List Char) :
    word? (c :: rest) = none ∧ word? ('-' :: c :: rest) = none := by
  have apart (other : Char) (letter : other.isDigit = false) : (other == c) = false := by
    rw [beq_eq_false_iff_ne]
    rintro rfl
    simp [digit] at letter
  simp [word?, words, List.isPrefixOf, apart 'n' (by decide), apart 't' (by decide), apart 'f' (by decide),
    apart 'N' (by decide), apart 'I' (by decide), apart '-' (by decide)]

theorem readScalar_signed (digit : c.isDigit = true) (negative : Bool)
    (read : readNumber negative (c :: rest) = .ok (some found)) :
    readScalar ((if negative then ['-'] else []) ++ c :: rest) = .ok found := by
  obtain ⟨unsigned, signed⟩ := word?_of_isDigit digit rest
  cases negative with
  | true => simp [readScalar, signed, read, bind, Except.bind, pure, Except.pure]
  | false =>
    have other : c ≠ '-' := by
      rintro rfl
      simp at digit
    simp [readScalar, unsigned, read, other, bind, Except.bind, pure, Except.pure]

private theorem exists_digit {decimal : Decimal} (trimmed : decimal.Trimmed) :
    ∃ c more, sizeLetters decimal = c :: more ∧ c.isDigit = true := by
  obtain ⟨c, more, same, _⟩ := trimmed.first
  have digit := trimmed.digits c (same ▸ List.mem_cons_self)
  rw [sizeLetters]
  split
  · rw [Layout.positional]
    split
    · exact ⟨'0', _, rfl, by decide⟩
    · split
      · exact ⟨c, _, by rw [same]; rfl, digit⟩
      next large _ =>
        obtain ⟨fewer, place⟩ := Int.eq_succ_of_zero_lt (not_le.mp large)
        exact ⟨c, _, by rw [same, place]; rfl, digit⟩
  · rw [Layout.scientific, same]
    cases more <;> exact ⟨c, _, rfl, digit⟩

/-- A double is read from its canonical letters. -/
theorem readScalar_double {d : Double} (finite : d.isFinite = true) (ends : EndsNumber rest) :
    readScalar (Layout.canonical.letters d ++ rest) = .ok (d.written, rest) := by
  by_cases solid : d.significand = 0
  · have zero : d.shortest = ⟨['0'], 1⟩ := by rw [Double.shortest, if_pos solid]
    have letters : Layout.canonical.letters d = ['0'] := by
      rw [letters_canonical, zero, Double.isZero, finite, solid]
      simp
      rfl
    have zeroLeads : Leads ['0'] := ⟨by simp, .inl rfl⟩
    have read := readNumber_int false zeroLeads (by decide) ends
    have written : d.written = .int 0 := by
      have value : Nat.ofDigitChars 10 ['0'] 0 = 0 := rfl
      rw [Double.written, zero]
      simp [Decimal.bare?, value]
    rw [letters, written]
    exact readScalar_signed (by decide) false read
  · obtain ⟨trimmed, covers⟩ := Double.shortest_spec finite solid
    have back : Double.ofDecimal d.isNegative (Nat.ofDigitChars 10 d.shortest.digits 0)
        (d.shortest.point - d.shortest.digits.length) = d := Double.ofDecimal_of_covers finite solid covers
    have read : readNumber d.isNegative (sizeLetters d.shortest ++ rest) = .ok (some (d.written, rest)) := by
      rw [Double.written]
      cases bare : d.shortest.bare? with
      | some size => exact readNumber_bare trimmed _ ends bare
      | none => rw [readNumber_pointed trimmed _ ends bare, back]
    have signed : Layout.canonical.letters d = (if d.isNegative then ['-'] else []) ++ sizeLetters d.shortest := by
      rw [letters_canonical, Double.isZero, beq_eq_false_iff_ne.mpr solid]
      cases d.isNegative <;> simp
    obtain ⟨c, more, same, digit⟩ := exists_digit trimmed
    rw [same] at signed read
    rw [signed, List.append_assoc]
    exact readScalar_signed digit _ read

/-- A whole number is read from its digits, if they are not too many. -/
theorem readScalar_int {number : Int} (short : number.natAbs < 10 ^ Text.digitLimit) (ends : EndsNumber rest) :
    readScalar ((toString number).toList ++ rest) = .ok (.int number, rest) := by
  have signed : (toString number).toList =
      (if decide (number < 0) = true then ['-'] else []) ++ Nat.toDigits 10 number.natAbs := by
    cases number <;> simp [ToString.toString, Int.repr, Nat.repr_eq_ofList_toDigits]
  have leads : Leads (Nat.toDigits 10 number.natAbs) := by
    refine ⟨isDigit_toDigits number.natAbs, ?_⟩
    by_cases zero : number.natAbs = 0
    · exact .inl (by rw [zero]; rfl)
    · obtain ⟨c, more, same⟩ := List.exists_cons_of_ne_nil (Nat.toDigits_ne_nil (n := number.natAbs) (b := 10))
      exact .inr ⟨c, more, same, head_toDigits zero same⟩
  have fits : (Nat.toDigits 10 number.natAbs).length ≤ Text.digitLimit :=
    (Nat.length_toDigits_le_iff (by decide) (by decide)).mpr short
  have read := readNumber_int (decide (number < 0)) leads fits ends
  have size : (if decide (number < 0) = true then -(number.natAbs : Int) else number.natAbs) = number := by
    simp only [decide_eq_true_eq]
    split <;> omega
  rw [Nat.ofDigitChars_ten_toDigits, size] at read
  obtain ⟨c, more, same⟩ := leads.exists_cons
  have digit := leads.digits c (same ▸ List.mem_cons_self)
  rw [same] at signed read
  rw [signed, List.append_assoc]
  exact readScalar_signed digit _ read

end Scalars

end Json
end BoxTree
