import BoxTree.Proofs.CanonicalOrder
import BoxTree.Proofs.NumberText

/-! Canonical text read as a document. What is read is the value as the text says it: entries in the order of their keys,
keys as texts, tuples as lists, and a double that is written with digits alone as a whole number. -/

namespace BoxTree

namespace Value

mutual
/-- What a value is read as from its canonical text. -/
def written : Value → Value
  | double number => number.written
  | list items => list (writtenItems items)
  | tuple items => list (writtenItems items)
  | map entries => map (arranged (writtenEntries entries))
  | value => value

def writtenItems : List Value → List Value
  | [] => []
  | item :: rest => item.written :: writtenItems rest

def writtenEntries : List (Value × Value) → List (Value × Value)
  | [] => []
  | (key, value) :: rest => (text key.plain, value.written) :: writtenEntries rest
end

private theorem writtenItems_eq (items : List Value) : writtenItems items = items.map written := by
  induction items with
  | nil => rfl
  | cons item rest ih => rw [writtenItems, ih, List.map_cons]

private theorem writtenEntries_eq (entries : List (Value × Value)) :
    writtenEntries entries = entries.map fun entry => (text entry.1.plain, entry.2.written) := by
  induction entries with
  | nil => rfl
  | cons entry rest ih => rw [writtenEntries, ih, List.map_cons]

theorem written_list (items : List Value) : (list items).written = list (items.map written) := by
  rw [written, writtenItems_eq]

private theorem written_tuple (items : List Value) : (tuple items).written = list (items.map written) := by
  rw [written, writtenItems_eq]

theorem written_map (entries : List (Value × Value)) : (map entries).written =
    map ((arranged entries).map fun entry => (text entry.1.plain, entry.2.written)) := by
  rw [written, writtenEntries_eq, arranged, arranged]
  congr 1
  symm
  apply List.map_mergeSort
  intros
  rfl

end Value

namespace Json

open Canonical

variable {letters part rest : List Char} {fuel : Nat}

section Texts

variable {start : List Char} {done : List Letter}

/-- An escaped letter is read as the letter. -/
theorem readText_escaped {c next : Char} (escaped : Escaped c letters) :
    readText start (fuel + 1) done (letters ++ next :: rest) = readText start fuel (.char c :: done) (next :: rest) := by
  cases escaped with
  | named names =>
    rw [List.cons_append, List.singleton_append, readText, names]
    rintro rfl
    cases names
  | code control =>
    have digits : unit? (Text.hexDigits 4 c.toNat ++ next :: rest) = some (c.toNat, next :: rest) := by
      change (Text.number? 16 (Text.hexDigits 4 c.toNat)).map (·, next :: rest) = _
      rw [number?_hexDigits control, Option.map_some]
    have single (low : Nat) : joinUnits? c.toNat low = none := by
      have below : ¬ 0xd800 ≤ c.toNat := by omega
      simp [joinUnits?, below]
    have letter : unitLetter? (Text.hexDigits 4 c.toNat ++ next :: rest) = some (.char c, next :: rest) := by
      simp only [unitLetter?, digits, Option.bind_eq_bind, Option.bind_some, single, Letter.ofCode_toNat]
      split
      · split <;> rfl
      · rfl
    rw [List.cons_append, List.cons_append, readText, letter]
  | plain quote slash visible =>
    rw [List.singleton_append, readText, if_neg visible]
    all_goals simp [quote, slash]

private theorem readText_letters (letters : List Char) (enough : (letters.flatMap escape).length < fuel) :
    readText start fuel done (letters.flatMap escape ++ '"' :: rest) =
      .ok (.ofLetters (done.reverse ++ letters.map .char), rest) := by
  induction letters generalizing fuel done with
  | nil =>
    obtain ⟨fewer, rfl⟩ := Nat.exists_eq_add_of_lt enough
    rw [List.map_nil, List.append_nil]
    rfl
  | cons c letters ih =>
    have some := List.length_pos_of_ne_nil (escaped_escape c).ne_nil
    rw [List.flatMap_cons, List.length_append] at enough
    obtain ⟨fewer, rfl⟩ := Nat.exists_eq_add_of_lt (Nat.zero_lt_of_lt enough)
    have fits : (letters.flatMap escape).length < 0 + fewer := by omega
    have more : letters.flatMap escape ++ '"' :: rest ≠ [] := by simp
    obtain ⟨next, after, same⟩ := List.exists_cons_of_ne_nil more
    rw [List.flatMap_cons, List.append_assoc, same, readText_escaped (escaped_escape c), ← same, ih fits]
    simp

/-- The text of a key or a value is read back. -/
theorem readText_text (content : String) (enough : (textLetters content).length ≤ fuel) :
    readText start fuel [] (content.toList.flatMap escape ++ '"' :: rest) = .ok (.whole content, rest) := by
  have fits : (content.toList.flatMap escape).length < fuel := by
    simp only [textLetters, List.length_append, List.length_cons] at enough
    omega
  rw [readText_letters _ fits, List.reverse_nil, List.nil_append, Wording.ofLetters_map_char, String.ofList_toList]

end Texts

section Parts

def IsOpening (c : Char) : Prop := isBlank c = false ∧ c ∉ [']', '\uFEFF']

def Opens (letters : List Char) : Prop := ∃ c rest, letters = c :: rest ∧ IsOpening c

/-- Letters on one line that are read as a value wherever one may stand. -/
structure Spells (part : List Char) (value : Value) : Prop where
  opens : Opens part
  oneLine : '\r' ∉ part
  reads : ∀ {fuel : Nat} {rest : List Char}, 2 * part.length ≤ fuel → EndsNumber rest →
    readValue fuel (part ++ rest) = .ok (value, rest)

private theorem Opens.skipBlanks (opens : Opens letters) (rest : List Char) :
    skipBlanks (letters ++ rest) = letters ++ rest := by
  obtain ⟨c, more, rfl, visible, _⟩ := opens
  simp [Json.skipBlanks, visible]

private theorem endsNumber_stop {c : Char} (stop : IsStop c) (rest : List Char) : EndsNumber (c :: rest) := by
  intro first same
  cases same
  rcases stop with rfl | rfl | rfl <;> decide

private theorem skipBlanks_stop {c : Char} (stop : IsStop c) (rest : List Char) :
    skipBlanks (c :: rest) = c :: rest := by
  rcases stop with rfl | rfl | rfl <;> rfl

section Items

variable {parts : List (List Char)} {values : List Value}

private theorem readItems_last {value : Value} (spells : Spells part value) (enough : 2 * part.length ≤ fuel) :
    readItems (fuel + 1) (part ++ ']' :: rest) = .ok ([value], rest) := by
  have read := spells.reads enough (endsNumber_stop (.inr (.inl rfl)) rest)
  rw [readItems, read]
  rfl

private theorem readItems_next {value : Value} (spells : Spells part value) (enough : 2 * part.length ≤ fuel)
    (opens : skipBlanks letters = letters) (others : readItems fuel letters = .ok (values, rest)) :
    readItems (fuel + 1) (part ++ ',' :: letters) = .ok (value :: values, rest) := by
  have read := spells.reads enough (endsNumber_stop (.inl rfl) letters)
  rw [readItems, read]
  simp [bind, Except.bind, pure, Except.pure, skipBlanks_stop (.inl rfl), opens, others]

/-- Items are read one after the other, up to the closing bracket. -/
theorem readItems_separated (beside : List.Forall₂ Spells parts values) (some : parts ≠ [])
    (enough : 2 * (commaSeparated parts).length < fuel) :
    readItems fuel (commaSeparated parts ++ ']' :: rest) = .ok (values, rest) := by
  -- Every item takes up one step, and its letters with the comma after them pay for it.
  induction beside generalizing fuel with
  | nil => exact absurd rfl some
  | @cons part value parts values spells beside ih =>
    obtain ⟨fewer, rfl⟩ := Nat.exists_eq_add_of_lt (Nat.zero_lt_of_lt enough)
    rw [Nat.zero_add] at enough ⊢
    cases beside with
    | nil =>
      rw [commaSeparated] at enough ⊢
      exact readItems_last spells (by omega)
    | @cons next _ parts _ another _ =>
      rw [commaSeparated, List.length_append, List.length_cons] at enough
      rw [commaSeparated, List.append_assoc, List.cons_append]
      · apply readItems_next spells (by omega)
        · rw [commaSeparated_cons, List.append_assoc]
          exact another.opens.skipBlanks _
        · exact ih (List.cons_ne_nil _ _) (by omega)
      all_goals simp

end Items

section Members

variable {members : List (String × List Char)} {done entries : List (String × Value)}

def underTexts (entries : List (String × Value)) : Fields := entries.map fun entry => (.text entry.1, entry.2)

private theorem underTexts_map {γ : Type} (name : γ → String) (value : γ → Value) (items : List γ) :
    underTexts (items.map fun item => (name item, value item)) = items.map fun item => (.text (name item), value item) :=
  List.map_map

private theorem put_underTexts {name : String} {value : Value} (fresh : name ∉ done.map (·.1)) :
    (underTexts done).put (.text name) value = underTexts (done ++ [(name, value)]) := by
  induction done with
  | nil => rfl
  | cons entry rest ih =>
    obtain ⟨other, fresh⟩ := not_or.mp (mt List.mem_cons.mpr fresh)
    have apart : (Value.text entry.1).same (.text name) = false :=
      beq_eq_false_iff_ne.mpr fun same => other (Wording.whole.inj same).symm
    calc (underTexts (entry :: rest)).put (.text name) value
      _ = (.text entry.1, entry.2) :: (underTexts rest).put (.text name) value := by
        rw [underTexts, List.map_cons, Entries.put, apart]
        rfl
      _ = underTexts (entry :: rest ++ [(name, value)]) := by
        rw [ih fresh]
        rfl

def memberText (member : String × List Char) : List Char := textLetters member.1 ++ ':' :: member.2

private theorem object_eq (members : List (String × List Char)) :
    object members = '{' :: commaSeparated (members.map memberText) ++ ['}'] := rfl

def SpellsEntry (member : String × List Char) (entry : String × Value) : Prop :=
  member.1 = entry.1 ∧ Spells member.2 entry.2

private theorem memberText_opens (member : String × List Char) : Opens (memberText member) :=
  ⟨'"', _, rfl, rfl, by decide⟩

private theorem memberText_append (member : String × List Char) (rest : List Char) : memberText member ++ rest =
    '"' :: (member.1.toList.flatMap escape ++ '"' :: ':' :: (member.2 ++ rest)) := by
  simp [memberText, textLetters]

variable {member : String × List Char} {entry : String × Value}

/-- The name and the value of a member are read back. -/
theorem reads_member (spells : SpellsEntry member entry) (enough : 2 * (memberText member).length ≤ fuel)
    {after : List Char} (ends : EndsNumber after) :
    (∀ start, readText start (fuel + 1) [] (member.1.toList.flatMap escape ++ '"' :: ':' :: (member.2 ++ after)) =
        .ok (entry.1, ':' :: (member.2 ++ after))) ∧
      readValue fuel (skipBlanks (member.2 ++ after)) = .ok (entry.2, after) := by
  obtain ⟨named, spells⟩ := spells
  rw [memberText, List.length_append, List.length_cons] at enough
  refine ⟨fun start => ?_, ?_⟩
  · rw [readText_text member.1 (by omega), named]
  · rw [spells.opens.skipBlanks]
    exact spells.reads (by omega) ends

private theorem readMembers_last (spells : SpellsEntry member entry) (fresh : entry.1 ∉ done.map (·.1))
    (enough : 2 * (memberText member).length ≤ fuel) :
    readMembers (fuel + 1) (underTexts done) (memberText member ++ '}' :: rest) =
      .ok (underTexts (done ++ [entry]), rest) := by
  have stop : IsStop '}' := .inr (.inr rfl)
  have colon (after : List Char) : skipBlanks (':' :: after) = ':' :: after := rfl
  rw [memberText_append]
  obtain ⟨name, value⟩ := reads_member spells enough (endsNumber_stop stop rest)
  simp only [readMembers, name, value, colon, bind, Except.bind, pure, Except.pure, skipBlanks_stop stop,
    put_underTexts fresh]

private theorem readMembers_next (spells : SpellsEntry member entry) (fresh : entry.1 ∉ done.map (·.1))
    (enough : 2 * (memberText member).length ≤ fuel) (opens : skipBlanks letters = letters) :
    readMembers (fuel + 1) (underTexts done) (memberText member ++ ',' :: letters) =
      readMembers fuel (underTexts (done ++ [entry])) letters := by
  have stop : IsStop ',' := .inl rfl
  have colon (after : List Char) : skipBlanks (':' :: after) = ':' :: after := rfl
  rw [memberText_append]
  obtain ⟨name, value⟩ := reads_member spells enough (endsNumber_stop stop letters)
  simp only [readMembers, name, value, colon, bind, Except.bind, skipBlanks_stop stop, put_underTexts fresh, opens]

/-- Members are read one after the other, up to the closing brace. -/
theorem readMembers_separated (beside : List.Forall₂ SpellsEntry members entries) (some : members ≠ [])
    (once : ((done ++ entries).map (·.1)).Nodup) (enough : 2 * (commaSeparated (members.map memberText)).length < fuel) :
    readMembers fuel (underTexts done) (commaSeparated (members.map memberText) ++ '}' :: rest) =
      .ok (underTexts (done ++ entries), rest) := by
  induction beside generalizing fuel done with
  | nil => exact absurd rfl some
  | @cons member entry members entries spells beside ih =>
    obtain ⟨fewer, rfl⟩ := Nat.exists_eq_add_of_lt (Nat.zero_lt_of_lt enough)
    rw [Nat.zero_add] at enough ⊢
    have fresh : entry.1 ∉ done.map (·.1) := by
      rw [List.map_append, List.nodup_append] at once
      intro listed
      exact once.2.2 _ listed _ List.mem_cons_self rfl
    cases beside with
    | nil =>
      rw [List.map_singleton, commaSeparated] at enough ⊢
      exact readMembers_last spells fresh (by omega)
    | @cons next other members entries _ _ =>
      rw [List.map_cons, List.map_cons, commaSeparated, List.length_append, List.length_cons] at enough
      rw [List.map_cons, List.map_cons, commaSeparated, List.append_assoc, List.cons_append]
      · have fits : 2 * (commaSeparated ((next :: members).map memberText)).length < fewer := by
          rw [List.map_cons]
          omega
        rw [readMembers_next spells fresh (by omega)]
        · rw [List.append_cons done entry (other :: entries)] at once ⊢
          exact ih (List.cons_ne_nil _ _) once fits
        · rw [commaSeparated_cons, List.append_assoc]
          exact (memberText_opens next).skipBlanks _
      all_goals simp

end Members

section Kinds

private theorem not_mem_commaSeparated {c : Char} (other : c ≠ ',') {parts : List (List Char)}
    (free : ∀ part ∈ parts, c ∉ part) : c ∉ commaSeparated parts := by
  cases parts with
  | nil => exact List.not_mem_nil
  | cons part parts =>
    obtain ⟨first, free⟩ := List.forall_mem_cons.mp free
    rw [commaSeparated_cons, List.mem_append, List.mem_flatMap, not_or, not_exists]
    refine ⟨first, ?_⟩
    rintro part ⟨listed, inside⟩
    rcases List.mem_cons.mp inside with same | inside
    · exact other same
    · exact free part listed inside

private theorem readValue_items (opens : Opens letters) {values : List Value}
    (read : readItems fuel letters = .ok (values, rest)) :
    readValue (fuel + 1) ('[' :: letters) = .ok (.list values, rest) := by
  obtain ⟨c, more, rfl, visible, other⟩ := opens
  have start : skipBlanks (c :: more) = c :: more := by simp [skipBlanks, visible]
  simp only [readValue, start]
  split
  next same => exact absurd ((List.cons.inj same).1 ▸ List.mem_cons_self) other
  next => rw [read]; rfl

private theorem readValue_members (quoted : ∃ more, letters = '"' :: more) {fields : Fields}
    (read : readMembers fuel [] letters = .ok (fields, rest)) :
    readValue (fuel + 1) ('{' :: letters) = .ok (.map fields, rest) := by
  obtain ⟨more, rfl⟩ := quoted
  have start : skipBlanks ('"' :: more) = '"' :: more := rfl
  simp only [readValue, start]
  split
  next same => exact absurd (List.cons.inj same).1 (by decide)
  next => rw [read]; rfl

theorem spells_array {parts : List (List Char)} {values : List Value} (beside : List.Forall₂ Spells parts values) :
    Spells (array parts) (.list values) := by
  refine ⟨⟨'[', _, rfl, rfl, by decide⟩, ?_, ?_⟩
  · have free : '\r' ∉ commaSeparated parts := by
      apply not_mem_commaSeparated (by decide)
      intro part listed
      obtain ⟨_, _, spells⟩ := exists_of_forall₂_left beside listed
      exact spells.oneLine
    simp [array, free]
  · intro fuel rest enough ends
    rw [array, List.length_append, List.length_cons] at enough
    obtain ⟨fewer, rfl⟩ := Nat.exists_eq_add_of_lt (Nat.zero_lt_of_lt enough)
    rw [Nat.zero_add, array, List.append_assoc, List.cons_append, List.singleton_append]
    cases beside with
    | nil => rfl
    | cons spells beside =>
      apply readValue_items
      · obtain ⟨c, more, rfl, visible, other⟩ := spells.opens
        rw [commaSeparated_cons]
        exact ⟨c, _, rfl, visible, other⟩
      · exact readItems_separated (.cons spells beside) (List.cons_ne_nil _ _) (by omega)

theorem spells_object {members : List (String × List Char)} {entries : List (String × Value)}
    (beside : List.Forall₂ SpellsEntry members entries) (once : (entries.map (·.1)).Nodup) :
    Spells (object members) (.map (underTexts entries)) := by
  refine ⟨⟨'{', _, rfl, rfl, by decide⟩, ?_, ?_⟩
  · have free : '\r' ∉ commaSeparated (members.map memberText) := by
      apply not_mem_commaSeparated (by decide)
      intro part listed
      obtain ⟨member, inside, rfl⟩ := List.mem_map.mp listed
      obtain ⟨_, _, _, spells⟩ := exists_of_forall₂_left beside inside
      simp [memberText, not_mem_textLetters, spells.oneLine]
    simp [object_eq, free]
  · intro fuel rest enough ends
    rw [object_eq, List.length_append, List.length_cons] at enough
    obtain ⟨fewer, rfl⟩ := Nat.exists_eq_add_of_lt (Nat.zero_lt_of_lt enough)
    rw [Nat.zero_add, object_eq, List.append_assoc, List.cons_append, List.singleton_append]
    cases beside with
    | nil => rfl
    | cons spells beside =>
      apply readValue_members
      · rw [List.map_cons, commaSeparated_cons]
        exact ⟨_, rfl⟩
      · change readMembers fewer (underTexts []) _ = .ok (underTexts ([] ++ _ :: _), rest)
        exact readMembers_separated (.cons spells beside) (List.cons_ne_nil _ _) once (by omega)

private theorem spells_text (content : String) : Spells (textLetters content) (.text content) := by
  refine ⟨⟨'"', _, rfl, rfl, by decide⟩, not_mem_textLetters content, ?_⟩
  intro fuel rest enough ends
  have shape : textLetters content ++ rest = '"' :: (content.toList.flatMap escape ++ '"' :: rest) := by
    simp [textLetters]
  have some : 0 < (textLetters content).length := by simp [textLetters]
  obtain ⟨fewer, rfl⟩ := Nat.exists_eq_add_of_lt (show 0 < fuel by omega)
  rw [shape, readValue, readText_text content (by omega)]
  rfl

/-- Letters that are neither quoted nor in brackets are read as a word or a number. -/
theorem spells_scalar {value : Value} {c : Char} {more : List Char} (plain : c ∉ ['"', '[', '{'])
    (opens : IsOpening c) (oneLine : '\r' ∉ c :: more)
    (reads : ∀ {rest : List Char}, EndsNumber rest → readScalar (c :: more ++ rest) = .ok (value, rest)) :
    Spells (c :: more) value := by
  refine ⟨⟨c, more, rfl, opens⟩, oneLine, ?_⟩
  intro fuel rest enough ends
  obtain ⟨fewer, rfl⟩ := Nat.exists_eq_add_of_lt (Nat.zero_lt_of_lt enough)
  simp only [List.mem_cons, List.not_mem_nil, or_false, not_or] at plain
  rw [Nat.zero_add, List.cons_append, readValue]
  · exact reads ends
  all_goals simp [plain]

private theorem spells_word {word : String} {value : Value} {c : Char} {more : List Char}
    (letters : word.toList = c :: more)
    (plain : c ∉ ['"', '[', '{']) (opens : IsOpening c) (oneLine : '\r' ∉ c :: more)
    (found : ∀ rest, word? (c :: more ++ rest) = some (value, rest)) : Spells word.toList value := by
  rw [letters]
  apply spells_scalar plain opens oneLine
  intro rest _
  simp only [readScalar, found]

private theorem spells_null : Spells "null".toList .null :=
  spells_word rfl (by decide) ⟨rfl, by decide⟩ (by decide) fun _ => rfl

private theorem spells_bool (truth : Bool) : Spells (if truth then "true" else "false").toList (.bool truth) := by
  cases truth
  · exact spells_word rfl (by decide) ⟨rfl, by decide⟩ (by decide) fun _ => rfl
  · exact spells_word rfl (by decide) ⟨rfl, by decide⟩ (by decide) fun _ => rfl

/-- Digits, signs, points and marks of exponents begin nothing but a number. -/
theorem spells_number {value : Value} (numerals : ∀ c ∈ part, IsNumeral c)
    (reads : ∀ {rest : List Char}, EndsNumber rest → readScalar (part ++ rest) = .ok (value, rest)) :
    Spells part value := by
  have apart (other : Char) (letter : other.isDigit = false ∧ other ∉ ['-', '+', '.', 'e']) {c : Char}
      (numeral : IsNumeral c) : c ≠ other := by
    rintro rfl
    rcases numeral with digit | mark
    · simp [letter.1] at digit
    · exact letter.2 mark
  cases part with
  | nil =>
    have read : readScalar ([] ++ []) = .ok (value, []) := reads (by simp [EndsNumber])
    cases read
  | cons c more =>
    have numeral := numerals c List.mem_cons_self
    apply spells_scalar
    · simp [apart '"' (by decide) numeral, apart '[' (by decide) numeral, apart '{' (by decide) numeral]
    · constructor
      · simp [isBlank, apart ' ' (by decide) numeral, apart '\t' (by decide) numeral, apart '\n' (by decide) numeral,
          apart '\r' (by decide) numeral]
      · simp [apart ']' (by decide) numeral, apart '\uFEFF' (by decide) numeral]
    · intro inside
      exact apart '\r' (by decide) (numerals _ inside) rfl
    · exact reads

private theorem spells_int {number : Int} (spelled : intLetters number = .ok letters) :
    Spells letters (.int number) := by
  have bounds : number.natAbs < 10 ^ Text.digitLimit := by
    unfold intLetters at spelled
    split at spelled
    next exact =>
      have power : largestExact = 9007199254740991 := rfl
      have small : number.natAbs < 10 ^ 16 := by omega
      exact small.trans_le (Nat.pow_le_pow_right (by decide) (by decide))
    next => split at spelled <;> cases spelled
  cases intLetters_eq_ok spelled
  refine spells_number (fun c member => ?_) (readScalar_int bounds)
  rcases letter_of_int member with rfl | digit
  · exact .inr (by decide)
  · exact .inl digit

private theorem spells_double {d : Double} (finite : d.isFinite = true) :
    Spells (Layout.canonical.letters d) d.written :=
  spells_number (numeral_of_double finite) (readScalar_double finite)

end Kinds

private theorem endsNumber_blank {blanks : List Char} (blank : ∀ c ∈ blanks, isBlank c = true) : EndsNumber blanks := by
  intro c first
  have listed := blank c (List.mem_of_mem_head? first)
  simp only [isBlank, Bool.or_eq_true, beq_iff_eq] at listed
  rcases listed with ((rfl | rfl) | rfl) | rfl <;> decide

private theorem skipBlanks_blank {blanks : List Char} (blank : ∀ c ∈ blanks, isBlank c = true) :
    skipBlanks blanks = [] :=
  List.dropWhile_eq_nil_iff.mpr blank

/-- A document holds one value, and blanks around it. -/
theorem Spells.read {value : Value} {content blanks : String} (spells : Spells content.toList value)
    (blank : ∀ c ∈ blanks.toList, isBlank c = true) : Json.read (content ++ blanks) = .ok value := by
  have unmarked : ((content.toList ++ blanks.toList).head? == some '\uFEFF') = false := by
    obtain ⟨c, more, same, _, other⟩ := spells.opens
    simp only [List.mem_cons, List.not_mem_nil, or_false, not_or] at other
    simp [same, other]
  have start := spells.opens.skipBlanks blanks.toList
  have read : readValue (2 * (content.toList ++ blanks.toList).length + 2) (content.toList ++ blanks.toList) =
      .ok (value, blanks.toList) :=
    spells.reads (by rw [List.length_append]; omega) (endsNumber_blank blank)
  have whole : readDocument (content.toList ++ blanks.toList) = .ok value := by
    simp only [readDocument, unmarked, start, read, bind, Except.bind, skipBlanks_blank blank]
    rfl
  rw [Json.read, String.toList_append, whole]

end Parts
end Json

namespace Value

open Canonical

/-- Whether the canonical letters of a value are read as what is written of it. -/
def Legible (value : Value) : Prop :=
  ∀ {letters : List Char}, value.letters = .ok letters → Json.Spells letters value.written

variable {letters : List Char}

private theorem spells_list {items : List Value} (each : ∀ item ∈ items, item.Legible)
    (spelled : (list items).letters = .ok letters) : Json.Spells letters (list (items.map written)) := by
  obtain ⟨parts, beside, rfl⟩ := exists_parts spelled
  apply Json.spells_array
  rw [List.forall₂_map_right_iff]
  apply ((List.forall₂_and_left _ _).mpr ⟨fun item listed => listed, beside⟩).flip.imp
  rintro part item ⟨listed, spelled⟩
  exact each item listed spelled

private theorem spells_map {entries : List (Value × Value)} (once : (entries.map (·.1.plain)).Nodup)
    (each : ∀ entry ∈ entries, entry.2.Legible) (spelled : (map entries).letters = .ok letters) :
    Json.Spells letters (map entries).written := by
  obtain ⟨members, beside, rfl⟩ := exists_members once spelled
  have whole : ∀ entry ∈ arranged entries, entry.1.plain.isWhole = true := by
    intro entry member
    obtain ⟨_, _, named, _⟩ := exists_of_forall₂_left beside member
    rw [named]
    rfl
  have arrangedOnce :
      (((arranged entries).map fun entry => (entry.1.plain.displayed, entry.2.written)).map (·.1)).Nodup := by
    rw [List.map_map]
    exact nodup_displayed (((arranged_perm entries).map _).nodup_iff.mpr once) whole
  have keys : ((arranged entries).map fun entry => (text entry.1.plain, entry.2.written)) =
      Json.underTexts ((arranged entries).map fun entry => (entry.1.plain.displayed, entry.2.written)) := by
    rw [Json.underTexts_map]
    exact List.map_congr_left fun entry member => congrArg (text · , _) (displayed_of_isWhole (whole entry member))
  rw [written_map, keys]
  apply Json.spells_object _ arrangedOnce
  rw [List.forall₂_map_right_iff]
  apply ((List.forall₂_and_left _ _).mpr ⟨fun entry listed => listed, beside⟩).flip.imp
  rintro member entry ⟨listed, named, spelled⟩
  exact ⟨congrArg Wording.displayed named.symm, each entry ((arranged_perm entries).subset listed) spelled⟩

/-- A value without faults is legible if no two keys of a mapping in it have one text. -/
theorem TextsApart.legible {value : Value} (apart : value.TextsApart) (faultless : value.fault? = none) :
    value.Legible := by
  intro letters spelled
  induction value using by_parts generalizing letters with
  | step value ih =>
    obtain ⟨once, parts⟩ := apart
    have each (part : Value) (isPart : part ∈ value.parts) : part.Legible := fun spelled =>
      ih part isPart (parts part isPart) (fault?_of_part faultless isPart) spelled
    cases value with
    | null =>
      cases spelled
      exact Json.spells_null
    | bool truth =>
      cases spelled
      exact Json.spells_bool truth
    | int number => exact Json.spells_int spelled
    | double number =>
      cases spelled
      have finite : number.isFinite = true := by simpa [fault?] using faultless
      exact Json.spells_double finite
    | text content =>
      cases content with
      | broken => cases spelled
      | whole content =>
        cases spelled
        exact Json.spells_text content
    | list items =>
      rw [written_list]
      exact spells_list each spelled
    | tuple items =>
      rw [written_tuple]
      exact spells_list each (letters_tuple items ▸ spelled)
    | map entries => exact spells_map once (fun entry listed => each entry.2 (List.mem_map_of_mem listed)) spelled
    | bytes | date | moment | set | again => cases spelled

/-- Canonical text is read as what is written of a value. -/
theorem spells_canonical {value : Value} {canonical : String} (found : value.canonical = .ok canonical) :
    Json.Spells canonical.toList value.settled.written := by
  obtain ⟨faultless, spelled⟩ := canonical_eq_ok_iff.mp found
  exact (textsApart_settled value).legible (fault?_settled faultless) ((letters_settled value).trans spelled)

end Value
end BoxTree
