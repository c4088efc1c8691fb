import BoxTree.Canonical.Text
import BoxTree.Markup.Json.Reader
import Mathlib

/-! Canonical letters can be told apart from what follows them: texts end at their closing quote, numbers at the
first letter that ends a value, and lists of parts at their closing bracket. -/

namespace BoxTree.Canonical

section Texts

/-- The letter that comes first in the escaped letters of a text, and those after it. None comes before the
closing quote. -/
def firstLetter? : List Char → Option (Char × List Char)
  | [] => none
  | c :: rest =>
    if c = '"' then none
    else if c ≠ '\\' then some (c, rest)
    else
      match rest with
      | 'u' :: d₁ :: d₂ :: d₃ :: d₄ :: rest =>
        (Text.number? 16 [d₁, d₂, d₃, d₄]).map fun code => (Char.ofNat code, rest)
      | c :: rest => (Json.simpleEscape? c).map (·, rest)
      | [] => none

theorem number?_hexDigits {code : Nat} (control : code < 0x20) :
    Text.number? 16 (Text.hexDigits 4 code) = some code := by
  have every : ∀ code : Fin 0x20, Text.number? 16 (Text.hexDigits 4 code) = some code.val := by decide
  exact every ⟨code, control⟩

/-- The ways in which a letter of a text is written: with a letter that names it, with its code, or as itself. -/
inductive Escaped (c : Char) : List Char → Prop where
  | named {name : Char} (names : Json.simpleEscape? name = some c) : Escaped c ['\\', name]
  | code (control : c.toNat < 0x20) : Escaped c ('\\' :: 'u' :: Text.hexDigits 4 c.toNat)
  | plain (quote : c ≠ '"') (slash : c ≠ '\\') (visible : ¬ c.toNat < 0x20) : Escaped c [c]

theorem escaped_escape (c : Char) : Escaped c (escape c) := by
  by_cases special : c ∈ ['"', '\\', '\x08', '\t', '\n', '\x0c', '\r']
  · simp only [List.mem_cons, List.not_mem_nil, or_false] at special
    rcases special with rfl | rfl | rfl | rfl | rfl | rfl | rfl <;> exact .named rfl
  · simp only [List.mem_cons, List.not_mem_nil, or_false, not_or] at special
    by_cases control : c.toNat < 0x20
    · simpa [escape, special, control] using Escaped.code control
    · simpa [escape, special, control] using Escaped.plain special.1 special.2.1 control

private theorem Escaped.firstLetter?_eq {c : Char} {letters : List Char} (escaped : Escaped c letters)
    (rest : List Char) :
    firstLetter? (letters ++ rest) = some (c, rest) := by
  cases escaped with
  | @named name names =>
    have other : name ≠ 'u' := fun same => by subst same; cases names
    simp [firstLetter?, names, other]
  | code control =>
    change (Text.number? 16 (Text.hexDigits 4 c.toNat)).map (fun code => (Char.ofNat code, rest)) = some (c, rest)
    rw [number?_hexDigits control, Option.map_some, Char.ofNat_toNat]
  | plain quote slash visible => simp [firstLetter?, quote, slash]

theorem Escaped.ne_nil {c : Char} {letters : List Char} (escaped : Escaped c letters) : letters ≠ [] := by
  cases escaped <;> simp

private theorem Escaped.oneLine {c : Char} {letters : List Char} (escaped : Escaped c letters) : '\r' ∉ letters := by
  have digits : ∀ code : Fin 0x20, '\r' ∉ Text.hexDigits 4 code := by decide
  cases escaped with
  | named names =>
    simp only [List.mem_cons, Char.reduceEq, List.not_mem_nil, or_false, false_or]
    rintro rfl
    cases names
  | code control => simp [digits ⟨c.toNat, control⟩]
  | plain quote slash visible =>
    rw [List.mem_singleton]
    rintro rfl
    exact visible (by decide)

theorem not_mem_textLetters (content : String) : '\r' ∉ textLetters content := by
  simp [textLetters, (escaped_escape _).oneLine]

theorem textLetters_unambiguous {left right : String} {rest others : List Char}
    (same : textLetters left ++ rest = textLetters right ++ others) : left = right ∧ rest = others := by
  have escaped (letters more : List Char)
      (same : letters.flatMap escape ++ '"' :: rest = more.flatMap escape ++ '"' :: others) :
      letters = more ∧ rest = others := by
    induction letters generalizing more with
    | nil =>
      cases more with
      | nil => simpa using same
      | cons c more =>
        have first := congrArg firstLetter? same
        rw [List.flatMap_cons, List.append_assoc, (escaped_escape _).firstLetter?_eq] at first
        cases first
    | cons c letters ih =>
      have first := congrArg firstLetter? same
      rw [List.flatMap_cons, List.append_assoc, (escaped_escape _).firstLetter?_eq] at first
      cases more with
      | nil => cases first
      | cons d more =>
        rw [List.flatMap_cons, List.append_assoc, (escaped_escape _).firstLetter?_eq] at first
        obtain ⟨rfl, later⟩ := Prod.mk.inj (Option.some.inj first)
        obtain ⟨rfl, after⟩ := ih more later
        exact ⟨rfl, after⟩
  simp only [textLetters, List.cons_append, List.append_assoc, List.cons.injEq, true_and] at same
  obtain ⟨letters, after⟩ := escaped left.toList right.toList same
  exact ⟨String.toList_injective letters, after⟩

end Texts

def IsStop (c : Char) : Prop := c = ',' ∨ c = ']' ∨ c = '}'

def Stops (letters : List Char) : Prop := ∀ c ∈ letters.head?, IsStop c

theorem stops_nil : Stops [] := nofun

private theorem stops_cons {c : Char} (stop : IsStop c) (rest : List Char) : Stops (c :: rest) := by
  intro first same
  cases same
  exact stop

section Numbers

private theorem eq_of_stops {left right rest others : List Char} (leftFree : ∀ c ∈ left, ¬ IsStop c)
    (rightFree : ∀ c ∈ right, ¬ IsStop c) (stops : Stops rest) (otherStops : Stops others)
    (same : left ++ rest = right ++ others) : left = right ∧ rest = others := by
  induction left generalizing right with
  | nil =>
    cases right with
    | nil => exact ⟨rfl, same⟩
    | cons c right =>
      subst same
      exact False.elim (rightFree c List.mem_cons_self (stops c rfl))
  | cons c left ih =>
    cases right with
    | nil =>
      subst same
      exact False.elim (leftFree c List.mem_cons_self (otherStops c rfl))
    | cons d right =>
      obtain ⟨rfl, later⟩ := List.cons.inj same
      obtain ⟨rfl, after⟩ := ih (fun c member => leftFree c (List.mem_cons_of_mem _ member))
        (fun c member => rightFree c (List.mem_cons_of_mem _ member)) later
      exact ⟨rfl, after⟩

/-- A number is spelled with a sign and digits. -/
theorem letter_of_int {number : Int} {c : Char} (member : c ∈ (toString number).toList) :
    c = '-' ∨ c.isDigit = true := by
  cases number with
  | ofNat value =>
    have digits : c ∈ Nat.toDigits 10 value := by simpa [ToString.toString, Int.repr, Nat.repr] using member
    exact .inr (Nat.isDigit_of_mem_toDigits (by decide) (by decide) digits)
  | negSucc value =>
    have letters : c = '-' ∨ c ∈ Nat.toDigits 10 (value + 1) := by
      simpa [ToString.toString, Int.repr, Nat.repr] using member
    exact letters.imp_right (Nat.isDigit_of_mem_toDigits (by decide) (by decide))

theorem int_ne_nil {number : Int} : (toString number).toList ≠ [] := by
  cases number with
  | ofNat value => simp [ToString.toString, Int.repr, Nat.repr, Nat.toDigits_ne_nil]
  | negSucc value => simp [ToString.toString, Int.repr]

private theorem not_isStop_of_int {number : Int} {c : Char} (member : c ∈ (toString number).toList) : ¬ IsStop c := by
  rcases letter_of_int member with rfl | digit
  · simp [IsStop]
  · rintro (rfl | rfl | rfl) <;> cases digit

theorem intLetters_eq_ok {number : Int} {letters : List Char} (spelled : intLetters number = .ok letters) :
    letters = (toString number).toList := by
  unfold intLetters at spelled
  split at spelled
  · cases spelled
    rfl
  · split at spelled <;> cases spelled

theorem int_unambiguous {left right : Int} {rest others : List Char} (stops : Stops rest) (otherStops : Stops others)
    (same : (toString left).toList ++ rest = (toString right).toList ++ others) : left = right ∧ rest = others := by
  obtain ⟨letters, after⟩ := eq_of_stops (fun _ => not_isStop_of_int) (fun _ => not_isStop_of_int) stops otherStops same
  exact ⟨Int.repr_inj.mp (String.toList_injective letters), after⟩

end Numbers

section Parts

variable {γ : Type} {spells : γ → List Char → Prop} {alike : γ → γ → Prop}

/-- The letters of an item tell it from any other item that has letters, whatever ends them. -/
def Tells (spells : γ → List Char → Prop) (alike : γ → γ → Prop) (item : γ) : Prop :=
  ∀ {other : γ} {left right rest others : List Char}, spells item left → spells other right → Stops rest →
    Stops others → left ++ rest = right ++ others → alike item other ∧ rest = others

theorem commaSeparated_cons (part : List Char) (parts : List (List Char)) :
    commaSeparated (part :: parts) = part ++ parts.flatMap (',' :: ·) := by
  induction parts generalizing part with
  | nil => simp [commaSeparated]
  | cons next parts ih => simp [commaSeparated, ih]

variable {close : Char} {items others : List γ} {parts letters : List (List Char)} {rest after : List Char}

private theorem stops_later (stop : IsStop close) (parts : List (List Char)) (rest : List Char) :
    Stops (parts.flatMap (',' :: ·) ++ close :: rest) := by
  cases parts with
  | nil => exact stops_cons stop rest
  | cons part parts => exact stops_cons (.inl rfl) _

private theorem later_unambiguous (stop : IsStop close) (inner : close ≠ ',') (left : List.Forall₂ spells items parts)
    (right : List.Forall₂ spells others letters) (tells : ∀ item ∈ items, Tells spells alike item)
    (same : parts.flatMap (',' :: ·) ++ close :: rest = letters.flatMap (',' :: ·) ++ close :: after) :
    List.Forall₂ alike items others ∧ rest = after := by
  induction left generalizing others letters with
  | nil =>
    cases right with
    | nil => exact ⟨.nil, (List.cons.inj same).2⟩
    | cons => exact False.elim (inner (List.cons.inj same).1)
  | cons first _ ih =>
    cases right with
    | nil => exact False.elim (inner (List.cons.inj same).1.symm)
    | cons second right =>
      obtain ⟨told, tells⟩ := List.forall_mem_cons.mp tells
      simp only [List.flatMap_cons, List.cons_append, List.append_assoc, List.cons.injEq, true_and] at same
      obtain ⟨one, same⟩ := told first second (stops_later stop _ _) (stops_later stop _ _) same
      obtain ⟨more, after⟩ := ih right tells same
      exact ⟨.cons one more, after⟩

theorem separated_unambiguous (stop : IsStop close) (inner : close ≠ ',')
    (opens : ∀ item part, spells item part → ∃ first rest, part = first :: rest ∧ first ≠ close)
    (left : List.Forall₂ spells items parts) (right : List.Forall₂ spells others letters)
    (tells : ∀ item ∈ items, Tells spells alike item)
    (same : commaSeparated parts ++ close :: rest = commaSeparated letters ++ close :: after) :
    List.Forall₂ alike items others ∧ rest = after := by
  cases left with
  | nil =>
    cases right with
    | nil => exact ⟨.nil, (List.cons.inj same).2⟩
    | cons second =>
      obtain ⟨first, rest, rfl, other⟩ := opens _ _ second
      rw [commaSeparated_cons] at same
      exact False.elim (other (List.cons.inj same).1.symm)
  | cons first left =>
    cases right with
    | nil =>
      obtain ⟨first, rest, rfl, other⟩ := opens _ _ first
      rw [commaSeparated_cons] at same
      exact False.elim (other (List.cons.inj same).1)
    | cons second right =>
      obtain ⟨told, tells⟩ := List.forall_mem_cons.mp tells
      rw [commaSeparated_cons, commaSeparated_cons, List.append_assoc, List.append_assoc] at same
      obtain ⟨one, same⟩ := told first second (stops_later stop _ _) (stops_later stop _ _) same
      obtain ⟨more, after⟩ := later_unambiguous stop inner left right tells same
      exact ⟨.cons one more, after⟩

end Parts
end BoxTree.Canonical
