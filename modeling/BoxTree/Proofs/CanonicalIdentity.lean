import BoxTree.Proofs.CanonicalLetters
import BoxTree.Proofs.Duplicates
import BoxTree.Tree.Codec

/-! Canonical text identifies a tree: values with one canonical text are equal up to the order of their entries,
and a tree can be told from its document. -/

namespace BoxTree

section Lists

variable {κ γ : Type}

private theorem eq_of_perm_of_keys {left right : List (κ × γ)} (order : left.Perm right)
    (keys : left.map (·.1) = right.map (·.1)) (once : (right.map (·.1)).Nodup) : left = right := by
  apply List.ext_getElem order.length_eq
  intro index below within
  have key : left[index].1 = right[index].1 := by
    have same : (left.map (·.1))[index]? = (right.map (·.1))[index]? := congrArg (·[index]?) keys
    simpa [below, within] using same
  exact List.inj_on_of_nodup_map once (order.subset (List.getElem_mem below)) (List.getElem_mem within) key

end Lists

namespace Canonical

variable {α : Type}

theorem named_eq_ok_iff {members : List (Wording × α)} {found : List (String × α)} : named members = .ok found ↔
    (∀ member ∈ members, member.1.isWhole = true) ∧ found = members.map fun member => (member.1.displayed, member.2) := by
  induction members generalizing found with
  | nil => exact ⟨fun same => ⟨nofun, (Except.ok.inj same).symm⟩, fun same => same.2 ▸ rfl⟩
  | cons member rest ih =>
    obtain ⟨key, part⟩ := member
    rw [List.forall_mem_cons]
    cases key with
    | broken => exact ⟨nofun, fun whole => nomatch whole.1.1⟩
    | whole key =>
      cases more : named rest with
      | error =>
        rw [named, more]
        exact ⟨nofun, fun whole => nomatch more.symm.trans (ih.mpr ⟨whole.1.2, rfl⟩)⟩
      | ok others =>
        obtain ⟨whole, rfl⟩ := ih.mp more
        rw [named, more]
        exact ⟨fun same => ⟨⟨rfl, whole⟩, (Except.ok.inj same).symm⟩, fun same => same.2 ▸ rfl⟩

private theorem forall₂_of_collect {members : List (String × Except CanonicalError α)} {found : List (String × α)}
    (collected : collect members = .ok found) :
    List.Forall₂ (fun member other => member.1 = other.1 ∧ member.2 = .ok other.2) members found := by
  induction members generalizing found with
  | nil =>
    cases collected
    exact .nil
  | cons member rest ih =>
    obtain ⟨key, part⟩ := member
    cases part with
    | error => cases collected
    | ok part =>
      cases more : collect rest with
      | error => rw [collect, more] at collected; cases collected
      | ok others =>
        rw [collect, more] at collected
        cases collected
        exact .cons ⟨rfl, rfl⟩ (ih more)

end Canonical

namespace Value

open Canonical

/-- Values made of nothing, truth, whole numbers, texts, lists and mappings from texts. -/
inductive Plain : Value → Prop where
  | null : Plain null
  | bool (truth : Bool) : Plain (bool truth)
  | int (number : Int) : Plain (int number)
  | text (content : Wording) : Plain (text content)
  | list {items : List Value} (plain : ∀ item ∈ items, Plain item) : Plain (list items)
  | map {entries : List (Value × Value)} (names : List Wording) (keys : entries.map (·.1) = names.map text)
      (once : names.Nodup) (plain : ∀ entry ∈ entries, Plain entry.2) : Plain (map entries)

/-- Equality up to the order of entries. -/
inductive Alike : Value → Value → Prop where
  | null : Alike null null
  | bool (truth : Bool) : Alike (bool truth) (bool truth)
  | int (number : Int) : Alike (int number) (int number)
  | text (content : Wording) : Alike (text content) (text content)
  | list {items others : List Value} (alike : List.Forall₂ Alike items others) : Alike (list items) (list others)
  | map {entries arranged others : List (Value × Value)} (order : arranged.Perm others)
      (keys : entries.map (·.1) = arranged.map (·.1))
      (alike : List.Forall₂ Alike (entries.map (·.2)) (arranged.map (·.2))) : Alike (map entries) (map others)

structure Spelled (value : Value) (letters : List Char) : Prop where
  plain : value.Plain
  spelled : value.letters = .ok letters

section Letters

private theorem forall₂_of_itemLetters {items : List Value} {parts : List (List Char)}
    (spelled : itemLetters items = .ok parts) :
    List.Forall₂ (fun item part => item.letters = .ok part) items parts := by
  induction items generalizing parts with
  | nil =>
    cases spelled
    exact .nil
  | cons item rest ih =>
    cases first : item.letters with
    | error => rw [itemLetters, first] at spelled; cases spelled
    | ok part =>
      cases more : itemLetters rest with
      | error => rw [itemLetters, first, more] at spelled; cases spelled
      | ok others =>
        rw [itemLetters, first, more] at spelled
        cases spelled
        exact .cons first (ih more)

theorem exists_parts {items : List Value} {letters : List Char} (spelled : (list items).letters = .ok letters) :
    ∃ parts, List.Forall₂ (fun item part => item.letters = .ok part) items parts ∧ letters = array parts := by
  cases found : itemLetters items with
  | error => rw [Value.letters, found] at spelled; cases spelled
  | ok parts =>
    rw [Value.letters, found] at spelled
    cases spelled
    exact ⟨parts, forall₂_of_itemLetters found, rfl⟩

theorem memberLetters_eq (entries : List (Value × Value)) :
    memberLetters entries = entries.map fun entry => (entry.1.plain, entry.2.letters) := by
  induction entries with
  | nil => rfl
  | cons entry rest ih => rw [memberLetters, ih, List.map_cons]

/-- The entries of a mapping in the order of its canonical text. -/
def arranged (entries : List (Value × Value)) : List (Value × Value) :=
  entries.mergeSort fun left right => Text.unitsLe left.1.plain.displayed right.1.plain.displayed

private theorem sortKeys_members (entries : List (Value × Value)) :
    sortKeys (entries.map fun entry => (entry.1.plain.displayed, entry.2.letters)) =
      (arranged entries).map fun entry => (entry.1.plain.displayed, entry.2.letters) := by
  rw [sortKeys, arranged]
  symm
  apply List.map_mergeSort
  intros
  rfl

theorem arranged_perm (entries : List (Value × Value)) : (arranged entries).Perm entries := List.mergeSort_perm _ _

theorem plain_of_texts {entries : List (Value × Value)} {names : List Wording}
    (keys : entries.map (·.1) = names.map text) : entries.map (·.1.plain) = names :=
  calc entries.map (·.1.plain)
    _ = (entries.map (·.1)).map Value.plain := by rw [List.map_map]; rfl
    _ = names := by rw [keys, List.map_map]; exact List.map_id _

theorem latest_memberLetters (entries : List (Value × Value)) :
    latest (·.1) (memberLetters entries) = memberLetters (latest (·.1.plain) entries) := by
  rw [memberLetters_eq, memberLetters_eq, latest_map]

theorem displayed_of_isWhole {content : Wording} (isWhole : content.isWhole = true) :
    content = .whole content.displayed := by
  cases content with
  | whole => rfl
  | broken => cases isWhole

/-- The letters of a mapping whose keys have different whole texts. -/
theorem letters_map {entries : List (Value × Value)} (once : (entries.map (·.1.plain)).Nodup)
    (whole : ∀ entry ∈ entries, entry.1.plain.isWhole = true) : (map entries).letters = do
      return object (← collect (sortKeys (entries.map fun entry => (entry.1.plain.displayed, entry.2.letters)))) := by
  have called : named (entries.map fun entry => (entry.1.plain, entry.2.letters)) =
      .ok (entries.map fun entry => (entry.1.plain.displayed, entry.2.letters)) :=
    named_eq_ok_iff.mpr ⟨List.forall_mem_map.mpr whole, by rw [List.map_map]; rfl⟩
  rw [Value.letters, latest_memberLetters, (latest_eq_self_iff _).mpr once, memberLetters_eq, called]
  rfl

/-- The members of a mapping whose keys have different texts. -/
theorem exists_members {entries : List (Value × Value)} (once : (entries.map (·.1.plain)).Nodup) {letters : List Char}
    (spelled : (map entries).letters = .ok letters) :
    ∃ members, List.Forall₂ (fun entry member => entry.1.plain = .whole member.1 ∧ entry.2.letters = .ok member.2)
      (arranged entries) members ∧ letters = object members := by
  have whole : ∀ entry ∈ entries, entry.1.plain.isWhole = true := by
    rw [Value.letters, latest_memberLetters, (latest_eq_self_iff _).mpr once, memberLetters_eq] at spelled
    cases called : named (entries.map fun entry => (entry.1.plain, entry.2.letters)) with
    | error => rw [called] at spelled; cases spelled
    | ok found => exact List.forall_mem_map.mp (named_eq_ok_iff.mp called).1
  rw [letters_map once whole, sortKeys_members] at spelled
  cases collected : collect ((arranged entries).map fun entry => (entry.1.plain.displayed, entry.2.letters)) with
  | error => rw [collected] at spelled; cases spelled
  | ok members =>
    rw [collected] at spelled
    cases spelled
    have beside := List.forall₂_map_left_iff.mp (forall₂_of_collect collected)
    have wholeArranged : ∀ entry ∈ arranged entries, entry.1.plain.isWhole = true := fun entry member =>
      whole entry ((arranged_perm entries).subset member)
    refine ⟨members, ?_, rfl⟩
    apply ((List.forall₂_and_left _ _).mpr ⟨wholeArranged, beside⟩).imp
    rintro entry member ⟨isWhole, key, part⟩
    exact ⟨key ▸ displayed_of_isWhole isWhole, part⟩

end Letters

section Kinds

def beginning? (c : Char) : Option String :=
  if c = 'n' then some null.kindName
  else if c = 't' ∨ c = 'f' then some (bool true).kindName
  else if c = '-' ∨ c.isDigit = true then some (int 0).kindName
  else if c = '"' then some (text "").kindName
  else if c = '[' then some (list []).kindName
  else if c = '{' then some (map []).kindName
  else none

private theorem beginning?_of_isDigit {c : Char} (digit : c = '-' ∨ c.isDigit = true) :
    beginning? c = some (int 0).kindName := by
  have apart (other : Char) (letter : (other == '-' || other.isDigit) = false) : c ≠ other := by
    rintro rfl
    simp_all
  simp [beginning?, digit, apart 'n' (by decide), apart 't' (by decide), apart 'f' (by decide)]

variable {value other : Value} {letters left right rest after : List Char}

private theorem Spelled.begins (spelled : value.Spelled letters) :
    ∃ first rest, letters = first :: rest ∧ beginning? first = some value.kindName := by
  obtain ⟨plain, spelled⟩ := spelled
  cases plain with
  | null =>
    cases spelled
    exact ⟨_, _, rfl, rfl⟩
  | bool truth =>
    cases spelled
    cases truth <;> exact ⟨_, _, rfl, rfl⟩
  | int number =>
    cases intLetters_eq_ok spelled
    cases digits : (toString number).toList with
    | nil => exact False.elim (int_ne_nil digits)
    | cons first rest =>
      exact ⟨first, rest, rfl, beginning?_of_isDigit (letter_of_int (digits ▸ List.mem_cons_self))⟩
  | text content =>
    cases content with
    | broken => cases spelled
    | whole =>
      cases spelled
      exact ⟨_, _, rfl, rfl⟩
  | list =>
    obtain ⟨parts, _, rfl⟩ := exists_parts spelled
    exact ⟨_, _, rfl, rfl⟩
  | map names keys once =>
    obtain ⟨members, _, rfl⟩ := exists_members (plain_of_texts keys ▸ once) spelled
    exact ⟨_, _, rfl, rfl⟩

inductive Kindred : Value → Value → Prop where
  | null : Kindred null null
  | bool (left right : Bool) : Kindred (bool left) (bool right)
  | int (left right : Int) : Kindred (int left) (int right)
  | text (left right : Wording) : Kindred (text left) (text right)
  | list (left right : List Value) : Kindred (list left) (list right)
  | map (left right : List (Value × Value)) : Kindred (map left) (map right)

private theorem Spelled.kindred (first : value.Spelled left) (second : other.Spelled right)
    (same : left ++ rest = right ++ after) : Kindred value other := by
  obtain ⟨c, _, rfl, kind⟩ := first.begins
  obtain ⟨d, _, rfl, otherKind⟩ := second.begins
  obtain ⟨rfl, _⟩ := List.cons.inj same
  have kinds : value.kindName = other.kindName := Option.some.inj (kind.symm.trans otherKind)
  cases first.plain <;> cases second.plain <;> first | constructor | simp [kindName] at kinds

end Kinds

section Identity

variable {value other : Value}

def SpelledEntry (entry : Value × Value) (part : List Char) : Prop :=
  ∃ name letters, entry.1 = text (.whole name) ∧ entry.2.Spelled letters ∧ part = textLetters name ++ ':' :: letters

private theorem tells_entry {entry : Value × Value} (tells : Tells Spelled Alike entry.2) :
    Tells SpelledEntry (fun entry other => entry.1 = other.1 ∧ Alike entry.2 other.2) entry := by
  intro other left right rest after first second stops otherStops same
  obtain ⟨name, letters, key, spelled, rfl⟩ := first
  obtain ⟨otherName, others, otherKey, otherSpelled, rfl⟩ := second
  simp only [List.append_assoc, List.cons_append] at same
  obtain ⟨rfl, later⟩ := textLetters_unambiguous same
  obtain ⟨alike, after⟩ := tells spelled otherSpelled stops otherStops (List.cons.inj later).2
  exact ⟨⟨key.trans otherKey.symm, alike⟩, after⟩

private theorem forall₂_spelledEntry {entries : List (Value × Value)} {names : List Wording}
    (keys : entries.map (·.1) = names.map text) (plain : ∀ entry ∈ entries, entry.2.Plain)
    {members : List (String × List Char)} (beside : List.Forall₂ (fun entry member =>
      entry.1.plain = .whole member.1 ∧ entry.2.letters = .ok member.2) (arranged entries) members) :
    List.Forall₂ SpelledEntry (arranged entries) (members.map fun (key, part) => textLetters key ++ ':' :: part) := by
  rw [List.forall₂_map_right_iff]
  have known : ∀ entry ∈ arranged entries, (∃ name, entry.1 = text name) ∧ entry.2.Plain := by
    intro entry member
    have listed := (arranged_perm entries).subset member
    refine ⟨?_, plain entry listed⟩
    have key : entry.1 ∈ names.map text := keys ▸ List.mem_map_of_mem listed
    obtain ⟨name, _, same⟩ := List.mem_map.mp key
    exact ⟨name, same.symm⟩
  apply ((List.forall₂_and_left _ _).mpr ⟨known, beside⟩).imp
  rintro ⟨key, value⟩ ⟨name, part⟩ ⟨⟨⟨content, same⟩, plain⟩, named, spelled⟩
  cases same
  cases named
  exact ⟨_, part, rfl, ⟨plain, spelled⟩, rfl⟩

private theorem alike_map_of_arranged {entries others : List (Value × Value)}
    (beside : List.Forall₂ (fun entry other => entry.1 = other.1 ∧ Alike entry.2 other.2) (arranged entries)
      (arranged others)) : Alike (map entries) (map others) := by
  obtain ⟨between, alike, order⟩ := List.perm_comp_forall₂ (arranged_perm entries).symm beside
  refine .map (order.trans (arranged_perm others)) ?_ ?_
  · rw [← List.forall₂_eq_eq_eq, List.forall₂_map_left_iff, List.forall₂_map_right_iff]
    exact alike.imp fun _ _ => And.left
  · rw [List.forall₂_map_left_iff, List.forall₂_map_right_iff]
    exact alike.imp fun _ _ => And.right

private theorem opens_of_spelled {close : Char} (closing : beginning? close = none) (item : Value) (part : List Char)
    (spelled : item.Spelled part) : ∃ first rest, part = first :: rest ∧ first ≠ close := by
  obtain ⟨first, rest, same, kind⟩ := spelled.begins
  refine ⟨first, rest, same, ?_⟩
  rintro rfl
  rw [closing] at kind
  cases kind

private theorem opens_of_spelledEntry (entry : Value × Value) (part : List Char) (spelled : SpelledEntry entry part) :
    ∃ first rest, part = first :: rest ∧ first ≠ '}' := by
  obtain ⟨name, letters, _, _, rfl⟩ := spelled
  exact ⟨'"', _, rfl, by decide⟩

private theorem forall₂_spelled {items : List Value} {parts : List (List Char)} (plain : ∀ item ∈ items, item.Plain)
    (beside : List.Forall₂ (fun item part => item.letters = .ok part) items parts) :
    List.Forall₂ Spelled items parts :=
  ((List.forall₂_and_left _ _).mpr ⟨plain, beside⟩).imp fun _ _ ⟨plain, spelled⟩ => ⟨plain, spelled⟩

/-- The canonical letters of a plain value tell it from every other plain value, up to the order of entries. -/
theorem Plain.tells (plain : value.Plain) : Tells Spelled Alike value := by
  induction plain with
  | null =>
    intro other left right rest after first second _ _ same
    cases first.kindred second same
    cases first.spelled
    cases second.spelled
    exact ⟨.null, List.append_cancel_left same⟩
  | bool truth =>
    intro other left right rest after first second _ _ same
    cases first.kindred second same with
    | bool _ answer =>
      cases first.spelled
      cases second.spelled
      cases truth <;> cases answer <;> simp at same
      · exact ⟨.bool false, same⟩
      · exact ⟨.bool true, same⟩
  | int number =>
    intro other left right rest after first second stops otherStops same
    cases first.kindred second same
    cases intLetters_eq_ok first.spelled
    cases intLetters_eq_ok second.spelled
    obtain ⟨rfl, after⟩ := int_unambiguous stops otherStops same
    exact ⟨.int _, after⟩
  | text content =>
    intro other left right rest after first second _ _ same
    cases first.kindred second same with
    | text _ another =>
      cases content with
      | broken => cases first.spelled
      | whole =>
        cases another with
        | broken => cases second.spelled
        | whole =>
          cases first.spelled
          cases second.spelled
          obtain ⟨rfl, after⟩ := textLetters_unambiguous same
          exact ⟨.text _, after⟩
  | list plain ih =>
    intro other left right rest after first second _ _ same
    cases first.kindred second same with
    | list items others =>
      obtain ⟨parts, beside, rfl⟩ := exists_parts first.spelled
      obtain ⟨letters, otherBeside, rfl⟩ := exists_parts second.spelled
      cases second.plain with
      | list otherPlain =>
        simp only [array, List.cons_append, List.append_assoc, List.cons.injEq, true_and, List.nil_append] at same
        obtain ⟨alike, after⟩ := separated_unambiguous (.inr (.inl rfl)) (by decide) (opens_of_spelled (by decide))
          (forall₂_spelled plain beside) (forall₂_spelled otherPlain otherBeside) ih same
        exact ⟨.list alike, after⟩
  | map names keys once plain ih =>
    intro other left right rest after first second _ _ same
    cases first.kindred second same with
    | map entries others =>
      obtain ⟨members, beside, rfl⟩ := exists_members (plain_of_texts keys ▸ once) first.spelled
      cases second.plain with
      | map otherNames otherKeys otherOnce otherPlain =>
        obtain ⟨letters, otherBeside, rfl⟩ := exists_members (plain_of_texts otherKeys ▸ otherOnce) second.spelled
        simp only [object, List.cons_append, List.append_assoc, List.cons.injEq, true_and, List.nil_append] at same
        obtain ⟨alike, after⟩ := separated_unambiguous (.inr (.inr rfl)) (by decide) opens_of_spelledEntry
          (forall₂_spelledEntry keys plain beside) (forall₂_spelledEntry otherKeys otherPlain otherBeside)
          (fun entry listed => tells_entry (ih entry ((arranged_perm _).subset listed))) same
        exact ⟨alike_map_of_arranged alike, after⟩

private theorem exists_letters {text : String} (found : value.canonical = .ok text) :
    ∃ letters, value.letters = .ok letters ∧ text = String.ofList letters := by
  unfold canonical at found
  split at found
  next => cases found
  next =>
    cases spelled : value.letters with
    | error => rw [spelled] at found; cases found
    | ok letters =>
      rw [spelled] at found
      cases found
      exact ⟨letters, rfl, rfl⟩

/-- Plain values with one canonical text are equal up to the order of entries. -/
theorem Plain.alike_of_canonical (plain : value.Plain) (otherPlain : other.Plain) {text : String}
    (first : value.canonical = .ok text) (second : other.canonical = .ok text) : value.Alike other := by
  obtain ⟨left, spelled, rfl⟩ := exists_letters first
  obtain ⟨right, otherSpelled, same⟩ := exists_letters second
  have letters : left ++ [] = right ++ [] := congrArg (· ++ []) (String.ofList_injective same)
  exact (plain.tells ⟨plain, spelled⟩ ⟨otherPlain, otherSpelled⟩ stops_nil stops_nil letters).1

end Identity

section Inversion

private theorem Alike.single {key value otherKey other : Value}
    (alike : Alike (.map [(key, value)]) (.map [(otherKey, other)])) : key = otherKey ∧ Alike value other := by
  cases alike with
  | map order keys values =>
    obtain rfl := List.perm_singleton.mp order
    cases values with
    | cons alike => exact ⟨(List.cons.inj keys).1, alike⟩

private theorem Alike.aligned {entries others : List (Value × Value)} (alike : Alike (.map entries) (.map others))
    (keys : entries.map (·.1) = others.map (·.1)) (once : (others.map (·.1)).Nodup) :
    List.Forall₂ Alike (entries.map (·.2)) (others.map (·.2)) := by
  cases alike with
  | map order same values =>
    obtain rfl := eq_of_perm_of_keys order (same.symm.trans keys) once
    exact values

private theorem Alike.eq_of_list {γ : Type} {f : γ → Value} {items others : List γ}
    (told : ∀ item other, Alike (f item) (f other) → item = other)
    (alike : Alike (.list (items.map f)) (.list (others.map f))) : items = others := by
  cases alike with
  | list alike =>
    rw [List.forall₂_map_left_iff, List.forall₂_map_right_iff] at alike
    rw [← List.forall₂_eq_eq_eq]
    exact alike.imp told

private theorem Alike.eq_of_int {left right : Int} (alike : Alike (.int left) (.int right)) : left = right := by
  cases alike
  rfl

private theorem Alike.eq_of_text {left right : Wording} (alike : Alike (.text left) (.text right)) : left = right := by
  cases alike
  rfl

private theorem Alike.eq_of_pair {first second other another : Int}
    (alike : Alike (.list [.int first, .int second]) (.list [.int other, .int another])) :
    first = other ∧ second = another := by
  have pairs : [first, second] = [other, another] :=
    Alike.eq_of_list (f := Value.int) (fun _ _ => Alike.eq_of_int) alike
  simpa using pairs

private theorem plain_single {name : Wording} {value : Value} (plain : value.Plain) :
    Plain (map [(text name, value)]) :=
  .map [name] rfl (List.nodup_singleton name) (by simpa using plain)

private theorem plain_ints (numbers : List Int) : Plain (list (numbers.map int)) := by
  apply Plain.list
  intro item member
  obtain ⟨number, _, rfl⟩ := List.mem_map.mp member
  exact .int number

end Inversion
end Value

/-- Nodes of one variant with the same children. The contents of boxes may differ in the order of their
entries. -/
inductive TreeNode.Alike : TreeNode Fields → TreeNode Fields → Prop where
  | box {content other : Fields} (alike : Value.Alike (.map content) (.map other)) (children : List Int) :
      Alike (.box content children) (.box other children)
  | and (left right : Int) : Alike (.and left right) (.and left right)
  | or (left right : Int) : Alike (.or left right) (.or left right)
  | not (child : Int) : Alike (.not child) (.not child)

def LinearTree.PlainContents (tree : DocumentTree) : Prop :=
  ∀ content children, .box content children ∈ tree.nodes → (Value.map content).Plain

namespace TreeNode

open Value (Plain plain_single plain_ints)

private theorem plain_encode {node : TreeNode Fields}
    (plain : ∀ content children, node = .box content children → (Value.map content).Plain) : node.encode.Plain := by
  cases node with
  | box content children =>
    apply plain_single
    apply Plain.list
    simp [plain content children rfl, plain_ints]
  | and left right | or left right => exact plain_single (plain_ints [left, right])
  | not child => exact plain_single (.int child)

private theorem alike_of_encode {left right : TreeNode Fields} (alike : left.encode.Alike right.encode) :
    left.Alike right := by
  cases left with
  | box content children =>
    cases right with
    | box other others =>
      obtain ⟨_, inside⟩ := alike.single
      cases inside with
      | list both =>
        cases both with
        | cons contents rest =>
          cases rest with
          | cons positions =>
            obtain rfl := positions.eq_of_list fun _ _ => Value.Alike.eq_of_int
            exact .box contents children
    | and | or | not => exact absurd alike.single.1 (by simp)
  | and first second =>
    cases right with
    | and =>
      obtain ⟨rfl, rfl⟩ := alike.single.2.eq_of_pair
      exact .and first second
    | box | or | not => exact absurd alike.single.1 (by simp)
  | or first second =>
    cases right with
    | or =>
      obtain ⟨rfl, rfl⟩ := alike.single.2.eq_of_pair
      exact .or first second
    | box | and | not => exact absurd alike.single.1 (by simp)
  | not child =>
    cases right with
    | not =>
      obtain rfl := alike.single.2.eq_of_int
      exact .not child
    | box | and | or => exact absurd alike.single.1 (by simp)

end TreeNode

namespace LinearTree

private theorem eq_of_encodeName {left right : EdgeKey × Wording}
    (alike : Value.Alike (encodeName left) (encodeName right)) : left = right := by
  cases alike with
  | list both =>
    cases both with
    | cons keys rest =>
      cases rest with
      | cons names =>
        obtain ⟨parents, children⟩ := keys.eq_of_pair
        exact Prod.ext (Prod.ext parents children) names.eq_of_text

private theorem PlainContents.plain_encode {tree : DocumentTree} (plain : tree.PlainContents) : tree.encode.Plain := by
  have nodes : (Value.list (tree.nodes.map TreeNode.encode)).Plain := by
    apply Value.Plain.list
    intro item member
    obtain ⟨node, listed, rfl⟩ := List.mem_map.mp member
    exact TreeNode.plain_encode fun content children same => plain content children (same ▸ listed)
  have names : (Value.list (tree.edgeNames.map encodeName)).Plain := by
    apply Value.Plain.list
    intro item member
    obtain ⟨entry, _, rfl⟩ := List.mem_map.mp member
    have key : (Value.list [.int entry.1.1, .int entry.1.2]).Plain := Value.plain_ints [entry.1.1, entry.1.2]
    exact .list (by simp [key, Value.Plain.text])
  exact .map [.whole "nodes", .whole "edgeNames"] rfl (by decide) (by simp [nodes, names])

/-- In canonical text the names of a tree come before its nodes. -/
theorem canonical_encode {tree : DocumentTree} {names nodes : List Char} (faultless : tree.encode.fault? = none)
    (first : (Value.list (tree.edgeNames.map encodeName)).letters = .ok names)
    (second : (Value.list (tree.nodes.map TreeNode.encode)).letters = .ok nodes) :
    tree.encode.canonical = .ok (.ofList (Canonical.object [("edgeNames", names), ("nodes", nodes)])) := by
  have kept (parts others : Except CanonicalError (List Char)) :
      Canonical.named (latest (·.1) [(.whole "nodes", parts), (.whole "edgeNames", others)]) =
        .ok [("nodes", parts), ("edgeNames", others)] := by
    rw [(latest_eq_self_iff _).mpr (by simp)]
    rfl
  have order : Text.unitsLe "nodes" "edgeNames" = false := by decide
  have sorted (parts others : Except CanonicalError (List Char)) :
      Canonical.sortKeys [("nodes", parts), ("edgeNames", others)] = [("edgeNames", others), ("nodes", parts)] := by
    simp [Canonical.sortKeys, List.mergeSort, List.MergeSort.Internal.splitInTwo, order]
  rw [Value.canonical, faultless, encode, Value.letters, Value.memberLetters, Value.memberLetters, Value.memberLetters,
    first, second, Value.plain, Value.plain, kept]
  change (String.ofList <$> do return Canonical.object (← Canonical.collect (Canonical.sortKeys _))) = _
  rw [sorted]
  rfl

/-- Trees with one canonical text have the same nodes, up to the order of entries in their contents, and the
same edge names. -/
theorem canonical_identifies {left right : DocumentTree} (leftPlain : left.PlainContents)
    (rightPlain : right.PlainContents) {text : String} (first : left.encode.canonical = .ok text)
    (second : right.encode.canonical = .ok text) :
    List.Forall₂ TreeNode.Alike left.nodes right.nodes ∧ left.edgeNames = right.edgeNames := by
  have alike := leftPlain.plain_encode.alike_of_canonical rightPlain.plain_encode first second
  have parts := Value.Alike.aligned alike rfl (by simp)
  cases parts with
  | cons nodes rest =>
    cases rest with
    | cons names =>
      refine ⟨?_, names.eq_of_list fun _ _ => eq_of_encodeName⟩
      cases nodes with
      | list nodes =>
        rw [List.forall₂_map_left_iff, List.forall₂_map_right_iff] at nodes
        exact nodes.imp fun _ _ => TreeNode.alike_of_encode

/-- A box over a gate, with two entries in one order or the other. -/
def swapped (swap : Bool) : DocumentTree :=
  let entries : Fields := [(.text "b", .list [.null, .text "\n"]), (.text "a", .int (-1))]
  ⟨[.box (if swap then entries.reverse else entries) [1], .not 2, .box [] []], [((0, 1), "due")]⟩

theorem canonical_identifies_swapped : ∃ text, (swapped false).encode.canonical = .ok text ∧
    (swapped true).encode.canonical = .ok text ∧
    List.Forall₂ TreeNode.Alike (swapped false).nodes (swapped true).nodes ∧
    (swapped false).edgeNames = (swapped true).edgeNames := by
  have items : (Value.list [.null, .text "\n"]).Plain := .list (by simp [Value.Plain.null, Value.Plain.text])
  have content : (Value.map [(.text "b", .list [.null, .text "\n"]), (.text "a", .int (-1))]).Plain :=
    .map [.whole "b", .whole "a"] rfl (by decide) (by simp [items, Value.Plain.int])
  have reversed : (Value.map [(.text "a", .int (-1)), (.text "b", .list [.null, .text "\n"])]).Plain :=
    .map [.whole "a", .whole "b"] rfl (by decide) (by simp [items, Value.Plain.int])
  have nothing : (Value.map []).Plain := .map [] rfl (by decide) (by simp)
  have plain (swap : Bool) : (swapped swap).PlainContents := by
    intro content children member
    cases swap
    all_goals
      simp only [swapped, List.mem_cons, List.not_mem_nil, or_false, reduceCtorEq, false_or,
        TreeNode.box.injEq] at member
      rcases member with ⟨rfl, _⟩ | ⟨rfl, _⟩ <;> assumption
  have names (swap : Bool) : (Value.list ((swapped swap).edgeNames.map encodeName)).letters =
      .ok "[[[0,1],\"due\"]]".toList := by
    cases swap <;> cbv
  have nodes (swap : Bool) : (Value.list ((swapped swap).nodes.map TreeNode.encode)).letters =
      .ok ("[\x7b\"Box\":[\x7b\"a\":-1,\"b\":[null,\"\\n\"]\x7d,[1]]\x7d,\x7b\"NOT\":2\x7d," ++
        "\x7b\"Box\":[\x7b\x7d,[]]\x7d]").toList := by
    cases swap <;> cbv
  have faultless (swap : Bool) : (swapped swap).encode.fault? = none := by cases swap <;> rfl
  have spelled (swap : Bool) := canonical_encode (faultless swap) (names swap) (nodes swap)
  exact ⟨_, spelled false, spelled true,
    canonical_identifies (plain false) (plain true) (spelled false) (spelled true)⟩

end LinearTree
end BoxTree
