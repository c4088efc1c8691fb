import BoxTree.Proofs.CanonicalDomain
import BoxTree.Proofs.Lookups

/-! Canonical text does not depend on the order of entries. Of the entries of a mapping whose keys have one text only the
last is written; apart from those nothing is lost. -/

namespace BoxTree

namespace Text

private theorem charUnits_eq (c : Char) : charUnits c = if c.toNat < 0x10000 then [c.toNat] else
    [0xd800 + (c.toNat - 0x10000) / 0x400, 0xdc00 + (c.toNat - 0x10000) % 0x400] := rfl

/-- No letter lies where the halves of the letters above the basic plane are. -/
theorem outside_halves (c : Char) : c.toNat < 0xd800 ∨ 0xdfff < c.toNat ∧ c.toNat < 0x110000 := c.valid

/-- The units of a letter tell it from any other, whatever follows them. -/
theorem charUnits_unambiguous {c d : Char} {rest others : List Nat}
    (same : charUnits c ++ rest = charUnits d ++ others) : c = d ∧ rest = others := by
  have outside := outside_halves c
  have otherOutside := outside_halves d
  suffices told : c.toNat = d.toNat ∧ rest = others from ⟨Char.toNat_inj.mp told.1, told.2⟩
  rw [charUnits_eq, charUnits_eq] at same
  split at same <;> split at same
  all_goals
    simp only [List.cons_append, List.nil_append, List.cons.injEq] at same
  · exact same
  · omega
  · omega
  · obtain ⟨high, low, after⟩ := same
    exact ⟨by omega, after⟩

private theorem charUnits_ne_nil (c : Char) : charUnits c ≠ [] := by
  rw [charUnits_eq]
  split <;> simp

private theorem units_injective {left right : String} (same : units left = units right) : left = right := by
  have flat (letters others : List Char) (same : letters.flatMap charUnits = others.flatMap charUnits) :
      letters = others := by
    induction letters generalizing others with
    | nil =>
      cases others with
      | nil => rfl
      | cons d others => simp [charUnits_ne_nil] at same
    | cons c letters ih =>
      cases others with
      | nil => simp [charUnits_ne_nil] at same
      | cons d others =>
        obtain ⟨rfl, later⟩ := charUnits_unambiguous same
        rw [ih others later]
  exact String.toList_injective (flat _ _ same)

private theorem unitsLe_iff (left right : String) : unitsLe left right = true ↔ units left ≤ units right := by
  have less : (units right).lex (units left) = true ↔ units right < units left :=
    List.lex_eq_true_iff_lt.trans (List.lt_iff_lex_lt _ _)
  rw [unitsLe, Bool.not_eq_true', ← Bool.not_eq_true, less, not_lt]

private theorem unitsLe_trans (first second third : String) (before : unitsLe first second = true)
    (after : unitsLe second third = true) : unitsLe first third = true := by
  rw [unitsLe_iff] at *
  exact le_trans before after

private theorem unitsLe_total (left right : String) : (unitsLe left right || unitsLe right left) = true := by
  rw [Bool.or_eq_true, unitsLe_iff, unitsLe_iff]
  exact le_total _ _

private theorem unitsLe_antisymm {left right : String} (before : unitsLe left right = true)
    (after : unitsLe right left = true) : left = right := by
  rw [unitsLe_iff] at *
  exact units_injective (le_antisymm before after)

end Text

namespace Canonical

variable {α β : Type}

private theorem sortKeys_perm (members : List (String × α)) : (sortKeys members).Perm members := List.mergeSort_perm _ _

private theorem pairwise_sortKeys (members : List (String × α)) :
    (sortKeys members).Pairwise fun left right => Text.unitsLe left.1 right.1 = true := by
  unfold sortKeys
  apply List.pairwise_mergeSort
  · intro first second third
    exact Text.unitsLe_trans first.1 second.1 third.1
  · intro left right
    exact Text.unitsLe_total left.1 right.1

/-- Members with different keys have one order. -/
theorem sortKeys_eq_of_perm {members others : List (String × α)} (order : members.Perm others)
    (once : (others.map (·.1)).Nodup) : sortKeys members = sortKeys others := by
  apply List.Perm.eq_of_pairwise ?_ (pairwise_sortKeys members) (pairwise_sortKeys others)
    ((sortKeys_perm members).trans (order.trans (sortKeys_perm others).symm))
  intro left right listed otherListed before after
  have left_mem : left ∈ others := order.subset ((sortKeys_perm members).subset listed)
  have right_mem : right ∈ others := (sortKeys_perm others).subset otherListed
  exact List.inj_on_of_nodup_map once left_mem right_mem (Text.unitsLe_antisymm before after)

end Canonical

namespace Value

open Canonical

mutual
/-- The value with each mapping in it, at any depth, reduced to the entries that are written. -/
def settled : Value → Value
  | list items => list (settledItems items)
  | tuple items => tuple (settledItems items)
  | map entries => map (latest (·.1.plain) (settledEntries entries))
  | value => value

def settledItems : List Value → List Value
  | [] => []
  | item :: rest => settled item :: settledItems rest

def settledEntries : List (Value × Value) → List (Value × Value)
  | [] => []
  | (key, value) :: rest => (key, settled value) :: settledEntries rest
end

/-- Equality up to the order of the entries of mappings, at any depth. -/
inductive Reordered : Value → Value → Prop where
  | same (value : Value) : Reordered value value
  | list {items others : List Value} (each : List.Forall₂ Reordered items others) : Reordered (list items) (list others)
  | tuple {items others : List Value} (each : List.Forall₂ Reordered items others) :
      Reordered (tuple items) (tuple others)
  | map {entries arranged others : List (Value × Value)} (keys : entries.map (·.1) = arranged.map (·.1))
      (each : List.Forall₂ Reordered (entries.map (·.2)) (arranged.map (·.2))) (order : arranged.Perm others) :
      Reordered (map entries) (map others)

section Settled

theorem settledItems_eq (items : List Value) : settledItems items = items.map settled := by
  induction items with
  | nil => rfl
  | cons item rest ih => rw [settledItems, ih, List.map_cons]

theorem settledEntries_eq (entries : List (Value × Value)) :
    settledEntries entries = entries.map fun entry => (entry.1, entry.2.settled) := by
  induction entries with
  | nil => rfl
  | cons entry rest ih => rw [settledEntries, ih, List.map_cons]

private theorem itemLetters_congr {items others : List Value} (same : items.map letters = others.map letters) :
    itemLetters items = itemLetters others := by
  induction items generalizing others with
  | nil =>
    cases others with
    | nil => rfl
    | cons => cases same
  | cons item rest ih =>
    cases others with
    | nil => cases same
    | cons other others =>
      obtain ⟨first, more⟩ := List.cons.inj same
      rw [itemLetters, itemLetters, first, ih more]

private theorem letters_list_congr {items others : List Value} (same : items.map letters = others.map letters) :
    (list items).letters = (list others).letters := by
  rw [letters, letters, itemLetters_congr same]

theorem letters_tuple (items : List Value) : (tuple items).letters = (list items).letters := by rw [letters, letters]

theorem letters_settled (value : Value) : value.settled.letters = value.letters := by
  induction value using by_parts with
  | step value ih =>
    have items (items : List Value) (ih : ∀ item ∈ items, item.settled.letters = item.letters) :
        (list (settledItems items)).letters = (list items).letters := by
      apply letters_list_congr
      rw [settledItems_eq, List.map_map]
      exact List.map_congr_left ih
    cases value with
    | list parts => exact items parts ih
    | tuple parts =>
      rw [settled, letters_tuple, letters_tuple]
      exact items parts ih
    | map entries =>
      have settledLetters : memberLetters (settledEntries entries) = memberLetters entries := by
        rw [memberLetters_eq, memberLetters_eq, settledEntries_eq, List.map_map]
        exact List.map_congr_left fun entry member =>
          congrArg (Prod.mk entry.1.plain) (ih entry.2 (List.mem_map_of_mem member))
      have once := nodup_latest (·.1.plain) (settledEntries entries)
      rw [settled, letters, letters, latest_memberLetters, (latest_eq_self_iff _).mpr once, ← latest_memberLetters,
        settledLetters]
    | null | bool | int | double | text | bytes | date | moment | set | again => rfl

theorem fault?_settled {value : Value} (faultless : value.fault? = none) : value.settled.fault? = none := by
  induction value using by_parts with
  | step value ih =>
    have items (items : List Value) (faultless : faultAmong? items = none)
        (ih : ∀ item ∈ items, item.fault? = none → item.settled.fault? = none) :
        faultAmong? (settledItems items) = none := by
      rw [faultAmong?_eq_none_iff] at faultless
      rw [settledItems_eq, faultAmong?_eq_none_iff, List.forall_mem_map]
      exact fun item member => ih item member (faultless item member)
    cases value with
    | list parts => exact items parts faultless ih
    | tuple parts => exact items parts faultless ih
    | map entries =>
      rw [fault?, faultUnder?_eq_none_iff] at faultless
      rw [settled, fault?, faultUnder?_eq_none_iff]
      intro entry member
      rw [settledEntries_eq] at member
      obtain ⟨entry, listed, rfl⟩ := List.mem_map.mp (latest_subset _ _ member)
      obtain ⟨hasText, faultless⟩ := faultless entry listed
      exact ⟨hasText, ih entry.2 (List.mem_map_of_mem listed) faultless⟩
    | null | bool | int | double | text | bytes | date | moment | set | again => exact faultless

theorem textsApart_settled (value : Value) : value.settled.TextsApart := by
  induction value using by_parts with
  | step value ih =>
    have items (items : List Value) (ih : ∀ item ∈ items, item.settled.TextsApart) :
        ∀ part ∈ settledItems items, part.TextsApart := by
      rw [settledItems_eq, List.forall_mem_map]
      exact ih
    cases value with
    | list parts => exact .intro List.nodup_nil (items parts ih)
    | tuple parts => exact .intro List.nodup_nil (items parts ih)
    | map entries =>
      refine .intro (nodup_latest _ _) ?_
      intro part isPart
      obtain ⟨entry, kept, rfl⟩ := List.mem_map.mp isPart
      have settled := latest_subset _ _ kept
      rw [settledEntries_eq] at settled
      obtain ⟨entry, listed, rfl⟩ := List.mem_map.mp settled
      exact ih entry.2 (List.mem_map_of_mem listed)
    | null | bool | int | double | text | bytes | date | moment | set | again =>
      exact .intro List.nodup_nil (List.forall_mem_nil _)

theorem TextsApart.settled_eq_self {value : Value} (apart : value.TextsApart) : value.settled = value := by
  induction apart with
  | @intro value once _ ih =>
    have items (items : List Value) (ih : ∀ item ∈ items, item.settled = item) : settledItems items = items := by
      rw [settledItems_eq]
      exact (List.map_congr_left ih).trans (List.map_id _)
    cases value with
    | list parts => exact congrArg list (items parts ih)
    | tuple parts => exact congrArg tuple (items parts ih)
    | map entries =>
      have same : settledEntries entries = entries := by
        rw [settledEntries_eq]
        refine (List.map_congr_left fun entry member => ?_).trans (List.map_id _)
        exact congrArg (Prod.mk entry.1) (ih entry.2 (List.mem_map_of_mem member))
      rw [settled, same, (latest_eq_self_iff _).mpr once]
    | null | bool | int | double | text | bytes | date | moment | set | again => rfl

/-- No entry is replaced exactly if the keys of each mapping have different texts. -/
theorem settled_eq_self_iff {value : Value} : value.settled = value ↔ value.TextsApart :=
  ⟨fun same => same ▸ textsApart_settled value, TextsApart.settled_eq_self⟩

end Settled

section Reordered

private theorem map_letters_eq {items others : List Value} (each : List.Forall₂ Reordered items others)
    (same : ∀ item ∈ items, ∀ other, item.Reordered other → other.letters = item.letters) :
    others.map letters = items.map letters := by
  rw [← List.forall₂_eq_eq_eq, List.forall₂_map_left_iff, List.forall₂_map_right_iff]
  exact ((List.forall₂_and_left _ _).mpr ⟨same, each⟩).flip.imp fun _ _ known => known.1 _ known.2

private theorem map_named_eq_zip {γ : Type} (name : Value → γ) (entries : List (Value × Value)) :
    (entries.map fun entry => (name entry.1, entry.2.letters)) =
      ((entries.map (·.1)).map name).zip ((entries.map (·.2)).map letters) := by
  rw [List.map_map, List.map_map, List.zip_map']
  rfl

theorem nodup_displayed {entries : List (Value × Value)} (once : (entries.map (·.1.plain)).Nodup)
    (whole : ∀ entry ∈ entries, entry.1.plain.isWhole = true) : (entries.map (·.1.plain.displayed)).Nodup := by
  have apart : ((entries.map (·.1.plain)).map Wording.displayed).Nodup := by
    apply once.map_on
    rw [List.forall_mem_map]
    intro entry member
    rw [List.forall_mem_map]
    intro other otherMember same
    rw [displayed_of_isWhole (whole entry member), same, ← displayed_of_isWhole (whole other otherMember)]
  rwa [List.map_map] at apart

/-- The letters of a value whose keys stay apart as texts do not depend on the order of entries. -/
theorem TextsApart.letters_eq {value other : Value} (apart : value.TextsApart) (reordered : value.Reordered other)
    (spelled : ∃ letters, value.letters = .ok letters) : other.letters = value.letters := by
  induction apart generalizing other with
  | intro once _ ih =>
    have items {items others : List Value} (each : List.Forall₂ Reordered items others)
        (spelled : ∃ letters, (list items).letters = .ok letters)
        (ih : ∀ item ∈ items, ∀ {other}, item.Reordered other → (∃ letters, item.letters = .ok letters) →
          other.letters = item.letters) : (list others).letters = (list items).letters := by
      obtain ⟨_, spelled⟩ := spelled
      obtain ⟨parts, beside, _⟩ := exists_parts spelled
      apply letters_list_congr
      apply map_letters_eq each
      intro item member other reordered
      obtain ⟨part, _, spelled⟩ := exists_of_forall₂_left beside member
      exact ih item member reordered ⟨part, spelled⟩
    cases reordered with
    | same => rfl
    | list each => exact items each spelled ih
    | tuple each =>
      rw [letters_tuple] at *
      rw [letters_tuple]
      exact items each spelled ih
    | @map entries arranged others keys each order =>
      -- First the values are reordered under their keys, and then the entries, which sorting undoes.
      rw [exists_letters_map_iff, (latest_eq_self_iff _).mpr once] at spelled
      have values := map_letters_eq each (List.forall_mem_map.mpr fun entry member other reordered =>
        ih entry.2 (List.mem_map_of_mem member) reordered (spelled entry member).2)
      have same {γ : Type} (name : Value → γ) : (arranged.map fun entry => (name entry.1, entry.2.letters)) =
          entries.map fun entry => (name entry.1, entry.2.letters) := by
        rw [map_named_eq_zip, map_named_eq_zip, keys, values]
      have plain : arranged.map (·.1.plain) = entries.map (·.1.plain) := by
        simpa [Function.comp_def] using congrArg (List.map Prod.fst) (same plain)
      have otherOnce : (others.map (·.1.plain)).Nodup := ((order.map _).nodup_iff.mp (plain ▸ once))
      have whole : ∀ entry ∈ entries, entry.1.plain.isWhole = true := fun entry member => (spelled entry member).1
      have otherWhole : ∀ entry ∈ others, entry.1.plain.isWhole = true := by
        intro entry member
        have listed : entry.1.plain ∈ entries.map (·.1.plain) :=
          plain ▸ List.mem_map_of_mem (order.symm.subset member)
        obtain ⟨other, isOther, same⟩ := List.mem_map.mp listed
        exact same ▸ whole other isOther
      have perm : (others.map fun entry => (entry.1.plain.displayed, entry.2.letters)).Perm
          (entries.map fun entry => (entry.1.plain.displayed, entry.2.letters)) :=
        (order.symm.map _).trans (List.Perm.of_eq (same fun key => key.plain.displayed))
      have displayed : ((entries.map fun entry => (entry.1.plain.displayed, entry.2.letters)).map (·.1)).Nodup := by
        rw [List.map_map]
        exact nodup_displayed once whole
      rw [letters_map once whole, letters_map otherOnce otherWhole, sortKeys_eq_of_perm perm displayed]

private theorem Reordered.fault?_eq_none {value other : Value} (reordered : value.Reordered other)
    (faultless : value.fault? = none) : other.fault? = none := by
  induction value using by_parts generalizing other with
  | step value ih =>
    cases reordered with
    | same => exact faultless
    | list each | tuple each =>
      rw [fault?, faultAmong?_eq_none_iff] at *
      intro other member
      obtain ⟨item, listed, reordered⟩ := exists_of_forall₂_right each member
      exact ih item listed reordered (faultless item listed)
    | @map entries arranged others keys each order =>
      rw [fault?, faultUnder?_eq_none_iff] at *
      intro entry member
      have listed := order.symm.subset member
      have key : entry.1 ∈ entries.map (·.1) := keys ▸ List.mem_map_of_mem listed
      obtain ⟨old, isOld, same⟩ := List.mem_map.mp key
      obtain ⟨part, isPart, reordered⟩ := exists_of_forall₂_right each (List.mem_map_of_mem listed)
      refine ⟨same ▸ (faultless old isOld).1, ih part isPart reordered ?_⟩
      obtain ⟨earlier, isEarlier, rfl⟩ := List.mem_map.mp isPart
      exact (faultless earlier isEarlier).2

end Reordered

section Pieces

private theorem infix_commaSeparated {part : List Char} {parts : List (List Char)} (member : part ∈ parts) :
    part <:+: commaSeparated parts := by
  cases parts with
  | nil => cases member
  | cons first rest =>
    rw [commaSeparated_cons]
    rcases List.mem_cons.mp member with rfl | later
    · exact (List.prefix_append _ _).isInfix
    · obtain ⟨before, after, rfl⟩ := List.append_of_mem later
      refine ⟨first ++ before.flatMap (',' :: ·) ++ [','], after.flatMap (',' :: ·), ?_⟩
      simp

private theorem infix_array {part : List Char} {parts : List (List Char)} (member : part ∈ parts) :
    part <:+: array parts :=
  (infix_commaSeparated member).trans ⟨['['], [']'], rfl⟩

private theorem infix_object {member : String × List Char} {members : List (String × List Char)}
    (listed : member ∈ members) :
    textLetters member.1 ++ ':' :: member.2 <:+: object members := by
  have written : textLetters member.1 ++ ':' :: member.2 ∈
      members.map fun member => textLetters member.1 ++ ':' :: member.2 := List.mem_map_of_mem listed
  exact (infix_commaSeparated written).trans ⟨['\x7b'], ['\x7d'], rfl⟩

/-- An entry is written as a member of its object. -/
theorem exists_member {entries : List (Value × Value)} (once : (entries.map (·.1.plain)).Nodup) {whole : List Char}
    (spelled : (map entries).letters = .ok whole) {entry : Value × Value} (member : entry ∈ entries) :
    ∃ name part, entry.1.plain = .whole name ∧ entry.2.letters = .ok part ∧
      textLetters name ++ ':' :: part <:+: whole := by
  obtain ⟨members, beside, rfl⟩ := exists_members once spelled
  obtain ⟨written, listed, named, part⟩ := exists_of_forall₂_left beside ((arranged_perm entries).symm.subset member)
  exact ⟨written.1, written.2, named, part, infix_object listed⟩

private theorem exists_part_of_list {items : List Value} {whole : List Char}
    (spelled : (list items).letters = .ok whole)
    {item : Value} (member : item ∈ items) : ∃ part, item.letters = .ok part ∧ part <:+: whole := by
  obtain ⟨parts, beside, rfl⟩ := exists_parts spelled
  obtain ⟨part, listed, spelled⟩ := exists_of_forall₂_left beside member
  exact ⟨part, spelled, infix_array listed⟩

private theorem exists_part {value part : Value} (apart : value.TextsApart) {whole : List Char}
    (spelled : value.letters = .ok whole) (isPart : part ∈ value.parts) :
    ∃ letters, part.letters = .ok letters ∧ letters <:+: whole := by
  cases value with
  | list items => exact exists_part_of_list spelled isPart
  | tuple items => exact exists_part_of_list (letters_tuple items ▸ spelled) isPart
  | map entries =>
    obtain ⟨once, _⟩ := apart
    obtain ⟨entry, listed, rfl⟩ := List.mem_map.mp isPart
    obtain ⟨name, letters, _, written, inside⟩ := exists_member once spelled listed
    refine ⟨letters, written, (List.IsInfix.trans ?_ inside)⟩
    exact ⟨textLetters name ++ [':'], [], by simp⟩
  | null | bool | int | double | text | bytes | date | moment | set | again => cases isPart

private theorem exists_part_within {value part : Value} (apart : value.TextsApart) {whole : List Char}
    (spelled : value.letters = .ok whole) (within : Within part value) :
    part.TextsApart ∧ ∃ letters, part.letters = .ok letters ∧ letters <:+: whole := by
  induction within generalizing whole with
  | here => exact ⟨apart, whole, spelled, List.infix_rfl⟩
  | under isPart _ ih =>
    obtain ⟨letters, written, inside⟩ := exists_part apart spelled isPart
    obtain ⟨_, parts⟩ := apart
    obtain ⟨apart, piece, spelled, deeper⟩ := ih (parts _ isPart) written
    exact ⟨apart, piece, spelled, deeper.trans inside⟩

theorem fault?_of_part {value part : Value} (faultless : value.fault? = none) (isPart : part ∈ value.parts) :
    part.fault? = none := by
  cases value with
  | list items => exact (faultAmong?_eq_none_iff items).mp faultless part isPart
  | tuple items => exact (faultAmong?_eq_none_iff items).mp faultless part isPart
  | map entries =>
    obtain ⟨entry, listed, rfl⟩ := List.mem_map.mp isPart
    exact ((faultUnder?_eq_none_iff entries).mp faultless entry listed).2
  | null | bool | int | double | text | bytes | date | moment | set | again => cases isPart

private theorem fault?_of_within {value part : Value} (faultless : value.fault? = none) (within : Within part value) :
    part.fault? = none := by
  induction within with
  | here => exact faultless
  | under isPart _ ih => exact ih (fault?_of_part faultless isPart)

end Pieces

section Text

variable {value other : Value} {text : String}

theorem canonical_eq_ok_iff : value.canonical = .ok text ↔ value.fault? = none ∧ value.letters = .ok text.toList := by
  rw [canonical]
  cases value.fault? with
  | some fault => simp
  | none =>
    cases value.letters with
    | error => simp [Functor.map, Except.map]
    | ok letters =>
      have same : String.ofList letters = text ↔ letters = text.toList :=
        ⟨fun same => by rw [← same, String.toList_ofList], fun same => by rw [same, String.ofList_toList]⟩
      simpa [Functor.map, Except.map] using same

private theorem fingerprint_congr (same : other.canonical = value.canonical) :
    other.fingerprint = value.fingerprint := by
  rw [fingerprint, fingerprint, same]

private theorem canonical_of_reordered (accepted : value.canonical = .ok text)
    (reordered : value.settled.Reordered other) :
    other.canonical = .ok text := by
  obtain ⟨faultless, spelled⟩ := canonical_eq_ok_iff.mp accepted
  refine canonical_eq_ok_iff.mpr ⟨reordered.fault?_eq_none (fault?_settled faultless), ?_⟩
  have settled : value.settled.letters = .ok text.toList := (letters_settled value).trans spelled
  rw [(textsApart_settled value).letters_eq reordered ⟨_, settled⟩, settled]

private theorem exists_written {entries : List (Value × Value)} (accepted : value.canonical = .ok text)
    (within : Within (map entries) value.settled) {entry : Value × Value} (member : entry ∈ entries) :
    ∃ name part, entry.1.plain = .whole name ∧ entry.2.canonical = .ok part ∧
      textLetters name ++ ':' :: part.toList <:+: text.toList := by
  obtain ⟨faultless, spelled⟩ := canonical_eq_ok_iff.mp accepted
  rw [← letters_settled] at spelled
  obtain ⟨⟨once, _⟩, whole, written, inside⟩ := exists_part_within (textsApart_settled value) spelled within
  obtain ⟨name, part, named, spelledPart, piece⟩ := exists_member once written member
  have fine := fault?_of_part (fault?_of_within (fault?_settled faultless) within) (List.mem_map_of_mem member)
  refine ⟨name, .ofList part, named, canonical_eq_ok_iff.mpr ⟨fine, ?_⟩, ?_⟩
  · rw [String.toList_ofList, spelledPart]
  · rw [String.toList_ofList]
    exact piece.trans inside

end Text

/-- Of the entries of a mapping with one key text the last is written, which is every entry exactly if the keys of each
mapping have different texts. The order of the entries that are written makes no difference to the text or the digest,
and each of them stands in the text. -/
theorem canonical_settled {value : Value} {text : String} (accepted : value.canonical = .ok text) :
    (∀ other, value.settled.Reordered other →
      other.canonical = .ok text ∧ other.fingerprint = value.fingerprint) ∧
      (∀ entries, Within (map entries) value.settled → ∀ entry ∈ entries, ∃ name part,
        entry.1.plain = .whole name ∧ entry.2.canonical = .ok part ∧
          textLetters name ++ ':' :: part.toList <:+: text.toList) ∧
        (value.settled = value ↔ value.TextsApart) := by
  refine ⟨fun other reordered => ?_, fun entries within entry member => ?_, settled_eq_self_iff⟩
  · have same := canonical_of_reordered accepted reordered
    exact ⟨same, fingerprint_congr (same.trans accepted.symm)⟩
  · exact exists_written accepted within member

/-- A number and a text as keys that look the same, in one order or the other. -/
def crossedKeys (swap : Bool) : Value :=
  let entries : List (Value × Value) := [(int 1, text "a"), (text "1", text "b")]
  map (if swap then entries.reverse else entries)

private theorem canonical_crossedKeys (swap : Bool) :
    (crossedKeys swap).canonical = .ok (if swap then "\x7b\"1\":\"a\"\x7d" else "\x7b\"1\":\"b\"\x7d") := by
  have hasText : (int 1).hasOverlong = false := by decide +kernel
  have bare : (text "1").hasOverlong = false := rfl
  rw [canonical_eq_ok_iff]
  cases swap with
  | false => exact ⟨by simp [crossedKeys, fault?, faultUnder?, hasText, bare], by cbv⟩
  | true => exact ⟨by simp [crossedKeys, fault?, faultUnder?, hasText, bare], by cbv⟩

theorem canonical_settled_crossedKeys : (crossedKeys false).canonical = .ok "\x7b\"1\":\"b\"\x7d" ∧
    (crossedKeys false).settled = map [(text "1", text "b")] ∧
      (map [(text "1", text "b")]).fingerprint = (crossedKeys false).fingerprint := by
  have written : (crossedKeys false).canonical = .ok "\x7b\"1\":\"b\"\x7d" := canonical_crossedKeys false
  have settled : (crossedKeys false).settled = map [(text "1", text "b")] := by cbv
  exact ⟨written, settled, ((canonical_settled written).1 _ (settled ▸ .same _)).2⟩

/-- Such entries replace each other: the order makes a difference, and one of them is lost. -/
theorem crossedKeys_ordered : (crossedKeys false).Reordered (crossedKeys true) ∧
    (crossedKeys false).canonical = .ok "\x7b\"1\":\"b\"\x7d" ∧
      (crossedKeys true).canonical = .ok "\x7b\"1\":\"a\"\x7d" ∧
        (crossedKeys false).fingerprint ≠ (crossedKeys true).fingerprint := by
  refine ⟨?_, canonical_crossedKeys false, canonical_crossedKeys true, ?_⟩
  · exact .map rfl (.cons (.same _) (.cons (.same _) .nil)) (List.reverse_perm _).symm
  · rw [fingerprint, fingerprint, canonical_crossedKeys, canonical_crossedKeys]
    simp only [bind, Except.bind, pure, Except.pure, ne_eq, Except.ok.injEq]
    decide +kernel

end Value
end BoxTree
