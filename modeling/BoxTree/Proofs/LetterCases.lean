import BoxTree.Proofs.Wordings
import BoxTree.Text.Case
import Mathlib.Data.List.Basic

/-! What the tables of letter case say of every letter: one that changes in upper case becomes letters of which some are
upper and none is lower or title case, and one that changes in lower case becomes letters of which some are lower. So
whether a text in upper or in lower case counts as upper case is told by its letters as they were. -/

namespace BoxTree.Text

namespace CaseRun

/-- What `covers` says, by comparisons of numerals that evaluate at once. -/
def hits (run : CaseRun) (code : Nat) : Bool :=
  Nat.ble run.first code && Nat.ble code run.last && Nat.beq ((code - run.first) % run.step) 0

def inside (inner outer : CaseRun) : Bool :=
  Nat.ble outer.first inner.first && Nat.ble inner.last outer.last &&
    Nat.beq ((inner.first - outer.first) % outer.step) 0 && Nat.beq (inner.step % outer.step) 0

/-- All codes of a run are even, or all are odd. -/
def steady (run : CaseRun) : Bool := Nat.beq (run.step % 2) 0 || Nat.beq run.first run.last

/-- Two runs have no code in common: one ends before the other begins, or one has even codes and the other odd ones. -/
def apart (left right : CaseRun) : Bool :=
  Nat.blt left.last right.first || Nat.blt right.last left.first ||
    (left.steady && right.steady && !Nat.beq (left.first % 2) (right.first % 2))

def sound (run : CaseRun) : Bool :=
  Nat.blt run.last 0xd800 || (Nat.blt 0xdfff run.first && Nat.blt run.last 0x110000)

def codes (run : CaseRun) : List Nat := List.range' run.first ((run.last - run.first) / run.step + 1) run.step

def hit (runs : List CaseRun) (code : Nat) : Bool := runs.any (·.hits code)

/-- All codes of a run are among those of letters, which one run has or several have together. -/
def amid (letters : List CaseRun) (run : CaseRun) : Bool := letters.any run.inside || run.codes.all (hit letters)

def image (run : CaseRun) : CaseRun :=
  ⟨(run.first + run.shift).toNat, (run.first + run.shift).toNat + (run.last - run.first), run.step, 0⟩

def lead (runs letters : List CaseRun) : Bool :=
  runs.all fun run => decide (0 ≤ run.first + run.shift) && run.image.amid letters

private theorem hits_eq (run : CaseRun) (code : Nat) : run.hits code = run.covers code := by
  rw [Bool.eq_iff_iff]
  simp [hits, covers, Nat.ble_eq]

private theorem hit_eq (runs : List CaseRun) (code : Nat) : hit runs code = runs.any (·.covers code) := by
  simp only [hit, hits_eq]

private theorem covers_iff {run : CaseRun} {code : Nat} :
    run.covers code ↔ run.first ≤ code ∧ code ≤ run.last ∧ run.step ∣ code - run.first := by
  simp [covers, and_assoc, Nat.dvd_iff_mod_eq_zero]

private theorem covers_of_inside {inner outer : CaseRun} {code : Nat} (inside : inner.inside outer)
    (covered : inner.covers code) : outer.covers code := by
  simp only [CaseRun.inside, Bool.and_eq_true, Nat.ble_eq, Nat.beq_eq, ← Nat.dvd_iff_mod_eq_zero] at inside
  obtain ⟨⟨⟨first, last⟩, start⟩, step⟩ := inside
  obtain ⟨above, below, place⟩ := covers_iff.mp covered
  refine covers_iff.mpr ⟨Nat.le_trans first above, Nat.le_trans below last, ?_⟩
  have split : code - outer.first = code - inner.first + (inner.first - outer.first) := by omega
  rw [split]
  exact Nat.dvd_add (Nat.dvd_trans step place) start

private theorem mem_codes {run : CaseRun} {code : Nat} (covered : run.covers code) : code ∈ run.codes := by
  obtain ⟨above, below, place⟩ := covers_iff.mp covered
  refine List.mem_range'.mpr ⟨(code - run.first) / run.step, ?_, ?_⟩
  · exact Nat.lt_succ_of_le (Nat.div_le_div_right (Nat.sub_le_sub_right below _))
  · rw [Nat.mul_div_cancel' place]
    omega

private theorem any_covers_of_amid {letters : List CaseRun} {run : CaseRun} {code : Nat} (amid : run.amid letters)
    (covered : run.covers code) : letters.any (·.covers code) := by
  rw [CaseRun.amid, Bool.or_eq_true, List.any_eq_true, List.all_eq_true] at amid
  rcases amid with ⟨outer, member, inside⟩ | each
  · exact List.any_eq_true.mpr ⟨outer, member, covers_of_inside inside covered⟩
  · exact hit_eq letters code ▸ each code (mem_codes covered)

private theorem mod_two_of_steady {run : CaseRun} {code : Nat} (steady : run.steady) (covered : run.covers code) :
    code % 2 = run.first % 2 := by
  obtain ⟨above, below, place⟩ := covers_iff.mp covered
  rw [CaseRun.steady, Bool.or_eq_true, Nat.beq_eq, Nat.beq_eq] at steady
  rcases steady with even | single
  · have even := Nat.dvd_trans (Nat.dvd_iff_mod_eq_zero.mpr even) place
    omega
  · omega

private theorem not_covers_of_apart {left right : CaseRun} {code : Nat} (apart : left.apart right)
    (covered : left.covers code) : ¬ right.covers code := by
  intro again
  obtain ⟨above, below, _⟩ := covers_iff.mp covered
  obtain ⟨rightAbove, rightBelow, _⟩ := covers_iff.mp again
  simp only [CaseRun.apart, Bool.or_eq_true, Bool.and_eq_true, Bool.not_eq_true', Nat.blt_eq] at apart
  rcases apart with (before | after) | ⟨⟨leftSteady, rightSteady⟩, differ⟩
  · omega
  · omega
  · have same := (mod_two_of_steady leftSteady covered).symm.trans (mod_two_of_steady rightSteady again)
    rw [same, Nat.beq_refl] at differ
    cases differ

private theorem covers_image {run : CaseRun} {code : Nat} (covered : run.covers code)
    (lands : 0 ≤ run.first + run.shift) :
    run.image.covers (code + run.shift).toNat := by
  obtain ⟨above, below, place⟩ := covers_iff.mp covered
  have moved : (code + run.shift).toNat = (run.first + run.shift).toNat + (code - run.first) := by omega
  refine covers_iff.mpr ⟨?_, ?_, ?_⟩
  · exact moved ▸ Nat.le_add_right _ _
  · rw [moved]
    exact Nat.add_le_add_left (Nat.sub_le_sub_right below _) _
  · rw [moved]
    simpa [image] using place

private theorem any_covers_of_lead {runs letters : List CaseRun} (leads : lead runs letters) {run : CaseRun}
    (member : run ∈ runs)
    {code : Nat} (covered : run.covers code) : letters.any (·.covers (code + run.shift).toNat) := by
  have lands := List.all_eq_true.mp leads run member
  rw [Bool.and_eq_true, decide_eq_true_iff] at lands
  exact any_covers_of_amid lands.2 (covers_image covered lands.1)

private theorem toNat_of_sound {run : CaseRun} {code : Nat} (sound : run.sound) (covered : run.covers code) :
    (Char.ofNat code).toNat = code := by
  obtain ⟨above, below, _⟩ := covers_iff.mp covered
  simp only [CaseRun.sound, Bool.or_eq_true, Bool.and_eq_true, Nat.blt_eq] at sound
  have valid : code.isValidChar := by
    rcases sound with low | ⟨high, last⟩
    · exact .inl (by omega)
    · exact .inr ⟨by omega, by omega⟩
  rw [Char.ofNat, dif_pos valid]
  rfl

end CaseRun

section Tables

def titleLetterRuns : List CaseRun := titleLetters.map fun range => ⟨range.1, range.2, 1, 0⟩

/-- What the tables say of each other, run by run; only runs that spread over several others are told code by code.
Besides upper-case letters, several letters in upper case may hold marks, and every title-case letter changes in upper and
in lower case. What stands in for a half has no case. -/
structure TablesAgree : Prop where
  upperRuns : CaseRun.lead upperRuns upperLetters = true
  lowerRuns : CaseRun.lead lowerRuns lowerLetters = true
  sound : (upperLetters ++ lowerLetters).all (·.sound) = true
  apart : (upperLetters.all fun upper => (titleLetterRuns ++ lowerLetters).all upper.apart) = true
  upperExpansions : (upperExpansions.all fun entry =>
    entry.2.any (CaseRun.hit upperLetters) && entry.2.all fun code => Nat.blt code 0xd800 &&
      (CaseRun.hit upperLetters code || !CaseRun.hit (titleLetterRuns ++ lowerLetters) code)) = true
  lowerExpansions : (lowerExpansions.all fun entry => entry.2.any (CaseRun.hit lowerLetters)) = true
  titleLetters : ((titleLetterRuns.flatMap CaseRun.codes).all fun code =>
    upperLetter (Char.ofNat code) != [Char.ofNat code] && lowerLetter (Char.ofNat code) != [Char.ofNat code]) = true
  sigmas : lowerLetter 'Σ' = ['σ'] ∧ isLowerLetter 'σ' ∧ isLowerLetter 'ς'
  standIn : upperLetter '\uFFFD' = ['\uFFFD'] ∧ lowerLetter '\uFFFD' = ['\uFFFD']

private theorem tables_agree : TablesAgree := by
  constructor <;> decide +kernel

private theorem isTitleLetter_eq (c : Char) : isTitleLetter c = titleLetterRuns.any (·.covers c.toNat) := by
  rw [isTitleLetter, within, titleLetterRuns, List.any_map]
  congr 1
  funext range
  simp [CaseRun.covers, Nat.mod_one]

end Tables

section Letters

variable {c : Char}

def isPlain (c : Char) : Bool := !isLowerLetter c && !isTitleLetter c

private theorem isPlain_eq (c : Char) : isPlain c = !(titleLetterRuns ++ lowerLetters).any (·.covers c.toNat) := by
  rw [isPlain, isTitleLetter_eq, isLowerLetter, List.any_append, Bool.not_or, Bool.and_comm]

private theorem isPlain_of_isUpperLetter (upper : isUpperLetter c) : isPlain c := by
  obtain ⟨run, member, covered⟩ := List.any_eq_true.mp upper
  have apart := List.all_eq_true.mp (List.all_eq_true.mp (TablesAgree.apart tables_agree) run member)
  rw [isPlain_eq, Bool.not_eq_true', List.any_eq_false]
  exact fun other listed => CaseRun.not_covers_of_apart (apart other listed) covered

private theorem toNat_ofNat_of_any {letters : List CaseRun} {code : Nat} (sound : ∀ run ∈ letters, run.sound)
    (covered : letters.any (·.covers code)) : (Char.ofNat code).toNat = code := by
  obtain ⟨run, member, covers⟩ := List.any_eq_true.mp covered
  exact CaseRun.toNat_of_sound (sound run member) covers

private theorem isUpperLetter_ofNat {code : Nat} (covered : upperLetters.any (·.covers code)) :
    isUpperLetter (Char.ofNat code) := by
  have sound := List.forall_mem_append.mp (List.all_eq_true.mp (TablesAgree.sound tables_agree))
  rwa [isUpperLetter, toNat_ofNat_of_any sound.1 covered]

private theorem isLowerLetter_ofNat {code : Nat} (covered : lowerLetters.any (·.covers code)) :
    isLowerLetter (Char.ofNat code) := by
  have sound := List.forall_mem_append.mp (List.all_eq_true.mp (TablesAgree.sound tables_agree))
  rwa [isLowerLetter, toNat_ofNat_of_any sound.2 covered]

/-- A letter stays as it is, becomes several letters, or moves with a run. -/
theorem move_cases (expansions : List (Nat × List Nat)) (runs : List CaseRun) (c : Char) :
    move expansions runs c = [c] ∨
      (∃ codes, (c.toNat, codes) ∈ expansions ∧ move expansions runs c = codes.map Char.ofNat) ∨
      ∃ run ∈ runs, run.covers c.toNat ∧ move expansions runs c = [Char.ofNat (c.toNat + run.shift).toNat] := by
  unfold move
  split
  next codes found =>
    obtain ⟨before, after, split, _⟩ := List.lookup_eq_some_iff.mp found
    exact .inr (.inl ⟨codes, split ▸ List.mem_append_right _ List.mem_cons_self, rfl⟩)
  next =>
    split
    next run found =>
      have covers : run.covers c.toNat := by simpa using List.find?_some found
      exact .inr (.inr ⟨run, List.mem_of_find?_eq_some found, covers, rfl⟩)
    next => exact .inl rfl

/-- The letters that a letter becomes in upper case, if it changes. -/
theorem upperLetter_of_ne (changed : upperLetter c ≠ [c]) :
    (∃ d ∈ upperLetter c, isUpperLetter d) ∧ ∀ d ∈ upperLetter c, isPlain d := by
  rcases move_cases upperExpansions upperRuns c with same | ⟨codes, member, made⟩ | ⟨run, member, covered, made⟩
  · exact absurd same changed
  · have leads := List.all_eq_true.mp (TablesAgree.upperExpansions tables_agree) _ member
    rw [Bool.and_eq_true, List.any_eq_true, List.all_eq_true] at leads
    obtain ⟨⟨code, listed, upper⟩, each⟩ := leads
    rw [upperLetter, made]
    refine ⟨⟨_, List.mem_map_of_mem listed, isUpperLetter_ofNat (CaseRun.hit_eq _ _ ▸ upper)⟩, ?_⟩
    intro d isMade
    obtain ⟨other, otherListed, rfl⟩ := List.mem_map.mp isMade
    have plain := each other otherListed
    rw [Bool.and_eq_true, Bool.or_eq_true, Nat.blt_eq, CaseRun.hit_eq, CaseRun.hit_eq] at plain
    rcases plain.2 with upper | neither
    · exact isPlain_of_isUpperLetter (isUpperLetter_ofNat upper)
    · have code : (Char.ofNat other).toNat = other := by
        rw [Char.ofNat, dif_pos (.inl plain.1)]
        rfl
      rwa [isPlain_eq, code]
  · have upper := isUpperLetter_ofNat (CaseRun.any_covers_of_lead (TablesAgree.upperRuns tables_agree) member covered)
    rw [upperLetter, made]
    simpa using ⟨upper, isPlain_of_isUpperLetter upper⟩

private theorem lowerLetter_of_ne (changed : lowerLetter c ≠ [c]) : ∃ d ∈ lowerLetter c, isLowerLetter d := by
  rcases move_cases lowerExpansions lowerRuns c with same | ⟨codes, member, made⟩ | ⟨run, member, covered, made⟩
  · exact absurd same changed
  · have leads := List.all_eq_true.mp (TablesAgree.lowerExpansions tables_agree) _ member
    obtain ⟨code, listed, lower⟩ := List.any_eq_true.mp leads
    rw [lowerLetter, made]
    exact ⟨_, List.mem_map_of_mem listed, isLowerLetter_ofNat (CaseRun.hit_eq _ _ ▸ lower)⟩
  · have lower := isLowerLetter_ofNat (CaseRun.any_covers_of_lead (TablesAgree.lowerRuns tables_agree) member covered)
    rw [lowerLetter, made]
    exact ⟨_, List.mem_singleton_self _, lower⟩

private theorem changes_of_isTitleLetter (title : isTitleLetter c) : upperLetter c ≠ [c] ∧ lowerLetter c ≠ [c] := by
  rw [isTitleLetter_eq] at title
  obtain ⟨run, member, covered⟩ := List.any_eq_true.mp title
  have listed := List.mem_flatMap.mpr ⟨run, member, CaseRun.mem_codes covered⟩
  have change := List.all_eq_true.mp (TablesAgree.titleLetters tables_agree) _ listed
  simpa using change

end Letters

section Texts

private theorem isUpper_ofList (letters : List Char) :
    isUpper (String.ofList letters) ↔ (∃ c ∈ letters, isUpperLetter c) ∧ ∀ c ∈ letters, isPlain c := by
  rw [isUpper, String.toList_ofList, Bool.and_eq_true, List.any_eq_true, List.all_eq_true]
  rfl

/-- A text in upper case counts as such if a letter was upper case or became so, and no letter stayed in lower case. -/
theorem isUpper_upper (text : String) :
    isUpper (upper text) ↔ (∃ c ∈ text.toList, isUpperLetter c ∨ upperLetter c ≠ [c]) ∧
      ∀ c ∈ text.toList, isLowerLetter c → upperLetter c ≠ [c] := by
  have some (c : Char) : (∃ d ∈ upperLetter c, isUpperLetter d) ↔ isUpperLetter c ∨ upperLetter c ≠ [c] := by
    by_cases same : upperLetter c = [c]
    · simp [same]
    · simp [same, (upperLetter_of_ne same).1]
  have all (c : Char) : (∀ d ∈ upperLetter c, isPlain d) ↔ (isLowerLetter c → upperLetter c ≠ [c]) := by
    by_cases same : upperLetter c = [c]
    · have untitled : isTitleLetter c = false := by
        rw [← Bool.not_eq_true]
        exact fun title => (changes_of_isTitleLetter title).1 same
      simp [same, isPlain, untitled]
    · exact iff_of_true (upperLetter_of_ne same).2 fun _ => same
  rw [upper, isUpper_ofList]
  refine and_congr ?_ ?_
  · simp only [List.mem_flatMap, ← some]
    exact ⟨fun ⟨d, ⟨c, member, made⟩, isUpper⟩ => ⟨c, member, d, made, isUpper⟩,
      fun ⟨c, member, d, made, isUpper⟩ => ⟨d, ⟨c, member, made⟩, isUpper⟩⟩
  · simp only [List.mem_flatMap, ← all]
    exact ⟨fun given c member d made => given d ⟨c, member, made⟩,
      fun given d ⟨c, member, made⟩ => given c member d made⟩

private theorem lowerFrom_eq_self {before letters : List Char} (same : ∀ c ∈ letters, lowerLetter c = [c]) :
    lowerFrom before letters = letters := by
  induction letters generalizing before with
  | nil => rfl
  | cons c rest ih =>
    obtain ⟨first, rest⟩ := List.forall_mem_cons.mp same
    have notSigma : (c == 'Σ') = false := by
      rw [beq_eq_false_iff_ne]
      rintro rfl
      cases first.symm.trans (TablesAgree.sigmas tables_agree).1
    rw [lowerFrom, lowerBetween, notSigma, first, ih rest]
    rfl

private theorem exists_isLowerLetter_lowerFrom {before letters : List Char} {c : Char} (member : c ∈ letters)
    (changed : lowerLetter c ≠ [c]) : ∃ d ∈ lowerFrom before letters, isLowerLetter d := by
  obtain ⟨_, middle, last⟩ := TablesAgree.sigmas tables_agree
  induction letters generalizing before with
  | nil => cases member
  | cons first rest ih =>
    simp only [lowerFrom, lowerBetween, List.mem_append]
    rcases List.mem_cons.mp member with rfl | later
    · split
      · split
        · exact ⟨'ς', .inl List.mem_cons_self, last⟩
        · exact ⟨'σ', .inl List.mem_cons_self, middle⟩
      · obtain ⟨d, made, lower⟩ := lowerLetter_of_ne changed
        exact ⟨d, .inl made, lower⟩
    · obtain ⟨d, made, lower⟩ := ih later
      exact ⟨d, .inr made, lower⟩

/-- A text in lower case counts as upper case if it has an upper-case letter and no letter with a lower-case form. -/
theorem isUpper_lower (text : String) :
    isUpper (lower text) ↔ (∃ c ∈ text.toList, isUpperLetter c) ∧
      ∀ c ∈ text.toList, ¬ isLowerLetter c ∧ lowerLetter c = [c] := by
  rw [lower, isUpper_ofList]
  by_cases same : ∀ c ∈ text.toList, lowerLetter c = [c]
  · rw [lowerFrom_eq_self same]
    refine and_congr_right fun _ => forall₂_congr fun c member => ?_
    have untitled : isTitleLetter c = false := by
      rw [← Bool.not_eq_true]
      exact fun title => (changes_of_isTitleLetter title).2 (same c member)
    simp [isPlain, untitled, same c member]
  · refine iff_of_false ?_ fun given => same fun c member => (given.2 c member).2
    rintro ⟨_, plain⟩
    push Not at same
    obtain ⟨c, member, changed⟩ := same
    obtain ⟨d, made, lower⟩ : ∃ d ∈ lowerFrom [] text.toList, isLowerLetter d :=
      exists_isLowerLetter_lowerFrom member changed
    have unlowered := plain d made
    rw [isPlain, lower] at unlowered
    cases unlowered

end Texts

end BoxTree.Text

namespace BoxTree

/-! Halves have no case, and neither has what stands in for them. -/

private theorem lowerBetween_standIn (before after : List Char) :
    Text.lowerBetween before '\uFFFD' after = ['\uFFFD'] := (Text.TablesAgree.standIn Text.tables_agree).2

private theorem map_standIn_change (letter : Letter) {become : Char → List Char} (same : become '\uFFFD' = ['\uFFFD']) :
    (letter.change become).map Letter.standIn = become letter.standIn := by
  cases letter with
  | char c =>
    rw [Letter.change, List.map_map]
    exact List.map_id _
  | half => exact same.symm

private theorem map_standIn_lowerFrom (before : List Char) (letters : List Letter) :
    (Letter.lowerFrom before letters).map Letter.standIn = Text.lowerFrom before (letters.map Letter.standIn) := by
  induction letters generalizing before with
  | nil => rfl
  | cons letter rest ih =>
    rw [Letter.lowerFrom, List.map_append, map_standIn_change letter (lowerBetween_standIn _ _), ih]
    rfl

namespace Wording

theorem standIns_upper (content : Wording) : content.upper.standIns = content.standIns.flatMap Text.upperLetter := by
  cases content with
  | whole content => exact String.toList_ofList
  | broken content =>
    rw [upper, standIns_eq, letters_ofLetters, List.map_flatMap, standIns, List.flatMap_map]
    simp only [map_standIn_change _ (Text.TablesAgree.standIn Text.tables_agree).1]

theorem standIns_lower (content : Wording) : content.lower.standIns = Text.lowerFrom [] content.standIns := by
  cases content with
  | whole content => exact String.toList_ofList
  | broken content => rw [lower, standIns_eq, letters_ofLetters, map_standIn_lowerFrom, standIns]

end Wording
end BoxTree
