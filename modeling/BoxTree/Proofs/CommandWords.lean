import BoxTree.Command.Request
import Mathlib

/-! Command lines that differ in the command's name alone. Another command is asked for with the same words, and a
command that knows all switches of another reads its words in the same way. -/

namespace BoxTree.Command

namespace Words

variable {switches fewer more : List Switch} {word spelling : String} {rest left : List String}

/-- The words that an option takes from those after it, whichever come then. -/
def Takes {γ : Type} (read : List String → Option (γ × List String)) (rest : List String) (given : γ)
    (left : List String) : Prop :=
  ∃ taken, rest = taken ++ left ∧ ∀ others, read (taken ++ others) = some (given, others)

private theorem takes_valued? {switch : Switch} {value : Option String} {given : String × Option String}
    (found : valued? switch value rest = some (given, left)) : Takes (valued? switch value) rest given left := by
  unfold valued? at found
  split at found
  next takes =>
    cases found
    exact ⟨[], rfl, fun others => by simp [valued?, takes]⟩
  next value rest takes =>
    cases found
    exact ⟨[value], rfl, fun others => by simp [valued?, takes]⟩
  next => cases found
  next takes =>
    cases found
    exact ⟨[], rfl, fun others => by simp [valued?, takes]⟩
  next => cases found

private theorem takes_map {γ δ : Type} (read : List String → Option (γ × List String)) {shown : γ → δ} {given : δ}
    (takes : ∀ own, read rest = some (own, left) → Takes read rest own left)
    (found : (read rest).map (Prod.map shown id) = some (given, left)) :
    Takes (fun rest => (read rest).map (Prod.map shown id)) rest given left := by
  obtain ⟨⟨own, others⟩, read, same⟩ := Option.map_eq_some_iff.mp found
  cases same
  obtain ⟨taken, same, always⟩ := takes own read
  exact ⟨taken, same, fun others => by simp [always]⟩

private theorem letters?_cons (c : Char) (letters : List Char) :
    letters? switches rest (c :: letters) =
      match Switch.find? switches (String.ofList ['-', c]) with
      | none => none
      | some switch =>
        if switch.takesValue then
          (valued? switch (if letters.isEmpty then none else some (String.ofList letters)) rest).map (Prod.map ([·]) id)
        else (letters? switches rest letters).map (Prod.map ((switch.name, none) :: ·) id) := by
  rw [letters?]
  cases Switch.find? switches (String.ofList ['-', c]) with
  | none => rfl
  | some switch =>
    cases letters? switches rest letters <;> rfl

private theorem takes_letters? {letters : List Char} {given : List (String × Option String)}
    (found : letters? switches rest letters = some (given, left)) :
    Takes (letters? switches · letters) rest given left := by
  induction letters generalizing given with
  | nil =>
    cases found
    exact ⟨[], rfl, fun others => rfl⟩
  | cons c letters ih =>
    rw [letters?_cons] at found
    cases known : Switch.find? switches (String.ofList ['-', c]) with
    | none => rw [known] at found; cases found
    | some switch =>
      rw [known] at found
      dsimp only at found
      split at found
      next takes =>
        obtain ⟨taken, same, always⟩ := takes_map (valued? switch _) (fun _ => takes_valued?) found
        refine ⟨taken, same, fun others => ?_⟩
        simpa only [letters?_cons, known, takes, if_true] using always others
      next takes =>
        obtain ⟨taken, same, always⟩ := takes_map (letters? switches · letters) (fun _ => ih) found
        refine ⟨taken, same, fun others => ?_⟩
        simpa only [letters?_cons, known, takes, Bool.false_eq_true, if_false] using always others

private theorem options?_eq (switches : List Switch) (word : String) (rest : List String) :
    options? switches word rest =
      match if isLong (spellingAndValue word).1 then Switch.find? switches (spellingAndValue word).1 else none with
      | some switch => (valued? switch (spellingAndValue word).2 rest).map (Prod.map ([·]) id)
      | none => if "--".toList.isPrefixOf word.toList then none else letters? switches rest (word.toList.drop 1) := rfl

private theorem takes_options? {given : List (String × Option String)}
    (found : options? switches word rest = some (given, left)) : Takes (options? switches word) rest given left := by
  rw [options?_eq] at found
  split at found
  next switch known =>
    obtain ⟨taken, same, always⟩ := takes_map (valued? switch _) (fun _ => takes_valued?) found
    refine ⟨taken, same, fun others => ?_⟩
    simpa only [options?_eq, known] using always others
  next known =>
    split at found
    next => cases found
    next notLong =>
      obtain ⟨taken, same, always⟩ := takes_letters? found
      refine ⟨taken, same, fun others => ?_⟩
      simpa only [options?_eq, known, notLong, Bool.false_eq_true, if_false] using always others

private theorem readFrom?_option {mixed : Bool} {fuel : Nat} (noDashes : word ≠ "--") (option : isOption word = true) :
    readFrom? switches mixed (fuel + 1) (word :: rest) =
      (options? switches word rest).bind fun found =>
        (readFrom? switches mixed fuel found.2).map fun words => ⟨found.1 ++ words.given, words.plain⟩ := by
  rw [readFrom?, if_neg (by simpa using noDashes), if_pos option]
  cases options? switches word rest with
  | none => rfl
  | some found =>
    obtain ⟨given, left⟩ := found
    dsimp only [bind, Option.bind]
    cases readFrom? switches mixed fuel left <;> rfl

/-- Words up to a plain one are read in the same way before any other plain one. -/
theorem readFrom?_plain {fuel : Nat} {words : List String} {given : List (String × Option String)} {command : String}
    {after : List String} (read : readFrom? switches false fuel words = some ⟨given, command :: after⟩) :
    ∃ front, words = front ++ command :: after ∧ ∀ other, other ≠ "--" → isOption other = false →
      readFrom? switches false fuel (front ++ other :: after) = some ⟨given, other :: after⟩ := by
  induction fuel generalizing words given with
  | zero => cases read
  | succ fuel ih =>
    cases words with
    | nil => cases read
    | cons word rest =>
      by_cases dashes : word = "--"
      · simp only [readFrom?, dashes, BEq.rfl, if_true] at read
        cases read
        refine ⟨[word], rfl, ?_⟩
        intro other _ _
        simp [readFrom?, dashes]
      · cases option : isOption word with
        | true =>
          rw [readFrom?_option dashes option] at read
          obtain ⟨⟨first, left⟩, found, read⟩ := Option.bind_eq_some_iff.mp read
          obtain ⟨⟨later, plain⟩, others, same⟩ := Option.map_eq_some_iff.mp read
          cases same
          obtain ⟨taken, rfl, always⟩ := takes_options? found
          obtain ⟨front, rfl, swaps⟩ := ih others
          refine ⟨word :: taken ++ front, by simp, ?_⟩
          intro other noDashes plain
          have later := swaps other noDashes plain
          have swapped := always (front ++ other :: after)
          simp only [List.cons_append, List.append_assoc, readFrom?_option dashes option, swapped]
          simp [later]
        | false =>
          simp only [readFrom?, beq_iff_eq, dashes, option, Bool.false_eq_true, if_false] at read
          cases read
          refine ⟨[], rfl, ?_⟩
          intro other noDashes plain
          simp [readFrom?, noDashes, plain]

private theorem isPrefixOf_of_spelling {start : List Char}
    (spelled : start.isPrefixOf (spellingAndValue word).1.toList = true) : start.isPrefixOf word.toList = true := by
  rw [List.isPrefixOf_iff_prefix] at spelled ⊢
  apply spelled.trans
  rw [spellingAndValue, List.span_eq_takeWhile_dropWhile]
  split
  next cut =>
    obtain ⟨rfl, _⟩ := Prod.mk.inj cut
    rw [String.toList_ofList]
    exact List.takeWhile_prefix _
  next => exact List.prefix_refl _

/-- Switches among which others are found, where a spelling that is new is one with two dashes. -/
structure Extends (fewer more : List Switch) : Prop where
  same : ∀ {spelling switch}, Switch.find? fewer spelling = some switch → Switch.find? more spelling = some switch
  dashed : ∀ {spelling}, isLong spelling = true → Switch.find? fewer spelling = none →
    Switch.find? more spelling = none ∨ "--".toList.isPrefixOf spelling.toList = true

section Extension

variable (wider : Extends fewer more)
include wider

private theorem letters?_extend {letters : List Char} {found : List (String × Option String) × List String}
    (read : letters? fewer rest letters = some found) : letters? more rest letters = some found := by
  induction letters generalizing found with
  | nil => exact read
  | cons c letters ih =>
    rw [letters?_cons] at read ⊢
    cases known : Switch.find? fewer (String.ofList ['-', c]) with
    | none => rw [known] at read; cases read
    | some switch =>
      rw [known] at read
      rw [wider.same known]
      dsimp only at read ⊢
      split at read
      next takes => rw [if_pos takes, read]
      next takes =>
        obtain ⟨others, readOthers, same⟩ := Option.map_eq_some_iff.mp read
        rw [if_neg takes, ih readOthers]
        exact congrArg some same

private theorem options?_extend {found : List (String × Option String) × List String}
    (read : options? fewer word rest = some found) : options? more word rest = some found := by
  rw [options?_eq] at read ⊢
  split at read
  next switch known =>
    split at known
    next long =>
      rw [if_pos long, wider.same known]
      exact read
    next => cases known
  next unknown =>
    split at read
    next => cases read
    next oneDash =>
      have stillUnknown :
          (if isLong (spellingAndValue word).1 then Switch.find? more (spellingAndValue word).1 else none) = none := by
        split at unknown
        next long =>
          rw [if_pos long]
          rcases wider.dashed long unknown with absent | dashes
          · exact absent
          · exact absurd (isPrefixOf_of_spelling dashes) oneDash
        next short => rw [if_neg short]
      rw [stillUnknown]
      dsimp only
      rw [if_neg oneDash]
      exact letters?_extend wider read

private theorem readFrom?_extend {mixed : Bool} {fuel : Nat} {words : List String} {found : Words}
    (read : readFrom? fewer mixed fuel words = some found) : readFrom? more mixed fuel words = some found := by
  induction fuel generalizing words found with
  | zero => cases read
  | succ fuel ih =>
    cases words with
    | nil => exact read
    | cons word rest =>
      by_cases dashes : word = "--"
      · rw [readFrom?] at read ⊢
        simpa [dashes] using read
      · cases option : isOption word with
        | true =>
          rw [readFrom?_option dashes option] at read ⊢
          obtain ⟨first, readFirst, later⟩ := Option.bind_eq_some_iff.mp read
          obtain ⟨others, readOthers, same⟩ := Option.map_eq_some_iff.mp later
          simp [options?_extend wider readFirst, ih readOthers, same]
        | false =>
          simp only [readFrom?, beq_iff_eq, dashes, option, Bool.false_eq_true, if_false] at read ⊢
          split at read
          next mixes =>
            obtain ⟨others, readOthers, same⟩ := Option.bind_eq_some_iff.mp read
            rw [if_pos mixes, ih readOthers]
            exact same
          next single => rw [if_neg single, read]

end Extension

section Names

/-- Every option is given under the name of a switch. -/
def Named (switches : List Switch) (given : List (String × Option String)) : Prop :=
  ∀ entry ∈ given, ∃ switch ∈ switches, entry.1 = switch.name

private theorem named_append {given others : List (String × Option String)} (first : Named switches given)
    (second : Named switches others) : Named switches (given ++ others) := by
  intro entry member
  rcases List.mem_append.mp member with member | member
  · exact first entry member
  · exact second entry member

private theorem named_valued? {switch : Switch} (known : switch ∈ switches) {value : Option String}
    {found : List (String × Option String) × List String}
    (read : (valued? switch value rest).map (Prod.map ([·]) id) = some found) : Named switches found.1 := by
  obtain ⟨⟨given, left⟩, read, rfl⟩ := Option.map_eq_some_iff.mp read
  have name : given.1 = switch.name := by
    unfold valued? at read
    split at read <;> cases read <;> rfl
  exact List.forall_mem_singleton.mpr ⟨switch, known, name⟩

private theorem named_letters? {letters : List Char} {found : List (String × Option String) × List String}
    (read : letters? switches rest letters = some found) : Named switches found.1 := by
  induction letters generalizing found with
  | nil =>
    cases read
    exact nofun
  | cons c letters ih =>
    rw [letters?_cons] at read
    cases known : Switch.find? switches (String.ofList ['-', c]) with
    | none => rw [known] at read; cases read
    | some switch =>
      rw [known] at read
      dsimp only at read
      have member : switch ∈ switches := List.mem_of_find?_eq_some known
      split at read
      next => exact named_valued? member read
      next =>
        obtain ⟨others, readOthers, rfl⟩ := Option.map_eq_some_iff.mp read
        exact List.forall_mem_cons.mpr ⟨⟨switch, member, rfl⟩, ih readOthers⟩

private theorem named_options? {found : List (String × Option String) × List String}
    (read : options? switches word rest = some found) : Named switches found.1 := by
  rw [options?_eq] at read
  split at read
  next switch known =>
    split at known
    next => exact named_valued? (List.mem_of_find?_eq_some known) read
    next => cases known
  next =>
    split at read
    next => cases read
    next => exact named_letters? read

private theorem named_readFrom? {mixed : Bool} {fuel : Nat} {words : List String} {found : Words}
    (read : readFrom? switches mixed fuel words = some found) : Named switches found.given := by
  induction fuel generalizing words found with
  | zero => cases read
  | succ fuel ih =>
    cases words with
    | nil => cases read; exact nofun
    | cons word rest =>
      by_cases dashes : word = "--"
      · simp only [readFrom?, dashes, BEq.rfl, if_true] at read
        cases read
        exact nofun
      · cases option : isOption word with
        | true =>
          rw [readFrom?_option dashes option] at read
          obtain ⟨first, readFirst, later⟩ := Option.bind_eq_some_iff.mp read
          obtain ⟨others, readOthers, rfl⟩ := Option.map_eq_some_iff.mp later
          exact named_append (named_options? readFirst) (ih readOthers)
        | false =>
          simp only [readFrom?, beq_iff_eq, dashes, option, Bool.false_eq_true, if_false] at read
          split at read
          next =>
            obtain ⟨others, readOthers, same⟩ := Option.bind_eq_some_iff.mp read
            cases same
            exact (ih readOthers : Named switches others.given)
          next =>
            cases read
            exact nofun

private theorem has_eq_false {words : Words} {name : String} (named : Named switches words.given)
    (foreign : ∀ switch ∈ switches, switch.name ≠ name) : words.has name = false := by
  rw [has, List.any_eq_false]
  intro entry member same
  obtain ⟨switch, known, own⟩ := named entry member
  exact foreign switch known (own ▸ eq_of_beq same)

private theorem value?_eq_none {words : Words} {name : String} (named : Named switches words.given)
    (foreign : ∀ switch ∈ switches, switch.name ≠ name) : words.value? name = none := by
  have absent : words.given.reverse.lookup name = none := by
    rw [List.lookup_eq_none_iff]
    intro entry member
    obtain ⟨switch, known, own⟩ := named entry (List.mem_reverse.mp member)
    exact bne_iff_ne.mpr fun same => foreign switch known (own ▸ same.symm)
  rw [value?, absent]
  rfl

end Names

end Words

private theorem extends_compile : Words.Extends (Task.switches "validate") (Task.switches "compile") where
  same := by
    intro spelling switch found
    have member := List.mem_of_find?_eq_some found
    have spelled := List.find?_some found
    simp [Task.switches, settingsSwitch, helpSwitch] at member
    rcases member with rfl | rfl
    · simp at spelled
      rcases spelled with rfl | rfl <;> rfl
    · simp at spelled
      subst spelled
      rfl
  dashed := by
    intro spelling long unknown
    by_cases new : spelling = "--output" ∨ spelling = "--allow-partial"
    · right
      rcases new with rfl | rfl <;> rfl
    · left
      have notShort : spelling ≠ "-o" := by
        rintro rfl
        exact absurd long (by decide)
      rw [Switch.find?, List.find?_eq_none] at unknown ⊢
      simp [Task.switches, settingsSwitch, helpSwitch, outputSwitch] at unknown new ⊢
      exact ⟨unknown.1, ⟨new.1, notShort⟩, new.2, unknown.2⟩

/-- What validation is asked for, compilation is asked for with the same words. -/
theorem Task.read_compile {after : List String} {path : Path} {settings : Option Path}
    (wanted : Task.read "validate" after = .ok (.validate path settings)) :
    Task.read "compile" after = .ok (.compile path settings none false) := by
  rw [Task.read] at wanted ⊢
  cases found : Words.read? (switches "validate") true after with
  | none => rw [found] at wanted; cases wanted
  | some words =>
    have foundAgain : Words.read? (switches "compile") true after = some words :=
      Words.readFrom?_extend extends_compile found
    rw [found] at wanted
    rw [foundAgain]
    have named := Words.named_readFrom? found
    have noOutput : words.value? "--output" = none := Words.value?_eq_none named (by decide)
    have complete : words.has "--allow-partial" = false := Words.has_eq_false named (by decide)
    have sameCheck : check "compile" words = check "validate" words := rfl
    dsimp only [Option.elim, bind, Except.bind] at wanted ⊢
    rw [sameCheck]
    split at wanted
    next => cases wanted
    next noHelp =>
      rw [if_neg noHelp]
      cases checked : check "validate" words with
      | error => rw [checked] at wanted; cases wanted
      | ok =>
        rw [checked] at wanted
        obtain ⟨given, plain⟩ := words
        rcases plain with _ | ⟨graph, _ | ⟨second, others⟩⟩
        · cases wanted
        · cases wanted
          simp only [ofWords?, noOutput, complete]
          rfl
        · cases wanted

private theorem plain_of_mem_commands :
    ∀ command ∈ Task.commands, command ≠ "--" ∧ Words.isOption command = false := by decide

/-- Another command is asked for with the same words around it. -/
theorem Request.read_other {before after : List String} {general : General} {command other : String}
    (asked : Request.read (before ++ command :: after) = .ok (.run general command after))
    (known : other ∈ Task.commands) :
    Request.read (before ++ other :: after) = .ok (.run general other after) := by
  rw [Request.read, if_neg (by simp)] at asked ⊢
  cases found : Words.read? General.switches false (before ++ command :: after) with
  | none => rw [found] at asked; cases asked
  | some words =>
    obtain ⟨given, plain⟩ := words
    rw [found] at asked
    dsimp only [Option.elim, bind, Except.bind] at asked
    split at asked
    next first isFirst => split at asked <;> cases asked
    next noneFirst =>
      split at asked
      next => cases asked
      next checked =>
        cases plain with
        | nil => cases asked
        | cons first rest =>
          dsimp only at asked
          split at asked
          next =>
            cases asked
            obtain ⟨front, same, swaps⟩ := Words.readFrom?_plain found
            obtain rfl : before = front := List.append_cancel_right same
            have swapped :
                Words.read? General.switches false (before ++ other :: after) = some ⟨given, other :: after⟩ := by
              rw [Words.read?, List.length_append, List.length_cons, ← List.length_cons (a := command),
                ← List.length_append]
              exact swaps other (plain_of_mem_commands other known).1 (plain_of_mem_commands other known).2
            rw [swapped]
            dsimp only [Option.elim, bind, Except.bind]
            rw [noneFirst]
            have checkedAgain :
                (Words.value? ⟨given, other :: after⟩ "--env-file").forM Misuse.checkPath = .ok _ := checked
            dsimp only
            rw [checkedAgain]
            dsimp only
            rw [if_pos (List.contains_iff_mem.mpr known)]
            rfl
          next => cases asked

end BoxTree.Command
