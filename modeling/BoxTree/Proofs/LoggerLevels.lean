import BoxTree.Log.Level
import Mathlib.Data.List.Basic

/-! The levels of loggers after one configuration follows another. The later one sets the root again and the loggers it
keeps quiet, but a level that the earlier one gave to another logger stays, and counts for the loggers below it. -/

namespace BoxTree.Log

def Config.quietLevel (config : Config) : Severity := config.level.max .warning

private theorem Config.quietLevel_ne_none (config : Config) : config.quietLevel ≠ .none := by
  unfold quietLevel
  cases config.level <;> decide

namespace Loggers

private theorem filter_range_cases (keep : Nat → Bool) (count : Nat) :
    (List.range count).filter keep = [] ∨
      ∃ last < count, keep last ∧ (List.range count).filter keep = (List.range last).filter keep ++ [last] := by
  induction count with
  | zero => exact .inl rfl
  | succ count ih =>
    rw [List.range_succ, List.filter_append]
    cases kept : keep count with
    | true => exact .inr ⟨count, Nat.lt_succ_self count, kept, by simp [kept]⟩
    | false =>
      rcases ih with none | ⟨last, below, isKept, split⟩
      · exact .inl (by simp [none, kept])
      · exact .inr ⟨last, Nat.lt_succ_of_lt below, isKept, by simp [split, kept]⟩

/-- Above a logger there is nothing, or a logger with a shorter name and what is above that. -/
theorem lineage_cases (name : String) :
    lineage name = [name] ∨ ∃ parent : String, parent.length < name.length ∧
      lineage name = name :: lineage parent := by
  let isDot (letters : List Char) (place : Nat) : Bool := 0 < place && letters[place]? == some '.'
  have unfolded (name : String) : lineage name = name ::
      ((List.range name.toList.length).filter (isDot name.toList)).reverse.map
        fun place => String.ofList (name.toList.take place) := rfl
  rcases filter_range_cases (isDot name.toList) name.toList.length with none | ⟨last, below, _, split⟩
  · exact .inl (by rw [unfolded, none]; rfl)
  · have short : (name.toList.take last).length = last := List.length_take_of_le (Nat.le_of_lt below)
    refine .inr ⟨String.ofList (name.toList.take last), ?_, ?_⟩
    · rwa [String.length_ofList, short, ← String.length_toList]
    · have dots : (List.range last).filter (isDot (name.toList.take last)) =
          (List.range last).filter (isDot name.toList) := by
        refine List.filter_congr fun place listed => ?_
        simp only [isDot, List.getElem?_take_of_lt (List.mem_range.mp listed)]
      rw [unfolded, unfolded (String.ofList _), String.toList_ofList, short, split, dots]
      rw [List.reverse_append, List.reverse_singleton, List.singleton_append, List.map_cons]
      congr 2
      refine List.map_congr_left fun place listed => ?_
      have earlier := List.mem_range.mp (List.mem_filter.mp (List.mem_reverse.mp listed)).1
      rw [List.take_take, Nat.min_eq_left (Nat.le_of_lt earlier)]

/-- A logger's own level, if it counts. -/
def ownLevel? (loggers : Loggers) (name : String) : Option Severity := (loggers.own.lookup name).filter (· ≠ .none)

variable {loggers : Loggers} {name : String}

/-- The nearest level that counts, in a list of loggers, or else that of the root. -/
def nearest (loggers : Loggers) (names : List String) : Severity :=
  (names.findSome? loggers.ownLevel?).getD loggers.root

private theorem effective_eq_nearest (below : isRoot name = false) :
    loggers.effective name = loggers.nearest (lineage name) := by
  have found (names : List String) :
      (names.filterMap fun name => loggers.own.lookup name).find? (· ≠ .none) = names.findSome? loggers.ownLevel? := by
    induction names with
    | nil => rfl
    | cons first rest ih =>
      rw [List.findSome?_cons, ← ih, List.filterMap_cons, ownLevel?]
      cases loggers.own.lookup first with
      | none => rfl
      | some level => cases level <;> rfl
  rw [effective, if_neg (by simp [below]), nearest, ← found]

private theorem nearest_lineage {level : Severity} (own : loggers.ownLevel? name = some level) :
    loggers.nearest (lineage name) = level := by
  rw [nearest, lineage, List.findSome?_cons, own]
  rfl

private theorem lookup_filter_ne {entries : List (String × Severity)} {other : String} (differ : other ≠ name) :
    (entries.filter (·.1 ≠ name)).lookup other = entries.lookup other := by
  induction entries with
  | nil => rfl
  | cons entry rest ih =>
    rw [List.filter_cons, List.lookup_cons]
    split
    next => rw [List.lookup_cons, ih]
    next dropped =>
      have same : entry.1 = name := by simpa using dropped
      have unlike : (other == entry.1) = false := beq_eq_false_iff_ne.mpr (same ▸ differ)
      rw [ih, unlike]

private theorem lookup_set (loggers : Loggers) (name : String) (level : Severity) (other : String) :
    (loggers.set name level).own.lookup other =
      if isRoot name = false ∧ other = name then some level else loggers.own.lookup other := by
  unfold set
  split
  next root => simp [root]
  next below =>
    rw [Bool.not_eq_true] at below
    by_cases same : other = name
    · simp [same, below]
    · have unlike : (other == name) = false := beq_eq_false_iff_ne.mpr same
      rw [List.lookup_cons, unlike, if_neg fun given => same given.2]
      exact lookup_filter_ne same

private theorem root_set (loggers : Loggers) (name : String) (level : Severity) :
    (loggers.set name level).root = if isRoot name then level else loggers.root := by
  unfold set
  split <;> rfl

/-- Levels given to several loggers, one after the other. -/
theorem foldl_set (level : Severity) (names : List String) (loggers : Loggers) :
    let last := names.foldl (fun loggers name => loggers.set name level) loggers
    last.root = (if names.any isRoot then level else loggers.root) ∧
      ∀ other, last.own.lookup other =
        if other ∈ names ∧ isRoot other = false then some level else loggers.own.lookup other := by
  induction names generalizing loggers with
  | nil => simp
  | cons name rest ih =>
    obtain ⟨root, own⟩ := ih (loggers.set name level)
    refine ⟨?_, fun other => ?_⟩
    · rw [List.foldl_cons, root, root_set, List.any_cons]
      cases isRoot name <;> cases rest.any isRoot <;> rfl
    · rw [List.foldl_cons, own, lookup_set]
      by_cases later : other ∈ rest ∧ isRoot other = false
      · simp [later.1, later.2]
      · by_cases same : other = name
        · subst same
          cases isRoot other <;> simp
        · simp [same]

section Configure

variable (config : Config)

private theorem root_configure (loggers : Loggers) :
    (loggers.configure config).root = if config.quiet.any isRoot then config.quietLevel else config.level := by
  obtain ⟨root, _⟩ := foldl_set config.quietLevel config.quiet (loggers.set "" config.level)
  exact root

private theorem ownLevel?_configure (loggers : Loggers) (name : String) :
    (loggers.configure config).ownLevel? name =
      if name ∈ config.quiet ∧ isRoot name = false then some config.quietLevel else loggers.ownLevel? name := by
  obtain ⟨_, own⟩ := foldl_set config.quietLevel config.quiet (loggers.set "" config.level)
  have found : (loggers.configure config).own.lookup name =
      if name ∈ config.quiet ∧ isRoot name = false then some config.quietLevel else loggers.own.lookup name := own name
  rw [ownLevel?, found]
  split
  next => simp [config.quietLevel_ne_none]
  next => rfl

end Configure

/-- A logger that the earlier configuration keeps quiet and the later one does not mention. -/
def LeftBehind (first second : Config) (name : String) : Prop :=
  name ∈ first.quiet ∧ name ∉ second.quiet ∧ isRoot name = false

section Twice

variable {first second : Config}

private theorem ownLevel?_of_leftBehind (loggers : Loggers) (behind : LeftBehind first second name) :
    ((loggers.configure first).configure second).ownLevel? name = some first.quietLevel := by
  obtain ⟨quiet, unmentioned, below⟩ := behind
  rw [ownLevel?_configure, if_neg fun given => unmentioned given.1, ownLevel?_configure, if_pos ⟨quiet, below⟩]

private theorem ownLevel?_of_not_leftBehind (loggers : Loggers) (notBehind : ¬ LeftBehind first second name) :
    ((loggers.configure first).configure second).ownLevel? name = (loggers.configure second).ownLevel? name := by
  rw [ownLevel?_configure, ownLevel?_configure, ownLevel?_configure]
  split
  next => rfl
  next unmentioned =>
    exact if_neg fun quiet => notBehind ⟨quiet.1, fun listed => unmentioned ⟨listed, quiet.2⟩, quiet.2⟩

private theorem root_configure_configure (loggers : Loggers) :
    ((loggers.configure first).configure second).root = (loggers.configure second).root := by
  rw [root_configure, root_configure]

/-- Up the lineage of a logger, one that is left behind has the level it would have anyway, and any other one has the
same level of its own, or none. -/
theorem nearest_configure_configure
    (anyway : ∀ name, LeftBehind first second name → (loggers.configure second).effective name = first.quietLevel)
    (name : String) :
    ((loggers.configure first).configure second).nearest (lineage name) =
      (loggers.configure second).nearest (lineage name) := by
  induction size : name.length using Nat.strongRecOn generalizing name with
  | ind size ih =>
    by_cases behind : LeftBehind first second name
    · rw [nearest_lineage (ownLevel?_of_leftBehind loggers behind), ← effective_eq_nearest behind.2.2,
        anyway name behind]
    · have own := ownLevel?_of_not_leftBehind loggers behind
      rcases lineage_cases name with alone | ⟨parent, shorter, above⟩
      · simp only [nearest, alone, List.findSome?_cons, List.findSome?_nil, own, root_configure_configure]
      · have rest := ih parent.length (size ▸ shorter) parent rfl
        simp only [nearest, above, List.findSome?_cons, own] at rest ⊢
        split
        next => rfl
        next => exact rest

/-- The later of two configurations decides about every logger exactly if each logger that only the earlier one keeps
quiet would have the level it was left with anyway. -/
theorem later_configuration_decides_iff (first second : Config) (loggers : Loggers) :
    (∀ name, ((loggers.configure first).configure second).effective name = (loggers.configure second).effective name) ↔
      ∀ name, LeftBehind first second name → (loggers.configure second).effective name = first.quietLevel := by
  constructor
  · intro same name behind
    rw [← same name, effective_eq_nearest behind.2.2, nearest_lineage (ownLevel?_of_leftBehind loggers behind)]
  · intro anyway name
    cases root : isRoot name with
    | true => rw [effective, effective, if_pos root, if_pos root, root_configure_configure]
    | false => rw [effective_eq_nearest root, effective_eq_nearest root, nearest_configure_configure anyway]

end Twice

/-- A later configuration without quiet loggers does not let a quiet one speak again: it and the loggers below it still
pass only warnings. -/
example : ((initial.configure ⟨.debug, false, ["a"]⟩).configure ⟨.debug, false, []⟩).effective "a.b" = .warning ∧
    (initial.configure ⟨.debug, false, []⟩).effective "a.b" = .debug := by
  decide

end Loggers
end BoxTree.Log
