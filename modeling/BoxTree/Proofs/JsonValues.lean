import BoxTree.Markup.Json.Reader
import BoxTree.Proofs.Lookups
import BoxTree.Tree.Codec

/-! What JSON documents hold. No value in them stands inside itself, so comparing two of them comes to an end. -/

namespace BoxTree

namespace Value

/-- The values of JSON documents. -/
inductive IsJson : Value → Prop where
  | null : IsJson null
  | bool (truth : Bool) : IsJson (bool truth)
  | int (number : Int) : IsJson (int number)
  | double (number : Double) : IsJson (double number)
  | text (content : Wording) : IsJson (text content)
  | list {items : List Value} (each : ∀ item ∈ items, IsJson item) : IsJson (list items)
  | map {entries : Fields} (names : ∀ entry ∈ entries, ∃ name, entry.1 = Value.text name)
      (values : ∀ entry ∈ entries, IsJson entry.2) : IsJson (map entries)

variable {left right value : Value} {met : List (Nat × Nat)}

theorem IsJson.elements {items : List Value} (json : value.IsJson) (parts : value.elements? = some items) :
    ∀ item ∈ items, item.IsJson := by
  cases json with
  | null | bool | int | double => cases parts
  | text content =>
    cases parts
    exact List.forall_mem_map.mpr fun _ _ => .text _
  | list each =>
    cases parts
    exact each
  | map names =>
    cases parts
    refine List.forall_mem_map.mpr fun entry member => ?_
    obtain ⟨name, same⟩ := names entry member
    exact same ▸ .text name

theorem IsJson.getText? {fields : Fields} {key : String} (json : (Value.map fields).IsJson)
    (found : Entries.getText? fields key = some value) : value.IsJson := by
  obtain ⟨entry, under, rfl⟩ := Option.map_eq_some_iff.mp found
  cases json with
  | map _ values => exact values entry (List.mem_of_find?_eq_some under)

private theorem IsJson.unfolded (json : value.IsJson) : value.unfolded = .ok value := by cases json <;> rfl

section Equality

private theorem exists_alikeItems {items others : List Value}
    (each : ∀ item ∈ items, ∀ other ∈ others, ∃ answer, alike met item other = .ok answer) :
    ∃ answer, alikeItems met items others = .ok answer := by
  induction items generalizing others with
  | nil => cases others <;> exact ⟨_, rfl⟩
  | cons item rest ih =>
    cases others with
    | nil => exact ⟨_, rfl⟩
    | cons other others =>
      obtain ⟨same, found⟩ := each item List.mem_cons_self other List.mem_cons_self
      have later := ih fun item member other among =>
        each item (List.mem_cons_of_mem _ member) other (List.mem_cons_of_mem _ among)
      rw [alikeItems, found]
      cases same with
      | true => exact later
      | false => exact ⟨false, rfl⟩

private theorem exists_alikeEntries {entries others : Fields}
    (each : ∀ entry ∈ entries, ∀ other ∈ others, ∃ answer, alike met entry.2 other.2 = .ok answer) :
    ∃ answer, alikeEntries met entries others = .ok answer := by
  induction entries with
  | nil => exact ⟨_, rfl⟩
  | cons entry rest ih =>
    have first : ∃ answer, alikeEntry met entry others = .ok answer := by
      rw [alikeEntry]
      cases found : others.find? fun other => same entry.1 other.1 with
      | none => exact ⟨false, rfl⟩
      | some other => exact each entry List.mem_cons_self other (List.mem_of_find?_eq_some found)
    obtain ⟨same, found⟩ := first
    rw [alikeEntries, found]
    cases same with
    | true => exact ih fun entry member => each entry (List.mem_cons_of_mem _ member)
    | false => exact ⟨false, rfl⟩

private theorem IsJson.exists_alike (isLeft : left.IsJson) (isRight : right.IsJson) :
    ∃ answer, alike met left right = .ok answer := by
  induction isLeft generalizing right with
  | null | bool | int | double | text => exact ⟨_, rfl⟩
  | @list items _ ih =>
    rw [alike, isRight.unfolded]
    cases isRight with
    | @list others each =>
      simp only [bind, Except.bind]
      split
      · exact exists_alikeItems fun item member other among => ih item member (each other among)
      · exact ⟨false, rfl⟩
    | _ => exact ⟨false, rfl⟩
  | @map entries _ _ ih =>
    rw [alike, isRight.unfolded]
    cases isRight with
    | @map others _ each =>
      simp only [bind, Except.bind]
      split
      · exact exists_alikeEntries fun entry member other among => ih entry member (each other among)
      · exact ⟨false, rfl⟩
    | _ => exact ⟨false, rfl⟩

end Equality

/-- A comparison that comes to an end. -/
def Ends {α : Type} (result : Except Incomparable α) : Prop := result ≠ .error .endless

section Order

variable {α β : Type}

private theorem Ends.ok (value : α) : Ends (.ok value) := nofun

private theorem Ends.kinds (left right : String) : Ends (.error (.kinds left right) : Except Incomparable α) := nofun

private theorem Ends.bind {step : Except Incomparable α} {next : α → Except Incomparable β} (first : Ends step)
    (rest : ∀ value, step = .ok value → Ends (next value)) : Ends (step >>= next) := by
  cases step with
  | error reason => exact fun same => first (congrArg Except.error (Except.error.inj same))
  | ok value => exact rest value rfl

private theorem Ends.foldlM {ι : Type} {items : List ι} {step : α → ι → Except Incomparable α} (kept : α → Prop)
    {start : α} (first : kept start) (each : ∀ state item, kept state → item ∈ items →
      Ends (step state item) ∧ ∀ next, step state item = .ok next → kept next) : Ends (items.foldlM step start) := by
  induction items generalizing start with
  | nil => exact .ok start
  | cons item rest ih =>
    obtain ⟨ends, keeps⟩ := each start item first List.mem_cons_self
    rw [List.foldlM_cons]
    exact ends.bind fun next made => ih (keeps next made) fun state item kept member =>
      each state item kept (List.mem_cons_of_mem _ member)

private theorem lessItems_ends {items others : List Value}
    (alike : ∀ item ∈ items, ∀ other ∈ others, ∃ answer, alike [] item other = .ok answer)
    (less : ∀ item ∈ items, ∀ other ∈ others, Ends (lessAmong met item other)) : Ends (lessItems met items others) := by
  induction items generalizing others with
  | nil => cases others <;> exact .ok _
  | cons item rest ih =>
    cases others with
    | nil => exact .ok _
    | cons other others =>
      obtain ⟨same, found⟩ := alike item List.mem_cons_self other List.mem_cons_self
      rw [lessItems, found]
      cases same with
      | true =>
        refine ih (fun item member other among => ?_) fun item member other among => ?_
        · exact alike item (List.mem_cons_of_mem _ member) other (List.mem_cons_of_mem _ among)
        · exact less item (List.mem_cons_of_mem _ member) other (List.mem_cons_of_mem _ among)
      | false => exact less item List.mem_cons_self other List.mem_cons_self

private theorem IsJson.lessAmong_ends (isLeft : left.IsJson) (isRight : right.IsJson) :
    Ends (lessAmong met left right) := by
  induction isLeft generalizing right with
  | null | bool | int | double | text | map =>
    cases isRight <;> first | exact .ok _ | exact .kinds _ _
  | @list items each ih =>
    rw [lessAmong, isRight.unfolded]
    cases isRight with
    | list others =>
      exact lessItems_ends (fun item member other among => (each item member).exists_alike (others other among))
        fun item member other among => ih item member (others other among)
    | _ => exact .kinds _ _

private theorem placeAmong_ends {sorted : Array Value} (isJson : value.IsJson)
    (all : ∀ other ∈ sorted.toList, other.IsJson) (tries low high : Nat) :
    Ends (placeAmong value sorted tries low high) := by
  induction tries generalizing low high with
  | zero => exact .ok low
  | succ tries ih =>
    rw [placeAmong]
    split
    · have middle : (sorted.getD (low + (high - low) / 2) .null).IsJson := by
        rw [Array.getD]
        split
        · exact all _ (Array.getElem_mem_toList _)
        · exact .null
      apply Ends.bind (isJson.lessAmong_ends middle)
      intro answer _
      cases answer with
      | true => exact ih _ _
      | false => exact ih _ _
    · exact .ok low

private theorem runLength_ends {descending : Bool} {last : Value} {rest : List Value} (isJson : last.IsJson)
    (all : ∀ other ∈ rest, other.IsJson) : Ends (runLength descending last rest) := by
  induction rest generalizing last with
  | nil => exact .ok 0
  | cons next rest ih =>
    obtain ⟨isNext, later⟩ := List.forall_mem_cons.mp all
    apply Ends.bind (isNext.lessAmong_ends isJson)
    intro answer _
    split
    · exact (ih isNext later).bind fun length _ => .ok _
    · exact .ok 0

/-- Values of JSON documents are put in order, or some two of them have none. -/
theorem sorted_ends {keys : List Value} (all : ∀ key ∈ keys, key.IsJson) : Ends (sorted keys) := by
  rcases keys with _ | ⟨first, _ | ⟨second, rest⟩⟩
  · exact .ok []
  · exact .ok [first]
  · obtain ⟨isFirst, later⟩ := List.forall_mem_cons.mp all
    obtain ⟨isSecond, others⟩ := List.forall_mem_cons.mp later
    apply Ends.bind (isSecond.lessAmong_ends isFirst)
    intro descending _
    apply (runLength_ends isSecond others).bind
    intro length _
    have run : ∀ other ∈ first :: second :: rest.take length, other.IsJson :=
      List.forall_mem_cons.mpr ⟨isFirst, List.forall_mem_cons.mpr
        ⟨isSecond, fun other member => others other (List.mem_of_mem_take member)⟩⟩
    apply (Ends.foldlM (fun done : Array Value => ∀ other ∈ done.toList, other.IsJson) ?_ ?_).bind fun _ _ => .ok _
    · split
      · exact fun other member => run other (List.mem_reverse.mp member)
      · exact run
    · intro done value kept member
      have isValue := others value (List.mem_of_mem_drop member)
      refine ⟨(placeAmong_ends isValue kept _ _ _).bind fun _ _ => .ok _, ?_⟩
      intro next made
      obtain ⟨place, _, made⟩ := bind_eq_ok_iff.mp made
      cases made
      rintro other among
      rcases List.mem_append.mp among with before | after
      · exact kept other (List.mem_of_mem_take before)
      · rcases List.mem_cons.mp after with rfl | after
        · exact isValue
        · exact kept other (List.mem_of_mem_drop after)

end Order

end Value

namespace Json

open Value

private theorem mem_put {key value : Value} {fields : Fields} {entry : Value × Value}
    (member : entry ∈ Entries.put key value fields) :
    (entry.1 = key ∨ ∃ other ∈ fields, other.1 = entry.1) ∧ (entry.2 = value ∨ entry ∈ fields) := by
  induction fields with
  | nil =>
    obtain rfl := List.mem_singleton.mp member
    exact ⟨.inl rfl, .inl rfl⟩
  | cons first rest ih =>
    rw [Entries.put] at member
    split at member
    · rcases List.mem_cons.mp member with rfl | later
      · exact ⟨.inr ⟨first, List.mem_cons_self, rfl⟩, .inl rfl⟩
      · exact ⟨.inr ⟨entry, List.mem_cons_of_mem _ later, rfl⟩, .inr (List.mem_cons_of_mem _ later)⟩
    · rcases List.mem_cons.mp member with rfl | later
      · exact ⟨.inr ⟨first, List.mem_cons_self, rfl⟩, .inr List.mem_cons_self⟩
      · obtain ⟨name, content⟩ := ih later
        exact ⟨name.imp_right fun ⟨other, listed, same⟩ => ⟨other, List.mem_cons_of_mem _ listed, same⟩,
          content.imp_right (List.mem_cons_of_mem _)⟩

private theorem isJson_put (name : Wording) {value : Value} {fields : Fields} (isMap : (map fields).IsJson)
    (isJson : value.IsJson) : (map (Entries.put (text name) value fields)).IsJson := by
  cases isMap with
  | map names values =>
    refine .map (fun entry member => ?_) fun entry member => ?_
    · rcases (mem_put member).1 with same | ⟨other, listed, same⟩
      · exact ⟨name, same⟩
      · exact same ▸ names other listed
    · rcases (mem_put member).2 with same | listed
      · exact same ▸ isJson
      · exact values entry listed

private theorem isJson_readNumber {negative : Bool} {letters rest : List Char} {value : Value}
    (found : readNumber negative letters = .ok (some (value, rest))) : value.IsJson := by
  unfold readNumber at found
  extract_lets whole at found
  generalize whole = parts at found
  rcases parts with ⟨_ | ⟨digit, digits⟩, afterWhole⟩
  · cases found
  · simp only at found
    split at found
    next =>
      split at found
      next => cases found
      next => cases found; exact .int _
    next => cases found; exact .double _
    next => cases found; exact .double _

private theorem isJson_readScalar {letters rest : List Char} {value : Value}
    (found : readScalar letters = .ok (value, rest)) : value.IsJson := by
  have words : ∀ word ∈ words, word.2.IsJson := by
    simp only [Json.words, List.forall_mem_cons]
    exact ⟨.null, .bool true, .bool false, .double _, .double _, .double _, List.forall_mem_nil _⟩
  unfold readScalar at found
  split at found
  next spelled =>
    cases found
    obtain ⟨word, listed, same⟩ := Option.map_eq_some_iff.mp spelled
    cases same
    exact words word (List.mem_of_find?_eq_some listed)
  next =>
    obtain ⟨number?, read, found⟩ := bind_eq_ok_iff.mp found
    cases number? with
    | none => cases found
    | some number =>
      cases found
      exact isJson_readNumber read

/-- What is read in so many steps are values of JSON documents. -/
private structure ReadsJson (fuel : Nat) : Prop where
  value : ∀ {letters value rest}, readValue fuel letters = .ok (value, rest) → value.IsJson
  items : ∀ {letters items rest}, readItems fuel letters = .ok (items, rest) → ∀ item ∈ items, item.IsJson
  members : ∀ {fields letters read rest}, (map fields).IsJson → readMembers fuel fields letters = .ok (read, rest) →
    (map read).IsJson

private theorem isJson_empty : (map []).IsJson := .map (List.forall_mem_nil _) (List.forall_mem_nil _)

namespace ReadsJson

variable {fuel : Nat} (reads : ReadsJson fuel) {letters rest : List Char}
include reads

private theorem value_succ {value : Value} (found : readValue (fuel + 1) letters = .ok (value, rest)) :
    value.IsJson := by
  unfold readValue at found
  split at found
  next =>
    obtain ⟨_, _, found⟩ := bind_eq_ok_iff.mp found
    cases found
    exact .text _
  next =>
    split at found
    next => cases found; exact .list (List.forall_mem_nil _)
    next =>
      obtain ⟨_, items, found⟩ := bind_eq_ok_iff.mp found
      cases found
      exact .list (reads.items items)
  next =>
    split at found
    next => cases found; exact isJson_empty
    next =>
      obtain ⟨_, members, found⟩ := bind_eq_ok_iff.mp found
      cases found
      exact reads.members isJson_empty members
  next => exact isJson_readScalar found

private theorem items_succ {items : List Value} (found : readItems (fuel + 1) letters = .ok (items, rest)) :
    ∀ item ∈ items, item.IsJson := by
  obtain ⟨⟨item, after⟩, first, found⟩ := bind_eq_ok_iff.mp found
  have isItem := reads.value first
  simp only at found
  split at found
  next => cases found; exact List.forall_mem_singleton.mpr isItem
  next =>
    obtain ⟨_, more, found⟩ := bind_eq_ok_iff.mp found
    cases found
    exact List.forall_mem_cons.mpr ⟨isItem, reads.items more⟩
  next => cases found

private theorem members_succ {fields read : Fields} (isMap : (map fields).IsJson)
    (found : readMembers (fuel + 1) fields letters = .ok (read, rest)) : (map read).IsJson := by
  unfold readMembers at found
  split at found
  next =>
    obtain ⟨⟨name, afterName⟩, _, found⟩ := bind_eq_ok_iff.mp found
    simp only at found
    split at found
    next =>
      obtain ⟨⟨value, after⟩, content, found⟩ := bind_eq_ok_iff.mp found
      have isMore := isJson_put name isMap (reads.value content)
      simp only at found
      split at found
      next => cases found; exact isMore
      next => exact reads.members isMore found
      next => cases found
    next => cases found
  next => cases found

end ReadsJson

private theorem readsJson (fuel : Nat) : ReadsJson fuel := by
  induction fuel with
  | zero => exact ⟨nofun, nofun, nofun⟩
  | succ fuel ih => exact ⟨ih.value_succ, ih.items_succ, ih.members_succ⟩

/-- What is read from a document is a value of JSON documents. -/
theorem isJson_of_read {document : String} {value : Value} (read : Json.read document = .ok value) : value.IsJson := by
  simp only [Json.read] at read
  split at read
  next found =>
    cases read
    rw [readDocument] at found
    split at found
    next => cases found
    next =>
      obtain ⟨⟨value, after⟩, content, found⟩ := bind_eq_ok_iff.mp found
      simp only at found
      split at found
      next =>
        cases found
        exact (readsJson _).value content
      next => cases found
  next => cases read
  next => cases read

end Json
end BoxTree
