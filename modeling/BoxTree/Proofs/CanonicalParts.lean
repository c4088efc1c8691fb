import BoxTree.Compile.Document
import BoxTree.Proofs.CanonicalIdentity
import BoxTree.Proofs.Wordings

/-! Which values have canonical text: those whose parts have it. All that a compilation says beside its trees does. -/

namespace BoxTree

namespace Canonical

variable {α : Type}

private theorem exists_collect_iff (members : List (String × Except CanonicalError α)) :
    (∃ found, collect members = .ok found) ↔ ∀ member ∈ members, ∃ part, member.2 = .ok part := by
  induction members with
  | nil => simp [collect]
  | cons member rest ih =>
    obtain ⟨key, part⟩ := member
    rw [List.forall_mem_cons, ← ih, collect]
    cases part with
    | error => simp [bind, Except.bind]
    | ok part => cases collect rest <;> simp [bind, Except.bind, pure, Except.pure]

private theorem exists_object_iff (members : List (Wording × Except CanonicalError (List Char))) :
    (∃ letters, (do return object (← collect (sortKeys (← named members)))) = Except.ok letters) ↔
      ∀ member ∈ members, member.1.isWhole = true ∧ ∃ part, member.2 = .ok part := by
  cases called : named members with
  | error =>
    constructor
    · rintro ⟨_, found⟩
      cases found
    · exact fun every => nomatch called.symm.trans (named_eq_ok_iff.mpr ⟨fun member listed => (every member listed).1, rfl⟩)
  | ok found =>
    obtain ⟨whole, rfl⟩ := named_eq_ok_iff.mp called
    have collected := exists_collect_iff (sortKeys (members.map fun member => (member.1.displayed, member.2)))
    simp only [sortKeys, List.mem_mergeSort, List.forall_mem_map] at collected
    rw [forall₂_congr fun member listed => and_iff_right (whole member listed), ← collected]
    simp only [sortKeys, bind, Except.bind, pure, Except.pure]
    cases collect ((members.map fun member => (member.1.displayed, member.2)).mergeSort _) <;> simp

end Canonical

namespace Value

open Canonical

def HasCanonical (value : Value) : Prop := ∃ text, value.canonical = .ok text

variable {value : Value}

theorem hasCanonical_iff : value.HasCanonical ↔ value.fault? = none ∧ ∃ letters, value.letters = .ok letters := by
  rw [HasCanonical, canonical]
  cases value.fault? with
  | some fault => simp
  | none => cases value.letters <;> simp [Functor.map, Except.map]

theorem exists_fingerprint_iff : (∃ digest, value.fingerprint = .ok digest) ↔ value.HasCanonical := by
  rw [HasCanonical, fingerprint]
  cases value.canonical <;> simp [bind, Except.bind, pure, Except.pure]

/-- The text of a key. One with a whole number of too many digits has none, and one with half a letter cannot be
written. -/
def keyText? (key : Value) : Option String := if key.hasOverlong then none else key.plain.whole?

@[simp] theorem keyText?_text (content : String) : (text content).keyText? = some content := rfl

theorem keyText?_eq_some_iff {key : Value} {name : String} :
    key.keyText? = some name ↔ key.hasOverlong = false ∧ key.plain = .whole name := by
  unfold keyText?
  cases key.hasOverlong <;> cases key.plain <;> simp [Wording.whole?]

theorem isSome_keyText?_iff {key : Value} :
    key.keyText?.isSome = true ↔ key.hasOverlong = false ∧ key.plain.isWhole = true := by
  unfold keyText?
  cases key.hasOverlong <;> simp [Wording.isWhole]

theorem faultAmong?_eq_none_iff (items : List Value) : faultAmong? items = none ↔ ∀ item ∈ items, item.fault? = none := by
  induction items with
  | nil => simp [faultAmong?]
  | cons item rest ih => rw [faultAmong?, Option.or_eq_none_iff, ih, List.forall_mem_cons]

theorem faultUnder?_eq_none_iff (entries : List (Value × Value)) :
    faultUnder? entries = none ↔ ∀ entry ∈ entries, entry.1.hasOverlong = false ∧ entry.2.fault? = none := by
  induction entries with
  | nil => simp [faultUnder?]
  | cons entry rest ih =>
    rw [faultUnder?, List.forall_mem_cons, ← ih]
    cases entry.1.hasOverlong <;> simp

private theorem exists_itemLetters_iff (items : List Value) :
    (∃ parts, itemLetters items = .ok parts) ↔ ∀ item ∈ items, ∃ letters, item.letters = .ok letters := by
  induction items with
  | nil => simp [itemLetters]
  | cons item rest ih =>
    rw [List.forall_mem_cons, ← ih, itemLetters]
    cases item.letters with
    | error => simp [bind, Except.bind]
    | ok part => cases itemLetters rest <;> simp [bind, Except.bind, pure, Except.pure]

theorem hasCanonical_list_iff (items : List Value) : (list items).HasCanonical ↔ ∀ item ∈ items, item.HasCanonical := by
  have letters : (∃ letters, (list items).letters = .ok letters) ↔ ∃ parts, itemLetters items = .ok parts := by
    rw [Value.letters]
    cases itemLetters items <;> simp [bind, Except.bind, pure, Except.pure]
  simp only [hasCanonical_iff, fault?, letters, faultAmong?_eq_none_iff, exists_itemLetters_iff, forall_and]

theorem exists_letters_map_iff (entries : List (Value × Value)) :
    (∃ letters, (map entries).letters = .ok letters) ↔ ∀ entry ∈ latest (·.1.plain) entries,
      entry.1.plain.isWhole = true ∧ ∃ part, entry.2.letters = .ok part := by
  rw [Value.letters, latest_memberLetters, exists_object_iff, memberLetters_eq, List.forall_mem_map]

/-- A mapping has canonical text if all its keys have whole texts and all its values have canonical text. -/
theorem hasCanonical_map {entries : List (Value × Value)} (parts : ∀ entry ∈ entries,
    entry.1.keyText?.isSome = true ∧ entry.2.HasCanonical) : (map entries).HasCanonical := by
  simp only [isSome_keyText?_iff] at parts
  rw [hasCanonical_iff, fault?, faultUnder?_eq_none_iff, exists_letters_map_iff]
  refine ⟨fun entry member => ⟨(parts entry member).1.1, (hasCanonical_iff.mp (parts entry member).2).1⟩, ?_⟩
  intro entry kept
  have listed := latest_subset _ _ kept
  exact ⟨(parts entry listed).1.2, (hasCanonical_iff.mp (parts entry listed).2).2⟩

/-- Where the keys have different texts, no entry takes the place of another. -/
theorem hasCanonical_map_iff {entries : List (Value × Value)} (once : (entries.map (·.1.plain)).Nodup) :
    (map entries).HasCanonical ↔
      ∀ entry ∈ entries, entry.1.keyText?.isSome = true ∧ entry.2.HasCanonical := by
  refine ⟨?_, hasCanonical_map⟩
  simp only [isSome_keyText?_iff]
  rw [hasCanonical_iff, fault?, faultUnder?_eq_none_iff, exists_letters_map_iff, (latest_eq_self_iff _).mpr once]
  rintro ⟨faultless, spelled⟩ entry member
  obtain ⟨hasText, fine⟩ := faultless entry member
  obtain ⟨whole, part⟩ := spelled entry member
  exact ⟨⟨hasText, whole⟩, hasCanonical_iff.mpr ⟨fine, part⟩⟩

/-- A mapping with known texts as keys. -/
theorem hasCanonical_record_iff {entries : List (Value × Value)} (names : List String)
    (keys : entries.map (·.1) = names.map fun name => text (.whole name)) (once : names.Nodup) :
    (map entries).HasCanonical ↔ ∀ part ∈ entries.map (·.2), part.HasCanonical := by
  have plain : entries.map (·.1.plain) = names.map Wording.whole := by
    simpa [Function.comp_def, Value.plain] using congrArg (List.map Value.plain) keys
  rw [hasCanonical_map_iff (plain ▸ once.map fun _ _ => Wording.whole.inj), List.forall_mem_map]
  refine forall₂_congr fun entry member => and_iff_right ?_
  have key : entry.1 ∈ names.map fun name => text (.whole name) := keys ▸ List.mem_map_of_mem member
  obtain ⟨name, _, same⟩ := List.mem_map.mp key
  rw [← same]
  rfl

theorem hasCanonical_null : null.HasCanonical := ⟨_, rfl⟩

theorem hasCanonical_bool (truth : Bool) : (bool truth).HasCanonical := ⟨_, rfl⟩

theorem isSome_keyText?_text (content : Wording) : (text content).keyText?.isSome = content.isWhole := rfl

@[simp] theorem hasCanonical_text_iff (content : Wording) : (text content).HasCanonical ↔ content.isWhole = true := by
  rw [hasCanonical_iff]
  cases content <;> simp [letters, fault?, Wording.isWhole, Wording.whole?]

@[simp] theorem hasCanonical_texts_iff (contents : List Wording) :
    (list (contents.map text)).HasCanonical ↔ ∀ content ∈ contents, content.isWhole = true := by
  simp [hasCanonical_list_iff]

theorem hasCanonical_single {name : String} {value : Value} (part : value.HasCanonical) :
    (map [(text name, value)]).HasCanonical := by
  apply hasCanonical_map
  simpa using part

end Value

/-! The texts that a compilation tells beside its trees. -/

def EdgeVariable.texts (assigned : EdgeVariable Wording) : List Wording :=
  [assigned.edge.source, assigned.edge.target, assigned.name, assigned.objectType]

def HeldVariable.texts (held : HeldVariable) : List Wording := held.name :: held.objectType :: held.qualifier.toList

def Bindings.texts (bindings : Bindings Wording) : List Wording :=
  bindings.edges.flatMap (·.texts) ++ bindings.nodes.flatMap fun (id, held) => id :: held.flatMap (·.texts)

def Compilation.texts (compilation : Compilation Wording Fields) : List Wording :=
  compilation.trees.flatMap (fun compiled => compiled.root :: compiled.bindings.texts) ++
    compilation.errors.flatMap (fun error => error.message :: error.nodes) ++
    compilation.warnings.flatMap (fun warning => warning.message :: warning.nodes) ++ compilation.disconnected

private theorem EdgeVariable.hasCanonical_encode_iff (assigned : EdgeVariable Wording) :
    assigned.encode.HasCanonical ↔ ∀ text ∈ assigned.texts, text.isWhole = true := by
  apply (Value.hasCanonical_record_iff ["source", "target", "name", "objectType", "dependencyType"] rfl (by decide)).trans
  simp [texts]

private theorem HeldVariable.hasCanonical_encode_iff (held : HeldVariable) :
    held.encode.HasCanonical ↔ ∀ text ∈ held.texts, text.isWhole = true := by
  apply (Value.hasCanonical_record_iff ["name", "objectType", "qualifier", "bound"] rfl (by decide)).trans
  cases qualifier : held.qualifier <;> simp [texts, qualifier, Value.hasCanonical_null, Value.hasCanonical_bool]

private theorem Bindings.hasCanonical_encode_iff {bindings : Bindings Wording}
    (once : (bindings.nodes.map (·.1)).Nodup) :
    bindings.encode.HasCanonical ↔ ∀ text ∈ bindings.texts, text.isWhole = true := by
  have edges : (Value.list (bindings.edges.map EdgeVariable.encode)).HasCanonical ↔
      ∀ assigned ∈ bindings.edges, ∀ text ∈ assigned.texts, text.isWhole = true := by
    simp only [Value.hasCanonical_list_iff, List.forall_mem_map, EdgeVariable.hasCanonical_encode_iff]
  have nodes : (Value.map (bindings.nodes.map fun (id, held) =>
      (.text id, .list (held.map HeldVariable.encode)))).HasCanonical ↔
        ∀ entry ∈ bindings.nodes, ∀ text ∈ entry.1 :: entry.2.flatMap (·.texts), text.isWhole = true := by
    rw [Value.hasCanonical_map_iff (by simpa [Function.comp_def, Value.plain] using once), List.forall_mem_map]
    simp only [Value.hasCanonical_list_iff, List.forall_mem_map, HeldVariable.hasCanonical_encode_iff,
      Value.isSome_keyText?_text, List.forall_mem_cons, List.forall_mem_flatMap]
  apply (Value.hasCanonical_record_iff ["edges", "nodes"] rfl (by decide)).trans
  simp only [List.map_cons, List.map_nil, List.forall_mem_cons, List.not_mem_nil, false_imp_iff, implies_true, and_true,
    edges, nodes, texts, List.forall_mem_append, List.forall_mem_flatMap]

namespace Compilation

private theorem hasCanonical_encodeReport_iff (code : String) (message : Wording) (nodes : List Wording) :
    (encodeReport code message nodes).HasCanonical ↔ ∀ text ∈ message :: nodes, text.isWhole = true := by
  apply (Value.hasCanonical_record_iff ["code", "message", "nodeIds"] rfl (by decide)).trans
  simp

/-- A compilation has canonical text exactly if its trees have and its other texts are whole. -/
theorem hasCanonical_encode_iff {compilation : Compilation Wording Fields}
    (once : ∀ compiled ∈ compilation.trees, (compiled.bindings.nodes.map (·.1)).Nodup) :
    compilation.encode.HasCanonical ↔ (∀ compiled ∈ compilation.trees, compiled.tree.encode.HasCanonical) ∧
      ∀ text ∈ compilation.texts, text.isWhole = true := by
  have bindings : (Value.list (compilation.trees.map (·.bindings.encode))).HasCanonical ↔
      ∀ compiled ∈ compilation.trees, ∀ text ∈ compiled.bindings.texts, text.isWhole = true := by
    rw [Value.hasCanonical_list_iff, List.forall_mem_map]
    exact forall₂_congr fun compiled member => Bindings.hasCanonical_encode_iff (once compiled member)
  apply (Value.hasCanonical_record_iff
    ["trees", "roots", "variables", "errors", "warnings", "disconnected"] rfl (by decide)).trans
  simp only [List.map_cons, List.map_nil, List.forall_mem_cons, bindings, Value.hasCanonical_list_iff,
    Value.hasCanonical_text_iff, hasCanonical_encodeReport_iff, texts, List.forall_mem_map, List.forall_mem_append,
    List.forall_mem_flatMap, forall₂_and]
  tauto

end Compilation
end BoxTree
