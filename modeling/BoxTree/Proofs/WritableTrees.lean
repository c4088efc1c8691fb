import BoxTree.Proofs.CanonicalParts
import BoxTree.Proofs.TreeValidity

/-! Values and trees that can be written as canonical text, said of their leaves. -/

namespace BoxTree

namespace Value

open Canonical

/-- Whether a value has a form in canonical text, its parts aside. -/
def fits : Value → Bool
  | null | bool _ | list _ | tuple _ => true
  | text content => content.isWhole
  | int number => -largestExact ≤ number ∧ number ≤ largestExact
  | double number => number.isFinite
  | map entries => entries.all (·.1.keyText?.isSome)
  | bytes _ | date _ | moment _ | set _ | again _ _ _ => false

def parts : Value → List Value
  | list items | tuple items => items
  | map entries => entries.map (·.2)
  | _ => []

def keyTexts : Value → List Wording
  | map entries => entries.map (·.1.plain)
  | _ => []

/-- Each part of a value, down to the leaves, has a form in canonical text. -/
inductive Writable : Value → Prop where
  | intro {value : Value} (fits : value.fits = true) (parts : ∀ part ∈ value.parts, Writable part) : Writable value

/-- Different keys of one mapping have different texts, as in every JSON document. -/
inductive TextsApart : Value → Prop where
  | intro {value : Value} (once : value.keyTexts.Nodup) (parts : ∀ part ∈ value.parts, TextsApart part) :
    TextsApart value

theorem hasCanonical_int_iff {number : Int} :
    (int number).HasCanonical ↔ -largestExact ≤ number ∧ number ≤ largestExact := by
  rw [hasCanonical_iff, letters, intLetters]
  by_cases within : -largestExact ≤ number ∧ number ≤ largestExact
  · simp [within, fault?]
  · simp only [within, ite_false, iff_false, not_and, not_exists]
    intro _ letters
    split <;> simp

theorem hasCanonical_double_iff {number : Double} : (double number).HasCanonical ↔ number.isFinite = true := by
  simp [hasCanonical_iff, fault?, letters]

theorem hasCanonical_tuple_iff (items : List Value) : (tuple items).HasCanonical ↔ ∀ item ∈ items, item.HasCanonical := by
  have same : (tuple items).letters = (list items).letters := by rw [letters, letters]
  rw [← hasCanonical_list_iff, hasCanonical_iff, hasCanonical_iff, same]
  rfl

private theorem not_hasCanonical {value : Value} {kind : String}
    (unsupported : value.letters = .error (.unsupported kind)) :
    ¬ value.HasCanonical := by
  rw [hasCanonical_iff, unsupported]
  simp

theorem hasCanonical_single_iff {name : String} {value : Value} :
    (map [(text name, value)]).HasCanonical ↔ value.HasCanonical := by
  apply (hasCanonical_record_iff [name] rfl (List.nodup_singleton name)).trans
  simp

private theorem hasCanonical_of_parts {value : Value} (fits : value.fits = true)
    (every : ∀ part ∈ value.parts, part.HasCanonical) : value.HasCanonical := by
  cases value with
  | null => exact hasCanonical_null
  | bool truth => exact hasCanonical_bool truth
  | text content => exact (hasCanonical_text_iff content).mpr fits
  | int number => exact hasCanonical_int_iff.mpr (of_decide_eq_true fits)
  | double number => exact hasCanonical_double_iff.mpr fits
  | list items => exact (hasCanonical_list_iff items).mpr every
  | tuple items => exact (hasCanonical_tuple_iff items).mpr every
  | map entries =>
    apply hasCanonical_map
    intro entry member
    exact ⟨List.all_eq_true.mp fits entry member, every entry.2 (List.mem_map_of_mem member)⟩
  | bytes | date | moment | set | again => cases fits

private theorem HasCanonical.parts {value : Value} (once : value.keyTexts.Nodup) (canonical : value.HasCanonical) :
    value.fits = true ∧ ∀ part ∈ value.parts, part.HasCanonical := by
  have leaf {value : Value} (none : value.parts = []) : ∀ part ∈ value.parts, part.HasCanonical :=
    none ▸ List.forall_mem_nil _
  cases value with
  | null | bool => exact ⟨rfl, leaf rfl⟩
  | text content => exact ⟨(hasCanonical_text_iff content).mp canonical, leaf rfl⟩
  | int number => exact ⟨decide_eq_true (hasCanonical_int_iff.mp canonical), leaf rfl⟩
  | double number => exact ⟨hasCanonical_double_iff.mp canonical, leaf rfl⟩
  | list items => exact ⟨rfl, (hasCanonical_list_iff items).mp canonical⟩
  | tuple items => exact ⟨rfl, (hasCanonical_tuple_iff items).mp canonical⟩
  | map entries =>
    have every := (hasCanonical_map_iff once).mp canonical
    refine ⟨List.all_eq_true.mpr fun entry member => (every entry member).1, ?_⟩
    intro part member
    obtain ⟨entry, listed, rfl⟩ := List.mem_map.mp member
    exact (every entry listed).2
  | bytes | date | moment | set | again => exact absurd canonical (not_hasCanonical rfl)

theorem Writable.hasCanonical {value : Value} (writable : value.Writable) : value.HasCanonical := by
  induction writable with
  | intro fits _ ih => exact hasCanonical_of_parts fits ih

theorem TextsApart.hasCanonical_iff_writable {value : Value} (apart : value.TextsApart) :
    value.HasCanonical ↔ value.Writable := by
  refine ⟨?_, Writable.hasCanonical⟩
  induction apart with
  | intro once _ ih =>
    intro canonical
    obtain ⟨fits, every⟩ := canonical.parts once
    exact .intro fits fun part member => ih part member (every part member)

end Value

private theorem TreeNode.hasCanonical_encode_iff {node : TreeNode Fields} :
    node.encode.HasCanonical ↔ (∀ child ∈ node.children, (Value.int child).HasCanonical) ∧
      ∀ content children, node = .box content children → (Value.map content).HasCanonical := by
  cases node with
  | box content children =>
    rw [encode, Value.hasCanonical_single_iff, Value.hasCanonical_list_iff]
    simp [Value.hasCanonical_list_iff, TreeNode.children, and_comm]
  | and left right | or left right =>
    rw [encode, Value.hasCanonical_single_iff, Value.hasCanonical_list_iff]
    simp [TreeNode.children]
  | not child =>
    rw [encode, Value.hasCanonical_single_iff]
    simp [TreeNode.children]

namespace LinearTree

/-- The contents of all boxes have canonical text, the names of edges are whole, and doubles hold all positions. -/
structure Writable (tree : DocumentTree) : Prop where
  positions : tree.length ≤ 2 ^ 53
  names : ∀ entry ∈ tree.edgeNames, entry.2.isWhole = true
  contents : ∀ content children, .box content children ∈ tree.nodes → (Value.map content).HasCanonical

private theorem hasCanonical_parts_iff (tree : DocumentTree) : tree.encode.HasCanonical ↔
    (∀ node ∈ tree.nodes, node.encode.HasCanonical) ∧
      ∀ entry ∈ tree.edgeNames, ((Value.int entry.1.1).HasCanonical ∧ (Value.int entry.1.2).HasCanonical) ∧
        entry.2.isWhole = true := by
  have named (entry : EdgeKey × Wording) : (encodeName entry).HasCanonical ↔
      ((Value.int entry.1.1).HasCanonical ∧ (Value.int entry.1.2).HasCanonical) ∧ entry.2.isWhole = true := by
    simp [encodeName, Value.hasCanonical_list_iff]
  apply (Value.hasCanonical_record_iff ["nodes", "edgeNames"] rfl (by decide)).trans
  simp only [List.map_cons, List.map_nil, List.forall_mem_cons, List.not_mem_nil, false_imp_iff, implies_true, and_true,
    Value.hasCanonical_list_iff, List.forall_mem_map, named]

variable {tree : DocumentTree} (wellFormed : tree.WellFormed)
include wellFormed

private theorem WellFormed.exists_parent {position : Nat} (inner : 0 < position) (below : position < tree.length) :
    ∃ node ∈ tree.nodes, (position : Int) ∈ node.children := by
  rcases Relation.ReflTransGen.cases_tail (wellFormed.reached position below) with same | ⟨parent, _, link⟩
  · omega
  · obtain ⟨index, node, found, _, member⟩ := mem_links.mp link
    exact ⟨node, List.mem_of_getElem? found, member⟩

theorem WellFormed.hasCanonical_encode_iff : tree.encode.HasCanonical ↔ tree.Writable := by
  have largest : Canonical.largestExact = 2 ^ 53 - 1 := rfl
  rw [hasCanonical_parts_iff]
  constructor
  · rintro ⟨nodes, names⟩
    refine ⟨?_, fun entry member => (names entry member).2, ?_⟩
    · by_contra long
      have inner : 0 < tree.length - 1 := by omega
      obtain ⟨node, member, child⟩ := wellFormed.exists_parent inner (by omega)
      have exact := (TreeNode.hasCanonical_encode_iff.mp (nodes node member)).1 _ child
      rw [Value.hasCanonical_int_iff, largest] at exact
      omega
    · intro content children member
      exact (TreeNode.hasCanonical_encode_iff.mp (nodes _ member)).2 content children rfl
  · rintro ⟨short, names, contents⟩
    have held {position : Int} (lower : 0 ≤ position) (upper : position < tree.length) :
        (Value.int position).HasCanonical := by
      rw [Value.hasCanonical_int_iff, largest]
      omega
    constructor
    · intro node member
      obtain ⟨index, found⟩ := List.mem_iff_getElem?.mp member
      rw [TreeNode.hasCanonical_encode_iff]
      refine ⟨?_, fun content children same => contents content children (same ▸ member)⟩
      intro child listed
      have inside := wellFormed.inside _ (mem_links.mpr ⟨index, node, found, rfl, listed⟩)
      exact held inside.lower inside.upper
    · intro entry member
      have link := wellFormed.named entry member
      have inside := wellFormed.inside _ link
      have parent := parent_inside link
      exact ⟨⟨held parent.1 parent.2, held inside.lower inside.upper⟩, names entry member⟩

end LinearTree
end BoxTree
