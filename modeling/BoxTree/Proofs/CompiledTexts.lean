import BoxTree.Proofs.CompileSteps
import BoxTree.Proofs.WritableTrees

/-! Which compilations have canonical text. -/

namespace BoxTree

section Compiled

variable {α β : Type} [DecidableEq α] {graph : Graph α β} {settings : CompilerSettings} {compilation : Compilation α β}

theorem Graph.wellFormed_of_compile (found : graph.compile settings = .ok compilation) :
    ∀ compiled ∈ compilation.trees, compiled.tree.WellFormed := by
  obtain ⟨same, outcomes, again, trees, components⟩ := graph.exists_compile_keyed settings
  obtain rfl := Except.ok.inj (found.symm.trans again)
  intro compiled member
  obtain ⟨_, _, _, _, root, _, ordered, isRoot, of⟩ := exists_root_of_mem_trees components (trees ▸ member)
  cases of with
  | compiled built => exact (ordered.sorted ((ordered.members root).mpr isRoot.touched)).wellFormed built

private theorem nodup_of_propagate {order : List (Node α β)} {edges : List (Edge α)} {width : Int}
    {bindings : Bindings α}
    (bound : propagate order edges width = .ok bindings) : (bindings.nodes.map (·.1)).Nodup := by
  cases settled : Binding.settle order edges with
  | error => rw [propagate, settled] at bound; cases bound
  | ok ledger =>
    rw [propagate, settled] at bound
    cases bound
    rw [Bindings.ofLedger, List.map_map]
    simpa [Function.comp_def] using nodup_eraseDups (order.map (·.id))

theorem Graph.nodup_bindings_of_compile (found : graph.compile settings = .ok compilation) :
    ∀ compiled ∈ compilation.trees, (compiled.bindings.nodes.map (·.1)).Nodup := by
  obtain ⟨same, outcomes, again, trees, components⟩ := graph.exists_compile_keyed settings
  obtain rfl := Except.ok.inj (found.symm.trans again)
  intro compiled member
  obtain ⟨_, _, _, _, _, _, _, _, of⟩ := exists_root_of_mem_trees components (trees ▸ member)
  cases of with
  | compiled _ bound => exact nodup_of_propagate bound

end Compiled

/-- Each tree can be written, and no text beside the trees holds half a letter. -/
structure Compilation.Writable (compilation : Compilation Wording Fields) : Prop where
  trees : ∀ compiled ∈ compilation.trees, compiled.tree.Writable
  texts : ∀ text ∈ compilation.texts, text.isWhole = true

theorem Graph.hasCanonical_encode_iff_of_compile {graph : Graph Wording Fields} {settings : CompilerSettings}
    {compilation : Compilation Wording Fields} (found : graph.compile settings = .ok compilation) :
    compilation.encode.HasCanonical ↔ compilation.Writable := by
  have trees : (∀ compiled ∈ compilation.trees, compiled.tree.encode.HasCanonical) ↔
      ∀ compiled ∈ compilation.trees, compiled.tree.Writable :=
    forall₂_congr fun compiled member => (wellFormed_of_compile found compiled member).hasCanonical_encode_iff
  rw [Compilation.hasCanonical_encode_iff (nodup_bindings_of_compile found), trees]
  exact ⟨fun ⟨trees, texts⟩ => ⟨trees, texts⟩, fun ⟨trees, texts⟩ => ⟨trees, texts⟩⟩

end BoxTree
