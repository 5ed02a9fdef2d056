import Vivarium.Proofs.Program.Replacement

/-!
# Paths as addresses

The listed paths are the addresses of the nodes of a tree: in order, each once, and no others.
Reading and replacing at an address obey the laws of a lens. What was put is found, putting back what
was found changes nothing, and of two replacements the last one counts. A replacement keeps to its
node: nodes apart from it stay, its nodes are exchanged for those of the new one, and well-formed
trees stay so.
-/

namespace Vivarium.Tree

/-- A path is listed exactly if it leads to a node. -/
theorem mem_paths_iff {t : Tree} {path : Path} : path ∈ t.paths ↔ ∃ node, Reaches t path node :=
  ⟨exists_reaches_of_mem_paths, fun ⟨_, reaches⟩ => reaches.mem_paths⟩

/-- The listed paths are those that lead from the root by positions after the head of a form that is
not empty. There are as many as nodes, in lexicographic order, which has a form before its arguments
and these from left to right, and none is there twice. The node at every path can be read, and putting
it back leaves the tree as it is. Any tree can be put there, and is read from there afterwards. A
further replacement there comes to what it does without the first one. Nodes that are neither above
nor below stay at their paths. The result has the nodes of the tree less those of the node and more
those of what was put, and it is well formed if both trees are. -/
theorem paths_address_nodes (t : Tree) :
    t.paths.Pairwise (· < ·) ∧ t.paths.Nodup ∧ t.paths.length = t.nodeCount ∧
    (∀ path, path ∈ t.paths ↔ ∃ node, Reaches t path node) ∧
    ∀ path ∈ t.paths, ∃ node, Reaches t path node ∧ t.get path = .ok node ∧
      t.set path node = .ok t ∧
      ∀ value, ∃ result, t.set path value = .ok result ∧ result.get path = .ok value ∧
        (∀ next, result.set path next = t.set path next) ∧
        (∀ other ∈ t.paths, ¬other <+: path → ¬path <+: other →
          other ∈ result.paths ∧ result.get other = t.get other) ∧
        (result.nodeCount : Int) = t.nodeCount - node.nodeCount + value.nodeCount ∧
        (t.wellFormed = .ok true → value.wellFormed = .ok true →
          result.wellFormed = .ok true) := by
  refine ⟨t.pairwise_paths, t.nodup_paths, t.length_paths, fun _ => mem_paths_iff,
    fun path member => ?_⟩
  obtain ⟨node, reaches⟩ := exists_reaches_of_mem_paths member
  refine ⟨node, reaches, reaches.get_eq, reaches.set_self, fun value => ?_⟩
  obtain ⟨result, set⟩ := exists_set_of_reaches reaches value
  have count := reaches.nodeCount_set set
  exact ⟨result, set, (reaches.reaches_set set).get_eq, reaches.set_set set,
    fun other listed => reaches.get_set_of_apart set listed, by omega, reaches.wellFormed_set set⟩

/-- In the program that lineages start with, the meal can be replaced by nil. The search for food
stays where it is, the nine nodes of the meal make way for one, and the whole stays well formed. -/
theorem paths_address_nodes_herbivore :
    [1, 2] ∈ herbivore.paths ∧ [1, 3] ∈ herbivore.paths ∧ herbivore.wellFormed = .ok true ∧
      ∃ result, herbivore.set [1, 2] nil = .ok result ∧ result.get [1, 2] = .ok nil ∧
        result.get [1, 3] = herbivore.get [1, 3] ∧ result.nodeCount = 30 ∧
        result.wellFormed = .ok true := by
  have listed : [1, 2] ∈ herbivore.paths := by decide
  have apart : [1, 3] ∈ herbivore.paths := by decide
  have sound : herbivore.wellFormed = .ok true := by decide
  obtain ⟨-, -, -, -, lens⟩ := paths_address_nodes herbivore
  obtain ⟨node, -, read, -, put⟩ := lens [1, 2] listed
  obtain ⟨result, set, found, -, frame, count, wellFormed⟩ := put nil
  have whole : herbivore.nodeCount = 38 := rfl
  have meal : (herbivore.get [1, 2]).map nodeCount = .ok 9 := rfl
  have size : node.nodeCount = 9 := by
    rw [read] at meal
    exact Except.ok.inj meal
  have single : nil.nodeCount = 1 := rfl
  exact ⟨listed, apart, sound, result, set, found, (frame [1, 3] apart (by decide) (by decide)).2,
    by omega, wellFormed sound rfl⟩

end Vivarium.Tree
