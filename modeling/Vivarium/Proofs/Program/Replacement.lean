import Mathlib.Data.List.Infix
import Vivarium.Proofs.Program.Locus

/-!
# Replacing and inserting nodes

Replacing a node leaves every node alone that is neither above nor below it, at the path where it
was, and a further replacement makes up for it. Inserting a node among the arguments of a form leaves
the others alone too, except that the arguments from there on, and what is below them, are found one
place further. The number of nodes changes by what is put in and what is taken out.
-/

namespace Vivarium

/-- Where the node of a path is found after something was inserted at a place among the parts of
what another path leads to. -/
def Path.displaced (place : Int) : (parent path : Path) → Path
  | _, [] => []
  | [], i :: rest => (if place ≤ i then i + 1 else i) :: rest
  | k :: parent, i :: rest => i :: if k = i then Path.displaced place parent rest else rest

namespace Tree

variable {t node value result : Tree} {head : Tree} {args : List Tree} {path other parent : Path}
  {i : Nat}

/-- A replacement below the root is one within an argument. -/
theorem Reaches.exists_of_set_into (found : args[i]? = some t) (h : Reaches t path node)
    (hs : (Tree.form (head :: args)).set (((i + 1 : Nat) : Int) :: path) value = .ok result) :
    ∃ inner, t.set path value = .ok inner ∧ result = .form (head :: args.set i inner) := by
  obtain ⟨inner, inside⟩ := exists_set_of_reaches h value
  rw [set_argument found inside, Except.ok.injEq] at hs
  exact ⟨inner, inside, hs.symm⟩

/-! ## Counting nodes -/

/-- The order of trees does not matter for the number of their nodes. -/
theorem nodeCounts_perm {ts us : List Tree} (h : ts.Perm us) : nodeCounts ts = nodeCounts us := by
  induction h with
  | nil => rfl
  | cons t _ ih => rw [nodeCounts, nodeCounts, ih]
  | swap t u rest =>
    simp only [nodeCounts]
    omega
  | trans _ _ first second => exact first.trans second

/-- A tree among several has no more nodes than all of them. -/
theorem nodeCount_le_nodeCounts (h : t ∈ args) : t.nodeCount ≤ nodeCounts args := by
  induction h with
  | head rest => exact Nat.le_add_right _ _
  | tail u _ ih => exact ih.trans (Nat.le_add_left _ _)

/-- Where a tree among several is replaced, its nodes make way for those of the new one. -/
theorem nodeCounts_set (h : args[i]? = some t) (value : Tree) :
    nodeCounts (args.set i value) + t.nodeCount = nodeCounts args + value.nodeCount := by
  induction args generalizing i with
  | nil => simp at h
  | cons u args ih =>
    cases i with
    | zero =>
      obtain rfl : u = t := by simpa using h
      simp only [List.set_cons_zero, nodeCounts]
      omega
    | succ i =>
      have later := ih (by simpa using h)
      simp only [List.set_cons_succ, nodeCounts]
      omega

/-- A tree that is inserted among several adds its nodes. -/
theorem nodeCounts_insertIdx (h : i ≤ args.length) (value : Tree) :
    nodeCounts (args.insertIdx i value) = value.nodeCount + nodeCounts args :=
  nodeCounts_perm (List.perm_insertIdx value args h)

/-- Replacing a node exchanges its nodes for those of the new one. -/
theorem Reaches.nodeCount_set (h : Reaches t path node) (hs : t.set path value = .ok result) :
    result.nodeCount + node.nodeCount = t.nodeCount + value.nodeCount := by
  induction h generalizing result with
  | here =>
    obtain rfl : value = result := Except.ok.inj hs
    omega
  | into found rest ih =>
    obtain ⟨inner, inside, rfl⟩ := rest.exists_of_set_into found hs
    have change := ih inside
    have among := nodeCounts_set found inner
    simp only [nodeCount]
    omega

/-- A node has no more nodes than the whole. -/
theorem Reaches.nodeCount_le (h : Reaches t path node) : node.nodeCount ≤ t.nodeCount := by
  induction h with
  | here => exact le_rfl
  | into found _ ih =>
    have among := nodeCount_le_nodeCounts (List.mem_of_getElem? found)
    simp only [nodeCount]
    omega

/-- A node other than the root has fewer nodes than the whole. -/
theorem Reaches.nodeCount_lt (h : Reaches t path node) (below : path ≠ []) :
    node.nodeCount < t.nodeCount := by
  cases h with
  | here => exact absurd rfl below
  | into found rest =>
    have inside := rest.nodeCount_le
    have among := nodeCount_le_nodeCounts (List.mem_of_getElem? found)
    simp only [nodeCount]
    omega

/-! ## Paths to nodes -/

/-- A path within an argument is listed with the position of the argument. -/
theorem mem_argumentPaths {first : Nat} (h : args[i]? = some t) (member : path ∈ t.paths) :
    ((first + i : Nat) : Int) :: path ∈ argumentPaths args first := by
  induction args generalizing first i with
  | nil => simp at h
  | cons u args ih =>
    rw [argumentPaths, List.mem_append]
    cases i with
    | zero =>
      obtain rfl : u = t := by simpa using h
      exact .inl (List.mem_map_of_mem member)
    | succ i =>
      have later : ((first + 1 + i : Nat) : Int) :: path ∈ argumentPaths args (first + 1) :=
        ih (by simpa using h)
      rw [Nat.add_assoc, Nat.add_comm 1 i] at later
      exact .inr later

/-- Every path to a node is listed. -/
theorem Reaches.mem_paths (h : Reaches t path node) : path ∈ t.paths := by
  induction h with
  | @here t =>
    cases t with
    | atom a => exact List.mem_singleton_self _
    | form nodes =>
      cases nodes with
      | nil => exact List.mem_singleton_self _
      | cons head args => exact List.mem_cons_self
  | @into head args i t node path found rest ih =>
    have listed : ((1 + i : Nat) : Int) :: path ∈ argumentPaths args 1 :=
      mem_argumentPaths found ih
    rw [Nat.add_comm] at listed
    exact List.mem_cons_of_mem _ listed

/-- What a node leads to is led to from above the node. -/
theorem Reaches.append {inner : Path} {below : Tree} (h : Reaches t path node)
    (h' : Reaches node inner below) : Reaches t (path ++ inner) below := by
  induction h with
  | here => exact h'
  | into found _ ih => exact .into found (ih h')

/-! ## Replacing -/

/-- What was put in the place of a node is found there. -/
theorem Reaches.reaches_set (h : Reaches t path node) (hs : t.set path value = .ok result) :
    Reaches result path value := by
  induction h generalizing result with
  | here =>
    obtain rfl : value = result := Except.ok.inj hs
    exact .here
  | into found rest ih =>
    obtain ⟨inner, inside, rfl⟩ := rest.exists_of_set_into found hs
    have bound := (List.getElem?_eq_some_iff.mp found).1
    exact .into (List.getElem?_set_self bound) (ih inside)

/-- A node that is neither above nor below one that is replaced stays where it is. -/
theorem Reaches.reaches_set_of_apart (h : Reaches t path node)
    (hs : t.set path value = .ok result) {apart : Tree} (ho : Reaches t other apart)
    (above : ¬other <+: path) (below : ¬path <+: other) : Reaches result other apart := by
  induction h generalizing result other with
  | here => exact absurd (List.nil_prefix) below
  | @into head args i t node path found rest ih =>
    obtain ⟨inner, inside, rfl⟩ := rest.exists_of_set_into found hs
    cases ho with
    | here => exact absurd (List.nil_prefix) above
    | @into _ _ j u _ other found' rest' =>
      by_cases same : i = j
      · -- Both paths go into the same argument, and part below.
        subst same
        obtain rfl : t = u := Option.some.inj (found.symm.trans found')
        have bound := (List.getElem?_eq_some_iff.mp found).1
        refine .into (List.getElem?_set_self bound) (ih inside rest' ?_ ?_)
        · exact fun short => above (List.cons_prefix_cons.mpr ⟨rfl, short⟩)
        · exact fun long => below (List.cons_prefix_cons.mpr ⟨rfl, long⟩)
      · refine .into ?_ rest'
        rw [List.getElem?_set_ne same, found']

/-- What can be read of a node that is neither above nor below one that is replaced stays. -/
theorem Reaches.get_set_of_apart (h : Reaches t path node) (hs : t.set path value = .ok result)
    (member : other ∈ t.paths) (above : ¬other <+: path) (below : ¬path <+: other) :
    other ∈ result.paths ∧ result.get other = t.get other := by
  obtain ⟨apart, reaches⟩ := exists_reaches_of_mem_paths member
  have stays := h.reaches_set_of_apart hs reaches above below
  exact ⟨stays.mem_paths, by rw [stays.get_eq, reaches.get_eq]⟩

/-- Of two replacements of a node the last one counts. -/
theorem Reaches.set_set (h : Reaches t path node) (hs : t.set path value = .ok result)
    (next : Tree) : result.set path next = t.set path next := by
  induction h generalizing result with
  | here => rfl
  | into found rest ih =>
    obtain ⟨inner, inside, rfl⟩ := rest.exists_of_set_into found hs
    obtain ⟨last, set⟩ := exists_set_of_reaches rest next
    have bound := (List.getElem?_eq_some_iff.mp found).1
    rw [set_argument (List.getElem?_set_self bound) ((ih inside).trans set), List.set_set,
      set_argument found set]

/-- A replacement by a well-formed tree leaves a well-formed tree well formed. -/
theorem Reaches.wellFormed_set (h : Reaches t path node) (hs : t.set path value = .ok result)
    (ht : t.wellFormed = .ok true) (hv : value.wellFormed = .ok true) :
    result.wellFormed = .ok true := by
  obtain ⟨other, set, conforms, -⟩ := @Reaches.exists_set _ _ _ anyForm h value
  obtain rfl : other = result := Except.ok.inj (set.symm.trans hs)
  exact (wellFormed_iff _).mpr (conforms ((wellFormed_iff _).mp ht) ((wellFormed_iff _).mp hv))

/-! ## Inserting -/

/-- The arguments from an inserted one on are found one place further. -/
theorem getElem?_insertIdx_displaced (value : Tree) {j : Nat}
    (h : args[j]? = some t) :
    (args.insertIdx i value)[if i ≤ j then j + 1 else j]? = some t := by
  by_cases later : i ≤ j
  · rw [if_pos later, List.getElem?_insertIdx_of_gt (by omega)]
    exact h
  · rw [if_neg later, List.getElem?_insertIdx_of_lt (by omega)]
    exact h

/-- A node that is not above the place where another one is inserted is found where that displaces
it. -/
theorem Reaches.reaches_insert (h : Reaches t parent (.form (head :: args)))
    (hs : t.set parent (.form (head :: args.insertIdx i value)) = .ok result)
    (ho : Reaches t path node) (above : ¬path <+: parent) :
    Reaches result (Path.displaced ((i + 1 : Nat) : Int) parent path) node := by
  generalize hf : Tree.form (head :: args) = form at h
  induction h generalizing result path with
  | here =>
    subst hf
    obtain rfl := Except.ok.inj hs
    cases ho with
    | here => exact absurd List.nil_prefix above
    | @into _ _ j u _ path found rest =>
      have place : (if ((i + 1 : Nat) : Int) ≤ ((j + 1 : Nat) : Int) then
          ((j + 1 : Nat) : Int) + 1 else ((j + 1 : Nat) : Int)) =
          (((if i ≤ j then j + 1 else j) + 1 : Nat) : Int) := by
        split <;> split <;> omega
      rw [Path.displaced, place]
      exact .into (getElem?_insertIdx_displaced value found) rest
  | @into head' args' k inside _ parent found rest ih =>
    obtain ⟨inner, set, rfl⟩ := rest.exists_of_set_into found hs
    cases ho with
    | here => exact absurd List.nil_prefix above
    | @into _ _ j u _ path found' rest' =>
      rw [Path.displaced]
      by_cases same : k = j
      · subst same
        obtain rfl : inside = u := Option.some.inj (found.symm.trans found')
        have size := (List.getElem?_eq_some_iff.mp found).1
        rw [if_pos rfl]
        refine .into (List.getElem?_set_self size) (ih set rest' ?_ hf)
        exact fun short => above (List.cons_prefix_cons.mpr ⟨rfl, short⟩)
      · rw [if_neg (by omega)]
        refine .into ?_ rest'
        rw [List.getElem?_set_ne same, found']

end Tree

end Vivarium
