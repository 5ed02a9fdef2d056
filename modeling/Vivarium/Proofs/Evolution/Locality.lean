import Vivarium.Proofs.Evolution.Duplication
import Vivarium.Proofs.Evolution.Totality
import Vivarium.Proofs.Evolution.Wrapping
import Vivarium.Proofs.Program.Replacement

/-!
# Mutations are local

A mutation makes one edit at the node that was picked. It puts something in the place of the node or
a copy of the node in front of it, and leaves every node alone that is neither above nor below. What
it puts there has at most twice as many nodes as the node and four more, which a branch around two
copies has.
-/

namespace Vivarium

open Vivarium.Tree

/-! ## The size of an edit -/

section

variable {G : Type} [Source G]

/-- A wrapped node has at most four more nodes than two copies of it. -/
theorem nodeCount_wrap_le (node : Tree) :
    Draw.Yields (wrap node : Draw G Tree) fun value =>
      value.nodeCount ≤ 2 * node.nodeCount + 4 := by
  refine (Draw.yields_true _).bind fun coin _ => ?_
  cases coin with
  | true =>
    refine exists_measures.bind fun condition hc => Draw.yields_pure ?_
    obtain ⟨comparison, sensor, threshold, rfl⟩ := hc
    simp only [measures, nodeCount, nodeCounts]
    omega
  | false =>
    refine Draw.yields_pure ?_
    simp only [nodeCount, nodeCounts]
    omega

/-- A random action has at most two nodes. -/
theorem nodeCount_randomAction_le :
    Draw.Yields (randomAction : Draw G Tree) fun value => value.nodeCount ≤ 2 := by
  refine (Draw.yields_true _).bind fun action _ => ?_
  cases action with
  | fork => exact (Draw.yields_true _).bind fun percentage _ => Draw.yields_pure le_rfl
  | _ => exact Draw.yields_pure (by decide : 1 ≤ 2)

omit [Source G] in
/-- An argument has at most one node more than all arguments, which it has if it is missing. -/
theorem nodeCount_argument_le (args : List Tree) (i : Nat) :
    (argument args i).nodeCount ≤ nodeCounts args + 1 := by
  unfold argument
  cases found : args[i]? with
  | none => exact Nat.le_add_left 1 _
  | some t => exact Nat.le_succ_of_le (nodeCount_le_nodeCounts (List.mem_of_getElem? found))

omit [Source G] in
/-- A branch with its arms swapped has at most three more nodes, those that it lacked. -/
theorem nodeCounts_swapped_le (args : List Tree) :
    nodeCounts (argument args 0 :: argument args 2 :: argument args 1 :: args.drop 3) ≤
      nodeCounts args + 3 := by
  match args with
  | [] => simp [argument, nodeCounts, nodeCount]
  | [_] => simp [argument, nodeCounts, nodeCount]
  | [_, _] =>
    simp only [argument, nodeCounts, nodeCount, List.getElem?_cons_zero, List.getElem?_cons_succ,
      List.getElem?_nil, Option.getD_some, Option.getD_none, List.drop_succ_cons, List.drop_nil]
    omega
  | _ :: _ :: _ :: _ =>
    simp only [argument, nodeCounts, List.getElem?_cons_zero, List.getElem?_cons_succ,
      Option.getD_some, List.drop_succ_cons, List.drop_zero]
    omega

/-- A node changed within its kind has at most three more nodes. -/
theorem nodeCount_changeWithinKind_le (node : Tree) :
    Draw.Yields (changeWithinKind node : Draw G Tree) fun value =>
      value.nodeCount ≤ node.nodeCount + 3 := by
  have stays (value : Tree) : Draw.Yields (pure value : Draw G Tree) fun result =>
      result.nodeCount ≤ value.nodeCount + 3 := Draw.yields_pure (Nat.le_add_right _ 3)
  cases node with
  | atom a =>
    cases a with
    | nil => exact nodeCount_randomAction_le.mono fun value h => h.trans (by decide)
    | number n => exact (Draw.yields_true _).bind fun _ _ => stays _
    | bool | symbol => exact stays _
  | form nodes =>
    cases nodes with
    | nil => exact stays _
    | cons head args =>
      simp only [changeWithinKind]
      cases head.operator? with
      | none => exact stays _
      | some operator =>
        cases operator with
        | arithmetic => exact stays _
        | sensor =>
          refine (Draw.yields_true _).bind fun sensor _ => Draw.yields_pure ?_
          simp only [nodeCount, nodeCounts]
          omega
        | action =>
          refine nodeCount_randomAction_le.mono fun value h => ?_
          simp only [nodeCount]
          omega
        | comparison =>
          exact (Draw.yields_true _).bind fun _ _ => stays (.form (head :: args))
        | control control =>
          cases control with
          | branch =>
            refine Draw.yields_pure ?_
            have swapped := nodeCounts_swapped_le args
            simp only [nodeCount]
            omega
          | loop =>
            refine (Draw.yields_true _).bind fun step _ => Draw.yields_pure ?_
            have body := nodeCount_argument_le args 1
            simp only [nodeCount, nodeCounts]
            omega
          | sequence =>
            refine (Draw.yields_shuffle args).bind fun shuffled perm => Draw.yields_pure ?_
            have same := nodeCounts_perm perm
            simp only [nodeCount]
            omega

/-- A collapsed node has no more nodes than before. -/
theorem nodeCount_collapse_le (node : Tree) :
    Draw.Yields (collapse node : Draw G Tree) fun value => value.nodeCount ≤ node.nodeCount := by
  have nil : Draw.Yields (pure .nil : Draw G Tree) fun value => value.nodeCount ≤ node.nodeCount :=
    Draw.yields_pure node.nodeCount_pos
  cases node with
  | atom a => exact nil
  | form nodes =>
    cases nodes with
    | nil => exact nil
    | cons head args =>
      have part (i : Nat) : (argument args i).nodeCount ≤ (Tree.form (head :: args)).nodeCount := by
        have bound := nodeCount_argument_le args i
        simp only [nodeCount]
        omega
      simp only [collapse]
      cases head.operator? with
      | none => exact nil
      | some operator =>
        cases operator with
        | sensor | action | comparison | arithmetic => exact nil
        | control control =>
          cases control with
          | branch =>
            refine (Draw.yields_choose _ _).mono fun arm member => ?_
            simp only [List.mem_cons, List.not_mem_nil, or_false] at member
            rcases member with rfl | rfl
            · exact part 1
            · exact part 2
          | loop => exact Draw.yields_pure (part 1)
          | sequence =>
            dsimp only
            split
            · refine (Draw.yields_choose args _).mono fun element member => ?_
              have among := nodeCount_le_nodeCounts member
              simp only [nodeCount]
              omega
            · exact nil

end

/-! ## The place of an edit -/

/-- Whether a tree is another one with the part at a path replaced by a value, and nothing else: a
node that is neither above nor below is where it was. -/
structure Tree.Replaced (program : Tree) (path : Path) (value result : Tree) : Prop where
  set : program.set path value = .ok result
  found : result.get path = .ok value
  frame : ∀ other ∈ program.paths, ¬other <+: path → ¬path <+: other →
    other ∈ result.paths ∧ result.get other = program.get other

/-- Whether a tree is another one with a value inserted at a path, the last position of which is one
among the elements of a sequence, and nothing else: a node that is not above is where it was, or one
place further if it is there or after it. -/
structure Tree.Inserted (program : Tree) (path : Path) (value result : Tree) : Prop where
  set : ∃ args i, path.getLastD 0 = ((i + 1 : Nat) : Int) ∧
    program.get path.dropLast = .ok (apply (.control .sequence) args) ∧
    program.set path.dropLast (apply (.control .sequence) (args.insertIdx i value)) = .ok result
  found : result.get path = .ok value
  frame : ∀ other ∈ program.paths, ¬other <+: path.dropLast →
    Path.displaced (path.getLastD 0) path.dropLast other ∈ result.paths ∧
      result.get (Path.displaced (path.getLastD 0) path.dropLast other) = program.get other

/-- Whether an edit is one that puts a copy of a node next to it: the node is to be doubled, and it
is an element of a sequence. -/
def Tree.Doubles (program : Tree) (path : Path) (edit : Edit) : Prop :=
  edit = .duplicate ∧ ∃ args, program.get path.dropLast = .ok (apply (.control .sequence) args)

/-- Whether a tree is another one after an edit at a node: a copy of the node was inserted or
something took its place, and few nodes were added, or none if the node collapsed. -/
structure Tree.Edited (program : Tree) (path : Path) (node : Tree) (edit : Edit) (result : Tree) :
    Prop where
  inserted : Doubles program path edit → Inserted program path node result
  replaced : ¬Doubles program path edit → ∃ value, Replaced program path value result
  collapsed : edit = .collapse → result.nodeCount ≤ program.nodeCount
  nodeCount_le : result.nodeCount ≤ program.nodeCount + node.nodeCount + 4

variable {program node : Tree} {path : Path}

/-- What is put in the place of a node replaces it, and exchanges its nodes. -/
theorem Tree.Reaches.exists_replaced (h : Reaches program path node) (value : Tree) :
    ∃ result, program.set path value = .ok result ∧ Replaced program path value result ∧
      result.nodeCount + node.nodeCount = program.nodeCount + value.nodeCount := by
  obtain ⟨result, set⟩ := exists_set_of_reaches h value
  have frame (other : Path) (member : other ∈ program.paths) := h.get_set_of_apart set member
  exact ⟨result, set, ⟨set, (h.reaches_set set).get_eq, frame⟩, h.nodeCount_set set⟩

/-- A copy of an element of a sequence is inserted in front of it, and adds its nodes. -/
theorem Tree.Reaches.exists_inserted {args : List Tree} (h : Reaches program path node)
    (below : path ≠ [])
    (parent : program.get path.dropLast = .ok (apply (.control .sequence) args)) :
    ∃ result, duplicateAt program path node = .ok result ∧ Inserted program path node result ∧
      result.nodeCount = program.nodeCount + node.nodeCount := by
  obtain ⟨i, last, found, reaches, -⟩ := h.exists_element below parent
  have bound := (List.getElem?_eq_some_iff.mp found).1
  obtain ⟨result, set⟩ :=
    exists_set_of_reaches reaches (apply (.control .sequence) (args.insertIdx i node))
  have whole : path.dropLast ++ [((i + 1 : Nat) : Int)] = path := by
    rw [← last, List.getLastD_eq_getLast?, List.getLast?_eq_some_getLast below, Option.getD_some,
      List.dropLast_append_getLast]
  have copy : Reaches result path node := by
    have self : (args.insertIdx i node)[i]? = some node :=
      List.getElem?_insertIdx_self.trans (if_pos (Nat.le_of_lt bound))
    have inside := (reaches.reaches_set set).append (.into self .here)
    rwa [whole] at inside
  have frame (other : Path) (member : other ∈ program.paths) (above : ¬other <+: path.dropLast) :
      Path.displaced (path.getLastD 0) path.dropLast other ∈ result.paths ∧
        result.get (Path.displaced (path.getLastD 0) path.dropLast other) =
          program.get other := by
    obtain ⟨apart, goes⟩ := exists_reaches_of_mem_paths member
    have stays := reaches.reaches_insert set goes above
    rw [last]
    exact ⟨stays.mem_paths, by rw [stays.get_eq, goes.get_eq]⟩
  have count := reaches.nodeCount_set set
  rw [nodeCount, nodeCount, nodeCounts_insertIdx (Nat.le_of_lt bound)] at count
  refine ⟨result, ?_, ⟨⟨args, i, last, parent, set⟩, copy.get_eq, frame⟩, by omega⟩
  rw [duplicateAt_element parent last, set]

/-- Elsewhere than in a sequence, a sequence of two copies replaces the node. -/
theorem duplicateAt_of_not_sequence (h : Reaches program path node) (below : path ≠ [])
    (elsewhere : ¬∃ args, program.get path.dropLast = .ok (apply (.control .sequence) args)) :
    duplicateAt program path node =
      program.set path (apply (.control .sequence) [node, node]) := by
  obtain ⟨head, args, i, parent, -, -⟩ := h.exists_parent below
  have other : head.operator? ≠ some (.control .sequence) := by
    intro same
    rw [eq_symbol_of_operator? same] at parent
    exact elsewhere ⟨args, parent.get_eq⟩
  rw [duplicateAt, parent.get_eq]
  exact if_neg other

/-! ## Mutations -/

section

variable {G : Type} [Source G]

/-- An edit at a node. -/
def editAt (program : Tree) (path : Path) (node : Tree) : Edit → Attempt G Tree
  | .wrap => do program.set path (← (wrap node : Draw G _))
  | .change => do program.set path (← (changeWithinKind node : Draw G _))
  | .duplicate => duplicateAt program path node
  | .collapse => do program.set path (← (collapse node : Draw G _))

/-- A mutation is an edit at the node that was picked. -/
theorem outcome_mutateProgram {g : G}
    (picked : (pickPath program g : Option Path × G).1 = some path)
    (found : program.get path = .ok node) :
    (mutateProgram program).outcome g =
      let roll : Double × G := Draw.unit (pickPath program g : Option Path × G).2
      (editAt program path node (Edit.ofRoll roll.1)).outcome roll.2 := by
  rw [mutateProgram, Attempt.outcome_bind_of_ok (Attempt.outcome_draw _ g), picked]
  generalize (pickPath program g : Option Path × G).2 = after
  have read : Attempt.outcome (liftM (program.get path) : Attempt G Tree) after =
      (.ok node, after) := by
    rw [found]
    rfl
  dsimp only
  rw [Attempt.outcome_bind_of_ok read, Attempt.outcome_bind_of_ok (Attempt.outcome_draw _ after)]
  cases Edit.ofRoll (Draw.unit after : Double × G).1 <;> rfl

/-- Once something is chosen, something is chosen in the end. -/
theorem yields_reservoir_isSome {α : Type} (seen : Nat) {chosen : Option α} (h : chosen.isSome)
    (candidates : List α) :
    Draw.Yields (reservoir seen chosen candidates : Draw G (Option α)) (·.isSome) := by
  induction candidates generalizing seen chosen with
  | nil => exact Draw.yields_pure h
  | cons candidate rest ih =>
    refine (Draw.yields_true _).bind fun i _ => ih _ ?_
    split
    · rfl
    · exact h

/-- A node other than the root is picked if there is one. -/
theorem yields_pickPath_isSome (h : program.paths.tail ≠ []) :
    Draw.Yields (pickPath program : Draw G (Option Path)) (·.isSome) := by
  unfold pickPath
  cases candidates : program.paths.tail with
  | nil => exact absurd candidates h
  | cons candidate rest =>
    refine (Draw.yields_true _).bind fun i _ => yields_reservoir_isSome _ ?_ rest
    -- The first draw is one among one, so the first candidate is chosen for the time being.
    rw [if_pos (by omega)]
    rfl

omit [Source G] in
/-- What is drawn replaces the node. If it is small enough, the edit is of bounded size. -/
theorem exists_edited_of_yields (h : Reaches program path node) {edit : Edit}
    (single : edit ≠ .duplicate) {draw : Draw G Tree} {bound : Nat}
    (hd : Draw.Yields draw fun value => value.nodeCount ≤ bound)
    (collapses : edit = .collapse → bound ≤ node.nodeCount)
    (room : bound ≤ 2 * node.nodeCount + 4) (g : G) :
    ∃ result after, Attempt.outcome (do program.set path (← draw) : Attempt G Tree) g =
      (.ok result, after) ∧ Edited program path node edit result := by
  obtain ⟨result, set, replaced, count⟩ := h.exists_replaced (draw g).1
  have small : (draw g).1.nodeCount ≤ bound := hd g
  refine ⟨result, (draw g).2, ?_, ?_, fun _ => ⟨_, replaced⟩, fun collapse => ?_, by omega⟩
  · rw [Attempt.outcome_bind_of_ok (Attempt.outcome_draw draw g), set]
    rfl
  · exact fun doubles => absurd doubles.1 single
  · have smaller := collapses collapse
    omega

/-- An edit inserts a copy of an element of a sequence or replaces the node, and adds at most the
nodes of the node and four more. -/
theorem exists_edited (h : Reaches program path node) (below : path ≠ []) (edit : Edit) (g : G) :
    ∃ result after, (editAt program path node edit).outcome g = (.ok result, after) ∧
      Edited program path node edit result := by
  have positive := node.nodeCount_pos
  cases edit with
  | wrap =>
    have single : Edit.wrap ≠ .duplicate := by decide
    exact exists_edited_of_yields h single (nodeCount_wrap_le node) nofun le_rfl g
  | change =>
    have single : Edit.change ≠ .duplicate := by decide
    exact exists_edited_of_yields h single (nodeCount_changeWithinKind_le node) nofun (by omega) g
  | collapse =>
    have single : Edit.collapse ≠ .duplicate := by decide
    exact exists_edited_of_yields h single (nodeCount_collapse_le node) (fun _ => le_rfl)
      (by omega) g
  | duplicate =>
    by_cases sequence : ∃ args, program.get path.dropLast = .ok (apply (.control .sequence) args)
    · obtain ⟨args, parent⟩ := sequence
      obtain ⟨result, outcome, inserted, count⟩ := h.exists_inserted below parent
      refine ⟨result, g, ?_, fun _ => inserted, ?_, nofun, by omega⟩
      · rw [editAt, outcome]
        rfl
      · exact fun single => absurd ⟨rfl, args, parent⟩ single
    · obtain ⟨result, outcome, replaced, count⟩ :=
        h.exists_replaced (apply (.control .sequence) [node, node])
      have two : (apply (.control .sequence) [node, node]).nodeCount = 2 * node.nodeCount + 1 := by
        simp only [nodeCount, nodeCounts]
        omega
      refine ⟨result, g, ?_, ?_, fun _ => ⟨_, replaced⟩, nofun, by omega⟩
      · rw [editAt, duplicateAt_of_not_sequence h below sequence, outcome]
        rfl
      · exact fun doubles => absurd doubles.2 sequence

/-- A mutation is one edit at one node, of bounded size. A program without a node other than its
root, be it well formed or not, stays as it is. Otherwise a node other than the root is picked. If
it is to be doubled and is an element of a sequence, the result is the program with a copy of it
inserted in front of it; otherwise the result is the program with something in the place of the
node. In both cases every node that is neither above nor below the node that was picked is still
there, and in the first case all that the insertion displaced is, one place further. The result has
at most as many nodes as the program and the node have together and four more, which is at most
twice as many as the program has and three more. A collapse adds no nodes. -/
theorem mutation_local (program : Tree) (g : G) :
    (program.paths.tail = [] → ((mutateProgram program).outcome g).1 = .ok program) ∧
    (program.paths.tail ≠ [] →
      ∃ path node result, (pickPath program g : Option Path × G).1 = some path ∧
        path ∈ program.paths ∧ path ≠ [] ∧ program.get path = .ok node ∧
        ((mutateProgram program).outcome g).1 = .ok result ∧
        Edited program path node
          (Edit.ofRoll (Draw.unit (pickPath program g : Option Path × G).2 : Double × G).1) result ∧
        program.nodeCount + node.nodeCount + 4 ≤ 2 * program.nodeCount + 3) := by
  have picks := yields_pickPath program g
  constructor
  · intro single
    have nothing : pickPath program g = ((none, g) : Option Path × G) := by
      rw [pickPath, single]
      rfl
    rw [mutateProgram, Attempt.outcome_bind_of_ok (Attempt.outcome_draw _ g), nothing]
    rfl
  · intro several
    obtain ⟨path, picked⟩ := Option.isSome_iff_exists.mp (yields_pickPath_isSome several g)
    obtain ⟨below, node, reaches⟩ := picks path picked
    obtain ⟨result, after, outcome, edited⟩ := exists_edited reaches below
      (Edit.ofRoll (Draw.unit (pickPath program g : Option Path × G).2 : Double × G).1)
      (Draw.unit (pickPath program g : Option Path × G).2 : Double × G).2
    have smaller := reaches.nodeCount_lt below
    refine ⟨path, node, result, picked, reaches.mem_paths, below, reaches.get_eq, ?_, edited,
      by omega⟩
    rw [outcome_mutateProgram picked reaches.get_eq]
    exact congrArg Prod.fst outcome

end

end Vivarium
