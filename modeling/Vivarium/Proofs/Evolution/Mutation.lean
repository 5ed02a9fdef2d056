import Vivarium.Evolution.Program
import Vivarium.Proofs.Program.Locus
import Vivarium.Proofs.Random.Yields

/-!
# Mutations stay within a grammar

Where a grammar is closed, everything that an edit draws is of the grammar when the node that it
changes is. So a mutation of a program of the grammar comes to a program of the grammar, never
fails, and leaves the operator at the root.
-/

namespace Vivarium

open Vivarium.Tree

/-- Whether a grammar has what the edits of a mutation need: nil, numbers that are not negative,
moved numbers, and the forms that are drawn or changed. -/
structure Tree.Grammar.Closed (grammar : Grammar) : Prop where
  nil : grammar.atom .nil
  int : ∀ n, 0 ≤ n → grammar.atom (.number (.int n))
  nudge : ∀ n step, grammar.atom (.number n) → grammar.atom (.number (nudge n step))
  sensor : ∀ sensor, grammar.form (.sensor sensor) 0
  action : ∀ action, action ≠ .fork → grammar.form (.action action) 0
  fork : grammar.form (.action .fork) 1
  comparison : ∀ comparison, grammar.form (.comparison comparison) 2
  redraw : ∀ comparison other n, grammar.form (.comparison comparison) n →
    grammar.form (.comparison other) n
  branch : grammar.form (.control .branch) 3
  pad : ∀ n, grammar.form (.control .branch) n → grammar.form (.control .branch) (max 3 n)
  loop : grammar.form (.control .loop) 2
  sequence : ∀ n, 1 ≤ n → grammar.form (.control .sequence) n

variable {G : Type} [Source G] {grammar : Grammar}

/-- A form of a closed grammar without arguments. -/
theorem conforms_apply_nil {operator : Operator} (h : grammar.form operator 0) :
    Conforms grammar (apply operator []) :=
  .form h nofun

/-- A form of a grammar with one argument. -/
theorem conforms_apply_one {operator : Operator} {t : Tree} (h : grammar.form operator 1)
    (ht : Conforms grammar t) : Conforms grammar (apply operator [t]) :=
  .form h fun _ hu => List.mem_singleton.mp hu ▸ ht

/-- A form of a grammar with two arguments. -/
theorem conforms_apply_two {operator : Operator} {t u : Tree} (h : grammar.form operator 2)
    (ht : Conforms grammar t) (hu : Conforms grammar u) :
    Conforms grammar (apply operator [t, u]) := by
  refine .form h fun v hv => ?_
  rcases List.mem_cons.mp hv with rfl | hv
  · exact ht
  · exact List.mem_singleton.mp hv ▸ hu

namespace Tree.Grammar.Closed

variable (closed : grammar.Closed)

include closed

/-- An integer that is not negative is of a closed grammar. -/
theorem conforms_int {n : Int} (h : 0 ≤ n) : Conforms grammar (Tree.int n) :=
  .atom (closed.int n h)

/-- A random action is of a closed grammar. -/
theorem yields_randomAction : Draw.Yields (randomAction : Draw G Tree) (Conforms grammar) := by
  refine (Draw.yields_true _).bind fun action _ => ?_
  by_cases fork : action = .fork
  · subst fork
    refine (Draw.yields_between 20 79 _).bind fun percentage h => Draw.yields_pure ?_
    exact conforms_apply_one closed.fork (closed.conforms_int (by omega))
  · have plain : Draw.Yields (pure (apply (.action action) []) : Draw G Tree) (Conforms grammar) :=
      Draw.yields_pure (conforms_apply_nil (closed.action action fork))
    cases action <;> first | exact plain | exact absurd rfl fork

/-- A random sensor is of a closed grammar. -/
theorem yields_randomSensor : Draw.Yields (randomSensor : Draw G Tree) (Conforms grammar) :=
  (Draw.yields_true _).bind fun sensor _ =>
    Draw.yields_pure (conforms_apply_nil (closed.sensor sensor))

/-- A random comparison is of a closed grammar. -/
theorem yields_randomComparison :
    Draw.Yields (randomComparison : Draw G Tree) (Conforms grammar) := by
  refine (Draw.yields_true _).bind fun comparison _ => ?_
  refine closed.yields_randomSensor.bind fun sensor hs => ?_
  refine (Draw.yields_between 0 99 _).bind fun threshold ht => Draw.yields_pure ?_
  exact conforms_apply_two (closed.comparison comparison) hs (closed.conforms_int ht.1)

/-- A wrapped node is of a closed grammar. -/
theorem yields_wrap {node : Tree} (h : Conforms grammar node) :
    Draw.Yields (wrap node : Draw G Tree) (Conforms grammar) := by
  refine (Draw.yields_true _).bind fun coin _ => ?_
  cases coin with
  | true =>
    refine closed.yields_randomComparison.bind fun condition hc => Draw.yields_pure ?_
    refine .form closed.branch fun t ht => ?_
    simp only [List.mem_cons, List.not_mem_nil, or_false] at ht
    rcases ht with rfl | rfl | rfl
    · exact hc
    · exact h
    · exact h
  | false =>
    exact Draw.yields_pure (conforms_apply_two closed.loop (closed.conforms_int (by decide)) h)

/-- A collapsed node is of a closed grammar. -/
theorem yields_collapse {node : Tree} (h : Conforms grammar node) :
    Draw.Yields (collapse node : Draw G Tree) (Conforms grammar) := by
  have nil : Draw.Yields (pure .nil : Draw G Tree) (Conforms grammar) :=
    Draw.yields_pure (.atom closed.nil)
  cases h with
  | atom h => exact nil
  | @form operator args form each =>
    have argument := conforms_argument closed.nil each
    simp only [collapse, operator?_symbol_name]
    cases operator with
    | control control =>
      cases control with
      | branch =>
        refine (Draw.yields_choose _ _).mono fun arm ha => ?_
        simp only [List.mem_cons, List.not_mem_nil, or_false] at ha
        rcases ha with rfl | rfl
        · exact argument 1
        · exact argument 2
      | loop => exact Draw.yields_pure (argument 1)
      | sequence =>
        dsimp only
        split
        · exact (Draw.yields_choose args _).mono each
        · exact nil
    | sensor | action | comparison | arithmetic => exact nil

/-- A node changed within its kind is of a closed grammar. -/
theorem yields_changeWithinKind {node : Tree} (h : Conforms grammar node) :
    Draw.Yields (changeWithinKind node : Draw G Tree) (Conforms grammar) := by
  cases h with
  | @atom a h =>
    match a with
    | .nil => exact closed.yields_randomAction
    | .number n =>
      exact (Draw.yields_true _).bind fun step _ => Draw.yields_pure (.atom (closed.nudge n step h))
    | .bool _ | .symbol _ => exact Draw.yields_pure (.atom h)
  | @form operator args form each =>
    have argument := conforms_argument closed.nil each
    simp only [changeWithinKind, apply, operator?_symbol_name]
    match operator with
    | .sensor _ => exact closed.yields_randomSensor
    | .action _ => exact closed.yields_randomAction
    | .comparison comparison =>
      exact (Draw.yields_true _).bind fun other _ =>
        Draw.yields_pure (.form (closed.redraw comparison other _ form) each)
    | .arithmetic _ => exact Draw.yields_pure (.form form each)
    | .control .branch =>
      refine Draw.yields_pure (.form ?_ fun t ht => ?_)
      · have length : (Tree.argument args 0 :: Tree.argument args 2 :: Tree.argument args 1 ::
            args.drop 3).length = max 3 args.length := by
          simp only [List.length_cons, List.length_drop]
          omega
        rw [length]
        exact closed.pad _ form
      · simp only [List.mem_cons] at ht
        rcases ht with rfl | rfl | rfl | rest
        · exact argument 0
        · exact argument 2
        · exact argument 1
        · exact each t (List.mem_of_mem_drop rest)
    | .control .loop =>
      refine (Draw.yields_true _).bind fun step _ => Draw.yields_pure ?_
      exact conforms_apply_two closed.loop (closed.conforms_int (by omega)) (argument 1)
    | .control .sequence =>
      refine (Draw.yields_shuffle args).bind fun shuffled perm => Draw.yields_pure ?_
      refine .form ?_ fun t ht => each t (perm.mem_iff.mp ht)
      rwa [perm.length_eq]

/-- Doubling a node other than the root never fails, gives a program of a closed grammar and leaves
the operator at the root. -/
theorem exists_duplicateAt {program node : Tree} {path : Path} (h : Conforms grammar program)
    (reaches : Reaches program path node) (below : path ≠ []) :
    ∃ result, duplicateAt program path node = .ok result ∧ Conforms grammar result ∧
      SameRoot program result := by
  have hn := reaches.conforms h
  obtain ⟨head, args, i, parent, found, last⟩ := reaches.exists_parent below
  obtain ⟨operator, rest, same, form, each⟩ := conforms_form_iff.mp (parent.conforms h)
  obtain ⟨rfl, rfl⟩ := List.cons.inj same
  have bound := (List.getElem?_eq_some_iff.mp found).1
  have place : (path.getLastD 0).toNat = i + 1 := by
    rw [last]
    exact Int.toNat_natCast _
  rw [duplicateAt, parent.get_eq]
  change ∃ result, (if (symbol operator.name).operator? = _ then _ else _) = _ ∧ _
  rw [operator?_symbol_name]
  by_cases sequence : operator = .control .sequence
  · subst sequence
    rw [if_pos rfl, place]
    have longer : Conforms grammar
        (.form ((symbol (Operator.control .sequence).name :: args).insertIdx (i + 1) node)) := by
      rw [List.insertIdx_succ_cons]
      refine .form (closed.sequence _ ?_) fun t ht => ?_
      · rw [List.length_insertIdx_of_le_length (Nat.le_of_lt bound)]
        omega
      · rcases List.eq_or_mem_of_mem_insertIdx ht with rfl | old
        · exact hn
        · exact each t old
    obtain ⟨result, hs, conforms, root⟩ := parent.exists_set
      (.form ((symbol (Operator.control .sequence).name :: args).insertIdx (i + 1) node))
    refine ⟨result, hs, conforms h longer, ?_⟩
    by_cases top : path.dropLast = []
    · rw [top] at hs parent
      cases parent
      cases hs
      intro other others eq
      obtain ⟨head, -⟩ := List.cons.inj (Tree.form.inj eq)
      rw [List.insertIdx_succ_cons, head]
      exact ⟨_, rfl⟩
    · exact root top
  · rw [if_neg (by simpa using sequence)]
    have both : Conforms grammar (apply (.control .sequence) [node, node]) :=
      conforms_apply_two (closed.sequence 2 (by decide)) hn hn
    obtain ⟨result, hs, conforms, root⟩ :=
      reaches.exists_set (apply (.control .sequence) [node, node])
    exact ⟨result, hs, conforms h both, root below⟩

end Tree.Grammar.Closed

/-- What goes through candidates comes to one of them, or to the choice so far. -/
theorem yields_reservoir {α : Type} (seen : Nat) (chosen : Option α) (candidates : List α) :
    Draw.Yields (reservoir seen chosen candidates : Draw G (Option α))
      fun found => ∀ a, found = some a → chosen = some a ∨ a ∈ candidates := by
  induction candidates generalizing seen chosen with
  | nil => exact Draw.yields_pure fun a h => .inl h
  | cons candidate rest ih =>
    refine (Draw.yields_true _).bind fun i _ => (ih _ _).mono fun found h a ha => ?_
    rcases h a ha with chose | later
    · split at chose
      · cases chose
        exact .inr List.mem_cons_self
      · exact .inl chose
    · exact .inr (List.mem_cons_of_mem candidate later)

/-- The path that is picked leads to a node other than the root. -/
theorem yields_pickPath (t : Tree) :
    Draw.Yields (pickPath t : Draw G (Option Path))
      fun found => ∀ path, found = some path → path ≠ [] ∧ ∃ node, Reaches t path node := by
  refine (yields_reservoir 0 none t.paths.tail).mono fun found h path hp => ?_
  rcases h path hp with chose | listed
  · contradiction
  · obtain ⟨member, below⟩ := of_mem_tail_paths listed
    exact ⟨below, exists_reaches_of_mem_paths member⟩

omit [Source G] in
/-- Putting what is drawn in the place of a node other than the root never fails, gives a program of
the grammar and leaves the operator at the root. -/
theorem exists_outcome_set {program node : Tree} {path : Path} (h : Conforms grammar program)
    (reaches : Reaches program path node) (below : path ≠ []) {draw : Draw G Tree}
    (hd : Draw.Yields draw (Conforms grammar)) (g : G) :
    ∃ result after, Attempt.outcome (do program.set path (← draw) : Attempt G Tree) g =
        (.ok result, after) ∧ Conforms grammar result ∧ SameRoot program result := by
  obtain ⟨result, hs, conforms, root⟩ := reaches.exists_set (draw g).1
  refine ⟨result, (draw g).2, ?_, conforms h (hd g), root below⟩
  rw [Attempt.outcome_bind_of_ok (Attempt.outcome_draw draw g), hs]
  rfl

/-- A mutation of a program of a closed grammar never fails, gives a program of the grammar and
leaves the operator at the root. -/
theorem exists_mutateProgram (closed : grammar.Closed) {program : Tree}
    (h : Conforms grammar program) (g : G) :
    ∃ result after, (mutateProgram program).outcome g = (.ok result, after) ∧
      Conforms grammar result ∧ SameRoot program result := by
  have picks := yields_pickPath program g
  rw [mutateProgram, Attempt.outcome_bind_of_ok (Attempt.outcome_draw _ g)]
  generalize (pickPath program g : Option Path × G) = picked at *
  obtain ⟨found, g⟩ := picked
  cases found with
  | none => exact ⟨program, g, rfl, h, fun _ args same => ⟨args, same⟩⟩
  | some path =>
    obtain ⟨below, node, reaches⟩ := picks path rfl
    have hn := reaches.conforms h
    have read : Attempt.outcome (liftM (program.get path) : Attempt G Tree) g = (.ok node, g) := by
      rw [reaches.get_eq]
      rfl
    dsimp only
    rw [Attempt.outcome_bind_of_ok read, Attempt.outcome_bind_of_ok (Attempt.outcome_draw _ g)]
    generalize (Draw.unit g : Double × G) = roll
    cases Edit.ofRoll roll.1 with
    | wrap => exact exists_outcome_set h reaches below (closed.yields_wrap hn) roll.2
    | change => exact exists_outcome_set h reaches below (closed.yields_changeWithinKind hn) roll.2
    | collapse => exact exists_outcome_set h reaches below (closed.yields_collapse hn) roll.2
    | duplicate =>
      obtain ⟨result, doubled, conforms, root⟩ := closed.exists_duplicateAt h reaches below
      refine ⟨result, roll.2, ?_, conforms, root⟩
      dsimp only
      rw [doubled]
      rfl

end Vivarium
