import Vivarium.Program.Evaluation
import Vivarium.Proofs.Program.Grammar

/-!
# Plain programs

A program is plain if its forms are empty or headed by an atom and it has no doubles. Heads need not
name an operator, and there may be too many or too few arguments. An evaluation of a plain program
never stops with a fault where the sensors can be read, what it leaves waiting is plain, and no fork
that it asks for has a double as its percentage.
-/

namespace Vivarium

/-- Whether an atom is no double. -/
def Atom.Whole : Atom → Prop
  | .number (.double _) => False
  | _ => True

/-- Whether all forms of a tree are empty or headed by an atom, and all atoms are whole. -/
inductive Plain : Tree → Prop where
  /-- A whole atom. -/
  | atom {a : Atom} (h : a.Whole) : Plain (.atom a)
  /-- The empty form. -/
  | empty : Plain (.form [])
  /-- A form headed by an atom, which may be anything. -/
  | form (head : Atom) {args : List Tree} (each : ∀ t ∈ args, Plain t) :
    Plain (.form (.atom head :: args))

/-- Whether what is left to evaluate in a frame is plain. -/
def Frame.Plain : Frame → Prop
  | .leftOperand _ second => Vivarium.Plain second
  | .rightOperand _ first => first.Whole
  | .condition yes no => Vivarium.Plain yes ∧ Vivarium.Plain no
  | .sequence rest => ∀ t ∈ rest, Vivarium.Plain t
  | .count body => Vivarium.Plain body
  | .rounds body _ => Vivarium.Plain body
  | .percentage => True

/-- Whether a request asks for no double as a percentage. -/
def Request.Whole (request : Request) : Prop :=
  ∀ n, request = .fork (some n) → ∃ m, n = .int m

/-- Whether an evaluation comes to a whole value, or to a whole request that leaves plain frames
waiting. -/
def Outcome.Plain : Outcome → Prop
  | .value v => v.Whole
  | .request r waiting => r.Whole ∧ ∀ frame ∈ waiting, frame.Plain

/-- Whether a held evaluation is suspended and leaves plain frames waiting, if one is held. -/
def Execution.Plain : Option Execution → Prop
  | none => True
  | some (.suspended waiting) => ∀ frame ∈ waiting, frame.Plain
  | some .spent => False

/-- Whether the cells that an animal senses can be read. -/
structure Senses.Sound (senses : Senses) : Prop where
  foodHere : ∃ food, senses.foodHere = .ok food
  foodAhead : ∃ food, senses.foodAhead = .ok food

/-- Whether an evaluation does not fail and is plain. -/
def Comes (attempt : Except Fault Outcome) : Prop :=
  ∃ outcome, attempt = .ok outcome ∧ outcome.Plain

/-- A whole value is come to at once. -/
theorem comes_value {v : Atom} (h : v.Whole) : Comes (.ok (.value v)) := ⟨_, rfl, h⟩

/-- Sound sensors can be read. -/
theorem Senses.Sound.exists_read {senses : Senses} (h : senses.Sound) (sensor : Sensor) :
    ∃ value, senses.read sensor = .ok value := by
  cases sensor with
  | foodHere => exact h.foodHere
  | foodAhead => exact h.foodAhead
  | ownEnergy => exact ⟨senses.energy, rfl⟩

/-- A whole atom counts as an integer. -/
theorem Atom.Whole.exists_operand {a : Atom} (h : a.Whole) : ∃ n, a.operand = .int n := by
  match a with
  | .nil | .symbol _ => exact ⟨0, rfl⟩
  | .bool b => exact ⟨if b then 1 else 0, rfl⟩
  | .number (.int n) => exact ⟨n, rfl⟩

/-- The value of a whole atom is whole. -/
theorem Atom.Whole.evaluated {a : Atom} (h : a.Whole) : a.evaluated.Whole := by
  match a with
  | .nil => exact trivial
  | .bool _ | .symbol _ | .number (.int _) => exact h

/-- A fork by a whole atom is a whole request. -/
theorem Atom.Whole.request {a : Atom} (h : a.Whole) : (Request.fork a.number?).Whole := by
  intro n hn
  match a with
  | .nil | .symbol _ => simp [Atom.number?] at hn
  | .bool b => exact ⟨if b then 1 else 0, (Option.some.inj (Request.fork.inj hn).symm)⟩
  | .number (.int m) => exact ⟨m, (Option.some.inj (Request.fork.inj hn).symm)⟩

/-- A fork by a whole atom is asked for at once. -/
theorem comes_fork {v : Atom} (h : v.Whole) : Comes (.ok (.request (.fork v.number?) [])) :=
  ⟨_, rfl, h.request, nofun⟩

/-- An action without a parameter is asked for at once. -/
theorem comes_act (action : Action) : Comes (.ok (.request (.act action) [])) :=
  ⟨_, rfl, nofun, nofun⟩

/-- The quotient truncated toward zero has the quotient of the magnitudes as its own. It is negative if
the dividend is negative just if the divisor is positive. -/
theorem tdiv_eq_natAbs (m : Int) {n : Int} (h : n ≠ 0) :
    m.tdiv n = if decide (m < 0) = decide (0 < n) then -((m.natAbs / n.natAbs : Nat) : Int)
      else ((m.natAbs / n.natAbs : Nat) : Int) := by
  by_cases nothing : m = 0
  · simp [nothing]
  · obtain ⟨a, rfl | rfl⟩ := m.eq_nat_or_neg <;> obtain ⟨b, rfl | rfl⟩ := n.eq_nat_or_neg <;>
      simp only [Int.tdiv_neg, Int.neg_tdiv, Int.natAbs_neg, Int.natAbs_natCast,
        ← Int.ofNat_tdiv] <;> grind

/-- The quotient of integers is truncated toward zero, and zero for a zero divisor. -/
theorem quotient_int (m n : Int) :
    (Number.int m).quotient (.int n) = .ok (if n = 0 then 0 else m.tdiv n) := by
  rw [Number.quotient]
  by_cases zero : n = 0
  · have isZero : (Number.int n).isZero := by simpa [Number.isZero] using zero
    rw [if_pos isZero, if_pos zero]
  · have divisor : (Number.int n).isZero = false := by simpa [Number.isZero] using zero
    have magnitude : ¬ (n.natAbs : Int) = 0 := by omega
    have whole : (m.natAbs : Int).fdiv n.natAbs = ((m.natAbs / n.natAbs : Nat) : Int) :=
      (Int.ofNat_fdiv m.natAbs n.natAbs).symm
    rw [divisor, if_neg zero, Number.abs, Number.abs, Number.floorDiv, if_neg magnitude, whole,
      tdiv_eq_natAbs m zero]
    rfl

/-- Whole values are combined to a whole value. -/
theorem exists_combine (combination : Combination) {a b : Atom} (ha : a.Whole) (hb : b.Whole) :
    ∃ c, combination.apply a b = .ok c ∧ c.Whole := by
  obtain ⟨m, hm⟩ := ha.exists_operand
  obtain ⟨n, hn⟩ := hb.exists_operand
  cases combination with
  | comparison operator => exact ⟨_, rfl, trivial⟩
  | arithmetic operator =>
    rw [Combination.apply, hm, hn]
    cases operator with
    | add | subtract | multiply => exact ⟨_, rfl, trivial⟩
    | divide =>
      rw [Arithmetic.apply, quotient_int]
      exact ⟨_, rfl, trivial⟩

/-- What is handed on from a plain frame by a plain evaluation is plain. -/
theorem Comes.andThen {first : Except Fault Outcome} (h : Comes first) (frame : Frame)
    (hf : frame.Plain) {next : Atom → Except Fault Outcome}
    (hn : ∀ v : Atom, v.Whole → Comes (next v)) :
    Comes (do (← first).andThen frame next) := by
  obtain ⟨outcome, rfl, plain⟩ := h
  cases outcome with
  | value v => exact hn v plain
  | request r waiting =>
    refine ⟨.request r (waiting ++ [frame]), rfl, plain.1, fun other ho => ?_⟩
    rcases List.mem_append.mp ho with before | last
    · exact plain.2 other before
    · rw [List.mem_singleton.mp last]
      exact hf

/-- A plain right operand is combined with a whole left one. -/
theorem Comes.combine {right : Except Fault Outcome} (h : Comes right) (combination : Combination)
    {a : Atom} (ha : a.Whole) :
    Comes (do (← right).andThen (.rightOperand combination a) fun b =>
      return .value (← combination.apply a b)) :=
  h.andThen (.rightOperand combination a) ha fun b hb => by
    obtain ⟨c, hc, whole⟩ := exists_combine combination ha hb
    rw [hc]
    exact comes_value whole

/-- The rounds of a plain loop are plain. -/
theorem comes_playRounds {body : Tree} (hb : Plain body) {once : Except Fault Outcome}
    (h : Comes once) (n : Nat) : Comes (playRounds body once n) := by
  cases n with
  | zero => exact comes_value trivial
  | succ n => exact h.andThen (.rounds body n) hb fun _ _ => comes_value trivial

/-- A plain loop with a whole count is plain. -/
theorem comes_playLoop {body : Tree} (hb : Plain body) {once : Except Fault Outcome}
    (h : Comes once) {count : Atom} (hc : count.Whole) : Comes (playLoop body once count) := by
  obtain ⟨n, hn⟩ := hc.exists_operand
  rw [playLoop, hn, Number.truncate_int]
  exact comes_playRounds hb h n.toNat

/-- An argument of plain ones is plain, also a missing one. -/
theorem plain_argument {args : List Tree} (each : ∀ t ∈ args, Plain t) (i : Nat) :
    Plain (Tree.argument args i) :=
  Tree.argument_of_forall (.atom trivial) each i

/-- Trees that come to something in any order come to something in a row. -/
theorem comes_evaluateSequence {senses : Senses} {ts : List Tree} (each : ∀ t ∈ ts, Plain t)
    (h : ∀ t ∈ ts, Comes (evaluate senses t)) {last : Atom} (hl : last.Whole) :
    Comes (evaluateSequence senses ts last) := by
  induction ts generalizing last with
  | nil => exact comes_value hl
  | cons t ts ih =>
    rw [List.forall_mem_cons] at each h
    rw [evaluateSequence]
    exact h.1.andThen (.sequence ts) each.2 fun v hv => ih each.2 h.2 hv

variable {senses : Senses} (sound : senses.Sound)
include sound

/-- A plain tree is evaluated without a fault. -/
theorem comes_evaluate {t : Tree} (h : Plain t) : Comes (evaluate senses t) := by
  induction h with
  | atom h => exact comes_value h.evaluated
  | empty => exact comes_value trivial
  | @form head args each ih =>
    have argument (i : Nat) : Comes (evaluateArgument senses args i) := by
      have missing : Comes (evaluate senses .nil) := comes_value trivial
      rw [evaluateArgument_eq]
      exact Tree.argument_of_forall missing ih i
    have plain := plain_argument each
    have combines (combination : Combination) :=
      (argument 0).andThen (.leftOperand combination (Tree.argument args 1)) (plain 1)
        fun a ha => (argument 1).combine combination ha
    have lookup : (Tree.atom head).lookup = .ok (Tree.atom head).operator? := rfl
    rw [evaluate, lookup]
    cases (Tree.atom head).operator? with
    | none => exact comes_value trivial
    | some operator =>
      cases operator with
      | sensor sensor =>
        obtain ⟨value, read⟩ := sound.exists_read sensor
        change Comes (do return .value (.number (.int (← senses.read sensor))))
        rw [read]
        exact comes_value trivial
      | arithmetic operator => exact combines (.arithmetic operator)
      | comparison operator => exact combines (.comparison operator)
      | control control =>
        cases control with
        | branch =>
          refine (argument 0).andThen (.condition _ _) ⟨plain 1, plain 2⟩ fun condition _ => ?_
          split
          · exact argument 1
          · exact argument 2
        | sequence => exact comes_evaluateSequence each ih trivial
        | loop =>
          exact (argument 0).andThen (.count _) (plain 1) fun count hc =>
            comes_playLoop (plain 1) (argument 1) hc
      | action action =>
        cases action with
        | fork => exact (argument 0).andThen .percentage trivial fun _ whole => comes_fork whole
        | _ => exact comes_act _

/-- A plain frame goes on without a fault. -/
theorem comes_resume {frame : Frame} (h : frame.Plain) {v : Atom} (hv : v.Whole) :
    Comes (frame.resume senses v) := by
  cases frame with
  | leftOperand combination second => exact (comes_evaluate sound h).combine combination hv
  | rightOperand combination first =>
    obtain ⟨c, hc, whole⟩ := exists_combine combination h hv
    rw [Frame.resume, hc]
    exact comes_value whole
  | condition yes no =>
    rw [Frame.resume]
    split
    · exact comes_evaluate sound h.1
    · exact comes_evaluate sound h.2
  | sequence rest =>
    exact comes_evaluateSequence h (fun t ht => comes_evaluate sound (h t ht)) hv
  | count body => exact comes_playLoop h (comes_evaluate sound h) hv
  | rounds body remaining => exact comes_playRounds h (comes_evaluate sound h) remaining
  | percentage => exact comes_fork hv

/-- Plain frames go on without a fault. -/
theorem comes_deliver {frames : List Frame} (h : ∀ frame ∈ frames, frame.Plain) {v : Atom}
    (hv : v.Whole) : Comes (deliver senses frames v) := by
  induction frames generalizing v with
  | nil => exact comes_value hv
  | cons frame frames ih =>
    rw [List.forall_mem_cons] at h
    obtain ⟨outcome, resumed, plain⟩ := comes_resume sound h.1 hv
    rw [deliver, resumed]
    cases outcome with
    | value v => exact ih h.2 plain
    | request r waiting =>
      refine ⟨.request r (waiting ++ frames), rfl, plain.1, fun other ho => ?_⟩
      rcases List.mem_append.mp ho with inner | outer
      · exact plain.2 other inner
      · exact h.2 other outer

/-- A held evaluation of a plain program goes on without a fault, and stays plain. -/
theorem comes_advance {program : Tree} (hp : Plain program) {held : Option Execution}
    (h : Execution.Plain held) : Comes (advance senses program held) := by
  match held with
  | none => exact comes_evaluate sound hp
  | some (.suspended waiting) => exact comes_deliver sound h trivial

end Vivarium
