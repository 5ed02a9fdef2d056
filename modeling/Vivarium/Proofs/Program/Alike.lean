import Mathlib.Data.List.Forall2
import Vivarium.Proofs.Program.Locus
import Vivarium.Proofs.Program.Plain

/-!
# Programs that go alike

Two evaluations go alike when, wherever the sensors can be read, they come to the same fault, the
same value or the same request, and go alike again after each action. What is read on the way does
not matter. Trees that go alike can be exchanged for each other at any place of a program: the main
statement is that the whole programs go alike then.
-/

namespace Vivarium

/-- Whether two evaluations come to the same: a fault, a value, or a request that leaves related
frames waiting. -/
inductive Agrees (related : List Frame → List Frame → Prop) :
    Except Fault Outcome → Except Fault Outcome → Prop where
  /-- The same fault. -/
  | fault (fault : Fault) : Agrees related (.error fault) (.error fault)
  /-- The same value. -/
  | value (v : Atom) : Agrees related (.ok (.value v)) (.ok (.value v))
  /-- The same request, with related frames waiting. -/
  | request (request : Request) {waiting waiting' : List Frame} (h : related waiting waiting') :
    Agrees related (.ok (.request request waiting)) (.ok (.request request waiting'))

/-- Whether waiting frames go alike for a number of actions, whatever value they receive and
whatever is sensed meanwhile. -/
def AlikeFor : Nat → List Frame → List Frame → Prop
  | 0, _, _ => True
  | n + 1, waiting, waiting' => ∀ senses : Senses, senses.Sound → ∀ v,
    Agrees (AlikeFor n) (deliver senses waiting v) (deliver senses waiting' v)

/-- Whether two trees go alike for any number of actions. -/
def Tree.Alike (t u : Tree) : Prop :=
  ∀ n, ∀ senses : Senses, senses.Sound →
    Agrees (AlikeFor n) (evaluate senses t) (evaluate senses u)

variable {n : Nat} {senses : Senses}

/-! ## Waiting frames -/

/-- What agrees for a relation agrees for every wider one. -/
theorem Agrees.mono {related wider : List Frame → List Frame → Prop} {e e' : Except Fault Outcome}
    (h : Agrees related e e') (hw : ∀ {ks ks'}, related ks ks' → wider ks ks') :
    Agrees wider e e' := by
  cases h with
  | fault fault => exact .fault fault
  | value v => exact .value v
  | request request h => exact .request request (hw h)

/-- What goes alike goes alike for fewer actions. -/
theorem AlikeFor.pred {ks ks' : List Frame} (h : AlikeFor (n + 1) ks ks') : AlikeFor n ks ks' := by
  induction n generalizing ks ks' with
  | zero => exact trivial
  | succ n ih => exact fun senses sound v => (h senses sound v).mono ih

/-- An evaluation agrees with itself. -/
theorem Agrees.refl {related : List Frame → List Frame → Prop} (h : ∀ ks, related ks ks)
    (e : Except Fault Outcome) : Agrees related e e := by
  match e with
  | .error cause => exact .fault cause
  | .ok (.value v) => exact .value v
  | .ok (.request asked waiting) => exact .request asked (h waiting)

/-- Waiting frames go like themselves. -/
theorem AlikeFor.refl (n : Nat) (ks : List Frame) : AlikeFor n ks ks := by
  induction n generalizing ks with
  | zero => exact trivial
  | succ n ih => exact fun _ _ _ => .refl ih _

/-- A tree goes like itself. -/
theorem Tree.Alike.refl (t : Tree) : t.Alike t := fun n _ _ => .refl (AlikeFor.refl n) _

/-- Further frames receive what the inner ones come to, or wait on. -/
theorem deliver_append (inner outer : List Frame) (v : Atom) :
    deliver senses (inner ++ outer) v =
      (do
        match ← deliver senses inner v with
        | .value v => deliver senses outer v
        | .request request waiting => return .request request (waiting ++ outer)) := by
  induction inner generalizing v with
  | nil => rfl
  | cons frame inner ih =>
    rw [List.cons_append, deliver, deliver]
    cases frame.resume senses v with
    | error fault => rfl
    | ok outcome =>
      cases outcome with
      | value v => exact ih v
      | request request waiting =>
        simp only [bind, Except.bind, pure, Except.pure, List.append_assoc]

/-- A single frame comes to what it goes on to. -/
theorem deliver_singleton (frame : Frame) (v : Atom) :
    deliver senses [frame] v = frame.resume senses v := by
  rw [deliver]
  cases frame.resume senses v with
  | error fault => rfl
  | ok outcome =>
    cases outcome with
    | value v => rfl
    | request request waiting =>
      simp only [bind, Except.bind, pure, Except.pure, List.append_nil]

/-- Frames that go alike inside frames that go alike go alike. -/
theorem AlikeFor.append {inner inner' outer outer' : List Frame} (h : AlikeFor n inner inner')
    (h' : AlikeFor n outer outer') : AlikeFor n (inner ++ outer) (inner' ++ outer') := by
  induction n generalizing inner inner' outer outer' with
  | zero => exact trivial
  | succ n ih =>
    intro senses sound v
    have first := h senses sound v
    rw [deliver_append, deliver_append]
    generalize deliver senses inner v = e at *
    generalize deliver senses inner' v = e' at *
    cases first with
    | fault fault => exact .fault fault
    | value v => exact h' senses sound v
    | request request waits => exact .request request (ih waits h'.pred)

/-- Single frames go alike if they go on alike. -/
theorem alikeFor_singleton {frame frame' : Frame}
    (h : ∀ n, ∀ senses : Senses, senses.Sound → ∀ v,
      Agrees (AlikeFor n) (frame.resume senses v) (frame'.resume senses v)) :
    AlikeFor n [frame] [frame'] := by
  cases n with
  | zero => exact trivial
  | succ n =>
    intro senses sound v
    rw [deliver_singleton, deliver_singleton]
    exact h n senses sound v

/-- What is handed on from frames that go alike goes alike. -/
theorem Agrees.andThen {first first' : Except Fault Outcome} {frame frame' : Frame}
    {next next' : Atom → Except Fault Outcome} (h : Agrees (AlikeFor n) first first')
    (hf : AlikeFor n [frame] [frame']) (hn : ∀ v, Agrees (AlikeFor n) (next v) (next' v)) :
    Agrees (AlikeFor n) (do (← first).andThen frame next) (do (← first').andThen frame' next') := by
  cases h with
  | fault fault => exact .fault fault
  | value v => exact hn v
  | request request waits => exact .request request (waits.append hf)

/-! ## Frames with trees that go alike -/

section

variable {t t' u u' : Tree}

/-- The right operand may be exchanged. -/
theorem Agrees.combine {right right' : Except Fault Outcome} (h : Agrees (AlikeFor n) right right')
    (combination : Combination) (a : Atom) :
    Agrees (AlikeFor n)
      (do (← right).andThen (.rightOperand combination a) fun b =>
        return .value (← combination.apply a b))
      (do (← right').andThen (.rightOperand combination a) fun b =>
        return .value (← combination.apply a b)) :=
  h.andThen (.refl _ _) fun _ => .refl (AlikeFor.refl n) _

/-- The operand that is not yet evaluated may be exchanged. -/
theorem alikeFor_leftOperand (h : t.Alike u) (combination : Combination) :
    AlikeFor n [.leftOperand combination t] [.leftOperand combination u] :=
  alikeFor_singleton fun n senses sound v => (h n senses sound).combine combination v

/-- The arms of a branch may be exchanged. -/
theorem alikeFor_condition (h : t.Alike u) (h' : t'.Alike u') :
    AlikeFor n [.condition t t'] [.condition u u'] := by
  refine alikeFor_singleton fun n senses sound v => ?_
  rw [Frame.resume, Frame.resume]
  split
  · exact h n senses sound
  · exact h' n senses sound

/-- The rounds of a loop go alike if their bodies do. The induction is on the rounds that are
left. -/
theorem alikeFor_rounds (h : t.Alike u) (left : Nat) :
    AlikeFor n [.rounds t left] [.rounds u left] := by
  induction left generalizing n with
  | zero => exact alikeFor_singleton fun _ _ _ _ => .value .nil
  | succ left ih =>
    exact alikeFor_singleton fun n senses sound v =>
      (h n senses sound).andThen ih fun _ => .value .nil

/-- A loop goes alike if its body does. -/
theorem agrees_playLoop (h : t.Alike u) (sound : senses.Sound) (count : Atom) :
    Agrees (AlikeFor n) (playLoop t (evaluate senses t) count)
      (playLoop u (evaluate senses u) count) := by
  rw [playLoop, playLoop]
  cases count.operand.truncate with
  | error fault => exact .fault fault
  | ok whole =>
    change Agrees _ (playRounds t _ whole.toNat) (playRounds u _ whole.toNat)
    cases whole.toNat with
    | zero => exact .value .nil
    | succ left => exact (h n senses sound).andThen (alikeFor_rounds h left) fun _ => .value .nil

/-- The body of a loop may be exchanged. -/
theorem alikeFor_count (h : t.Alike u) : AlikeFor n [.count t] [.count u] :=
  alikeFor_singleton fun _ _ sound v => agrees_playLoop h sound v

variable {ts us : List Tree}

/-- Trees in order go alike if each does. -/
theorem agrees_evaluateSequence (h : List.Forall₂ Tree.Alike ts us) (sound : senses.Sound)
    (last : Atom) :
    Agrees (AlikeFor n) (evaluateSequence senses ts last) (evaluateSequence senses us last) := by
  induction h generalizing n senses last with
  | nil => exact .value last
  | @cons t u ts us h rest ih =>
    rw [evaluateSequence, evaluateSequence]
    exact (h n senses sound).andThen
      (alikeFor_singleton fun _ _ sound v => ih sound v) fun v => ih sound v

end

/-! ## Exchange within a program -/

namespace Tree

variable {args args' : List Tree} {t u node value value' : Tree} {path : Path}

/-- Arguments at the same position go alike if all do. -/
theorem alike_argument (h : List.Forall₂ Alike args args') (i : Nat) :
    (argument args i).Alike (argument args' i) := by
  induction h generalizing i with
  | nil => exact .refl _
  | cons h _ ih =>
    cases i with
    | zero => exact h
    | succ i => exact ih i

/-- Forms with the same head and arguments that go alike go alike. -/
theorem alike_form (head : Tree) (h : List.Forall₂ Alike args args') :
    (form (head :: args)).Alike (form (head :: args')) := by
  intro n senses sound
  have each := alike_argument h
  have argument (i : Nat) : Agrees (AlikeFor n) (evaluateArgument senses args i)
      (evaluateArgument senses args' i) := by
    rw [evaluateArgument_eq, evaluateArgument_eq]
    exact each i n senses sound
  have combines (combination : Combination) :=
    (argument 0).andThen (alikeFor_leftOperand (each 1) combination)
      fun a => (argument 1).combine combination a
  rw [evaluate, evaluate]
  cases head.lookup with
  | error fault => exact .fault fault
  | ok found =>
    cases found with
    | none => exact .value _
    | some operator =>
      cases operator with
      | sensor sensor => exact .refl (AlikeFor.refl n) _
      | arithmetic operator => exact combines (.arithmetic operator)
      | comparison operator => exact combines (.comparison operator)
      | control control =>
        cases control with
        | branch =>
          refine (argument 0).andThen (alikeFor_condition (each 1) (each 2)) fun condition => ?_
          split
          · exact argument 1
          · exact argument 2
        | sequence => exact agrees_evaluateSequence h sound .nil
        | loop =>
          refine (argument 0).andThen (alikeFor_count (each 1)) fun count => ?_
          rw [evaluateArgument_eq, evaluateArgument_eq]
          exact agrees_playLoop (each 1) sound count
      | action action =>
        cases action with
        | fork =>
          exact (argument 0).andThen (.refl _ _) fun percentage => .refl (AlikeFor.refl n) _
        | _ => exact .refl (AlikeFor.refl n) _

/-- Arguments in which trees that go alike are put at one position go alike. -/
theorem forall₂_alike_set (args : List Tree) (i : Nat) (h : t.Alike u) :
    List.Forall₂ Alike (args.set i t) (args.set i u) := by
  induction args generalizing i with
  | nil => exact .nil
  | cons first rest ih =>
    cases i with
    | zero => exact .cons h (List.forall₂_same.mpr fun t _ => .refl t)
    | succ i => exact .cons (.refl first) (ih i)

/-- Trees that go alike can be exchanged for each other at any node: the wholes go alike then. -/
theorem Reaches.exists_set_alike (h : Reaches t path node) (hv : value.Alike value') :
    ∃ result result', t.set path value = .ok result ∧ t.set path value' = .ok result' ∧
      result.Alike result' := by
  induction h with
  | here => exact ⟨value, value', rfl, rfl, hv⟩
  | @into head args i t node path found _ ih =>
    obtain ⟨inner, inner', set, set', alike⟩ := ih
    exact ⟨_, _, set_argument found set, set_argument found set',
      alike_form head (forall₂_alike_set args i alike)⟩

/-- A node can be exchanged for a tree that goes alike: the whole goes alike then. -/
theorem Reaches.exists_alike (h : Reaches t path node) (hv : node.Alike value) :
    ∃ result, t.set path value = .ok result ∧ t.Alike result := by
  obtain ⟨same, result, self, set, alike⟩ := h.exists_set_alike hv
  rw [h.set_self, Except.ok.injEq] at self
  exact ⟨result, set, self ▸ alike⟩

end Tree

end Vivarium
