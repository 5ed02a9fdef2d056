import Vivarium.Proofs.Program.Alike

/-!
# Sequences within sequences

A sequence that stands as an element of another sequence may be dissolved into it, if it has an
element of its own: the programs go alike. An empty sequence may not, since its value is nil where
the value of the element before it would remain.
-/

namespace Vivarium

variable {n : Nat} {senses : Senses} {ts us : List Tree}

/-- Frames of two sequences in a row come to what the first one comes to and the other after it. -/
theorem deliver_sequences (ts us : List Tree) (v : Atom) :
    deliver senses [.sequence ts, .sequence us] v =
      (do (← evaluateSequence senses ts v).andThen (.sequence us) fun v =>
        evaluateSequence senses us v) := by
  rw [deliver, Frame.resume]
  cases evaluateSequence senses ts v with
  | error fault => rfl
  | ok outcome =>
    cases outcome with
    | value v => exact deliver_singleton (.sequence us) v
    | request request waiting => rfl

/-- Trees in order go like the first ones and then the others. The frames that wait for the rest of
the first ones go alike by the induction, since they have fewer trees left. -/
theorem agrees_evaluateSequence_append (sound : senses.Sound) (ts us : List Tree) (last : Atom) :
    Agrees (AlikeFor n) (evaluateSequence senses (ts ++ us) last)
      (do (← evaluateSequence senses ts last).andThen (.sequence us) fun v =>
        evaluateSequence senses us v) := by
  induction ts generalizing n senses last with
  | nil => exact .refl (AlikeFor.refl n) _
  | cons t ts ih =>
    have waiting : AlikeFor n [.sequence (ts ++ us)] [.sequence ts, .sequence us] := by
      cases n with
      | zero => exact trivial
      | succ n =>
        intro senses sound v
        rw [deliver_singleton, deliver_sequences]
        exact ih sound v
    rw [List.cons_append, evaluateSequence, evaluateSequence]
    cases evaluate senses t with
    | error fault => exact .fault fault
    | ok outcome =>
      cases outcome with
      | value v => exact ih sound v
      | request request inner =>
        change Agrees _ (.ok (.request request (inner ++ [.sequence (ts ++ us)])))
          (.ok (.request request (inner ++ [.sequence ts] ++ [.sequence us])))
        rw [List.append_assoc]
        exact .request request ((AlikeFor.refl n inner).append waiting)

/-- Trees in order go alike after the same first ones. -/
theorem agrees_evaluateSequence_prefix {us us' : List Tree}
    (h : ∀ n, ∀ senses : Senses, senses.Sound → ∀ v,
      Agrees (AlikeFor n) (evaluateSequence senses us v) (evaluateSequence senses us' v))
    (sound : senses.Sound) (ts : List Tree) (last : Atom) :
    Agrees (AlikeFor n) (evaluateSequence senses (ts ++ us) last)
      (evaluateSequence senses (ts ++ us') last) := by
  induction ts generalizing n senses last with
  | nil => exact h n senses sound last
  | cons t ts ih =>
    rw [List.cons_append, List.cons_append, evaluateSequence, evaluateSequence]
    exact (Agrees.refl (AlikeFor.refl n) _).andThen
      (alikeFor_singleton fun _ _ sound v => ih sound v) fun v => ih sound v

namespace Tree

/-- A sequence evaluates its elements in order. -/
theorem evaluate_sequence (args : List Tree) :
    evaluate senses (apply (.control .sequence) args) = evaluateSequence senses args .nil := by
  rw [evaluate, lookup_symbol_name]
  rfl

/-- A sequence with an element may be dissolved into the sequence that it is an element of. -/
theorem alike_flatten (before after : List Tree) {inner : List Tree} (h : inner ≠ []) :
    (apply (.control .sequence) (before ++ (inner ++ after))).Alike
      (apply (.control .sequence) (before ++ apply (.control .sequence) inner :: after)) := by
  intro n senses sound
  rw [evaluate_sequence, evaluate_sequence]
  refine agrees_evaluateSequence_prefix (fun n senses sound v => ?_) sound before .nil
  -- the value before a nonempty sequence does not matter to it
  have fresh : evaluateSequence senses inner v = evaluateSequence senses inner .nil := by
    cases inner with
    | nil => exact absurd rfl h
    | cons t ts => rw [evaluateSequence, evaluateSequence]
  have parts := agrees_evaluateSequence_append (n := n) sound inner after v
  rw [fresh] at parts
  rw [evaluateSequence, evaluate_sequence]
  exact parts

end Tree

end Vivarium
