import Mathlib.Data.List.TakeWhile
import Vivarium.Number.Writing

/-!
# Characters of numbers

The text of a number is not empty and consists of letters, digits, points and signs. The text of an
integer has a digit in it, and integers are told apart by their texts.
-/

namespace Vivarium

/-- Whether a character may stand in the text of a number. -/
def isNumeral (c : Char) : Bool :=
  c.isAlphanum || c = '.' || c = '-' || c = '+'

variable {c : Char} {n : Nat}

/-! ## Integers -/

/-- The text of a natural number consists of digits. -/
theorem isDigit_of_mem_decimalDigits (h : c ∈ decimalDigits n) : c.isDigit := by
  rw [decimalDigits, Nat.toString_eq_repr, Nat.toList_repr] at h
  exact Nat.isDigit_of_mem_toDigits (by decide) (by decide) h

/-- The text of a natural number is not empty. -/
theorem decimalDigits_ne_nil (n : Nat) : decimalDigits n ≠ [] := by
  rw [decimalDigits, Nat.toString_eq_repr, Nat.toList_repr]
  exact Nat.toDigits_ne_nil

/-- Natural numbers are told apart by their digits. -/
theorem decimalDigits_injective {m n : Nat} (h : decimalDigits m = decimalDigits n) : m = n := by
  simp only [decimalDigits, Nat.toString_eq_repr, Nat.toList_repr] at h
  rw [← Nat.ofDigitChars_toDigits (by decide : 1 < 10) (Nat.le_refl 10) (n := m), h,
    Nat.ofDigitChars_toDigits (by decide) (Nat.le_refl 10)]

/-- An integer is written as its digits behind its sign. -/
theorem toList_toString (n : Int) :
    (toString n).toList = (if n < 0 then ['-'] else []) ++ decimalDigits n.natAbs := by
  cases n with
  | ofNat n => rfl
  | negSucc n =>
    rw [if_pos (Int.negSucc_lt_zero n)]
    exact String.toList_append

/-- The text of an integer has a digit in it. -/
theorem exists_isDigit_mem_toString (n : Int) : ∃ c ∈ (toString n).toList, c.isDigit := by
  obtain ⟨c, hc⟩ := List.exists_mem_of_ne_nil _ (decimalDigits_ne_nil n.natAbs)
  refine ⟨c, ?_, isDigit_of_mem_decimalDigits hc⟩
  rw [toList_toString]
  exact List.mem_append_right _ hc

/-- Integers are told apart by their texts. -/
theorem toString_int_injective {m n : Int} (h : toString m = toString n) : m = n := by
  have same := congrArg String.toList h
  rw [toList_toString, toList_toString] at same
  -- Digits are no signs, so a sign on one side only would have to be a digit of the other.
  have unsigned (k : Nat) : '-' ∉ decimalDigits k := fun sign =>
    absurd (isDigit_of_mem_decimalDigits sign) (by decide)
  by_cases hm : m < 0 <;> by_cases hn : n < 0
  · rw [if_pos hm, if_pos hn, List.append_cancel_left_eq] at same
    have := decimalDigits_injective same
    omega
  · rw [if_pos hm, if_neg hn, List.nil_append] at same
    exact absurd (same ▸ List.mem_cons_self) (unsigned n.natAbs)
  · rw [if_neg hm, if_pos hn, List.nil_append] at same
    exact absurd (same ▸ List.mem_cons_self) (unsigned m.natAbs)
  · rw [if_neg hm, if_neg hn, List.nil_append, List.nil_append] at same
    have := decimalDigits_injective same
    omega

/-! ## Texts of numbers -/

/-- Whether a text consists of characters that may stand in the text of a number. -/
def Numeral (text : String) : Prop := ∀ c ∈ text.toList, isNumeral c

-- Decided along the text, and not by going through all the characters that there are.
instance (text : String) : Decidable (Numeral text) :=
  List.decidableBAll _ _

/-- A sequence of characters is a text. -/
theorem numeral_ofList {cs : List Char} (h : ∀ c ∈ cs, isNumeral c) :
    Numeral (String.ofList cs) := by
  rwa [Numeral, String.toList_ofList]

/-- One text after the other is a text. -/
theorem Numeral.append {first second : String} (h : Numeral first) (h' : Numeral second) :
    Numeral (first ++ second) := by
  rw [Numeral, String.toList_append, List.forall_mem_append]
  exact ⟨h, h'⟩

/-- Digits may stand in the text of a number. -/
theorem isNumeral_of_mem_decimalDigits (h : c ∈ decimalDigits n) : isNumeral c := by
  simp [isNumeral, Char.isAlphanum, isDigit_of_mem_decimalDigits h]

/-- The text of an integer is that of a number. -/
theorem numeral_toString (n : Int) : Numeral (toString n) := by
  intro c hc
  rw [toList_toString, List.mem_append, List.mem_ite_nil_right, List.mem_singleton] at hc
  rcases hc with ⟨-, rfl⟩ | digit
  · decide
  · exact isNumeral_of_mem_decimalDigits digit

namespace Double

/-- Digits without the zeros at their end are some of the digits. -/
theorem mem_of_mem_stripZeros {digits : List Char} (h : c ∈ stripZeros digits) : c ∈ digits := by
  rw [stripZeros, List.mem_reverse] at h
  exact List.mem_reverse.mp ((List.dropWhile_sublist _).subset h)

/-- A decimal in the notation of doubles is the text of a number. -/
theorem numeral_notate (value : Nat) (unit : Int) : Numeral (notate value unit) := by
  have digits : ∀ c ∈ stripZeros (decimalDigits value), isNumeral c := fun c hc =>
    isNumeral_of_mem_decimalDigits (mem_of_mem_stripZeros hc)
  have zeros (count : Nat) : ∀ c ∈ List.replicate count '0', isNumeral c := by
    intro c hc
    rw [List.eq_of_mem_replicate hc]
    decide
  unfold notate
  dsimp only
  split
  · split
    · refine Numeral.append (by decide) (numeral_ofList ?_)
      exact List.forall_mem_append.mpr ⟨zeros _, digits⟩
    · refine ((numeral_ofList fun c hc => ?_).append (by decide)).append ?_
      · exact List.forall_mem_append.mpr ⟨digits, zeros _⟩ c (List.mem_of_mem_take hc)
      · split
        · decide
        · exact numeral_ofList fun c hc => digits c (List.mem_of_mem_drop hc)
  · refine ((((numeral_ofList fun c hc => ?_).append ?_).append (by decide)).append ?_).append
      (numeral_ofList ?_)
    · exact digits c (List.mem_of_mem_take hc)
    · split
      · decide
      · refine Numeral.append (by decide) (numeral_ofList fun c hc => ?_)
        exact digits c (List.mem_of_mem_drop hc)
    · split <;> decide
    · exact List.forall_mem_append.mpr ⟨zeros _, fun c => isNumeral_of_mem_decimalDigits⟩

/-- A decimal in the notation of doubles is not empty: it has a point or an exponent. -/
theorem notate_ne_empty (value : Nat) (unit : Int) : notate value unit ≠ "" := by
  unfold notate
  dsimp only
  split
  · split <;> simp
  · simp

/-- The text of a double is that of a number. -/
theorem numeral_text (x : Double) : Numeral x.text := by
  match x with
  | .nan => decide
  | .infinite negative => cases negative <;> decide
  | .negZero => decide
  | .finite x =>
    rw [text]
    split
    · decide
    · refine Numeral.append ?_ (numeral_notate _ _)
      split <;> decide

/-- The text of a double is not empty. -/
theorem text_ne_empty (x : Double) : x.text ≠ "" := by
  match x with
  | .nan => decide
  | .infinite negative => cases negative <;> decide
  | .negZero => decide
  | .finite x =>
    rw [text]
    split
    · decide
    · simp [notate_ne_empty]

end Double

/-- The text of a number consists of letters, digits, points and signs. -/
theorem Number.numeral_text (n : Number) : Numeral n.text := by
  cases n with
  | int n => exact numeral_toString n
  | double x => exact x.numeral_text

/-- The text of a number is not empty. -/
theorem Number.text_ne_empty (n : Number) : n.text ≠ "" := by
  cases n with
  | int n =>
    intro empty
    obtain ⟨c, hc, -⟩ := exists_isDigit_mem_toString n
    rw [show toString n = "" from empty] at hc
    exact List.not_mem_nil hc
  | double x => exact x.text_ne_empty

end Vivarium
