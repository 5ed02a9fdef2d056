/-!
# The vocabulary of programs

The closed set of operators that a form can be headed by, sorted by what they do: sensors read the
surroundings, actions change them, comparisons and arithmetic combine two operands, and three
control operators direct the evaluation.
-/

namespace Vivarium

/-- What an animal can read. -/
inductive Sensor where
  | foodHere
  | foodAhead
  | ownEnergy
  deriving DecidableEq, Repr

/-- What an animal can do. -/
inductive Action where
  | move
  | moveBack
  | turnLeft
  | turnRight
  | turnRandom
  | eat
  | fork
  | hit
  deriving DecidableEq, Repr

/-- The comparisons of two numbers. -/
inductive Comparison where
  | greater
  | less
  | equal
  deriving DecidableEq, Repr

/-- The combinations of two numbers. -/
inductive Arithmetic where
  | add
  | subtract
  | multiply
  | divide
  deriving DecidableEq, Repr

/-- The operators that direct the evaluation. -/
inductive Control where
  | branch
  | sequence
  | loop
  deriving DecidableEq, Repr

/-- The operators that a form can be headed by. -/
inductive Operator where
  | sensor (sensor : Sensor)
  | action (action : Action)
  | comparison (comparison : Comparison)
  | arithmetic (arithmetic : Arithmetic)
  | control (control : Control)
  deriving DecidableEq, Repr

namespace Sensor

/-- The symbol of a sensor. -/
def name : Sensor → String
  | foodHere => "food-here"
  | foodAhead => "food-ahead"
  | ownEnergy => "my-energy"

/-- All sensors, in the order in which one is drawn. -/
def all : List Sensor := [foodHere, foodAhead, ownEnergy]

end Sensor

namespace Action

/-- The symbol of an action. -/
def name : Action → String
  | move => "move"
  | moveBack => "move-back"
  | turnLeft => "turn-left"
  | turnRight => "turn-right"
  | turnRandom => "turn-random"
  | eat => "eat"
  | fork => "fork"
  | hit => "hit"

/-- All actions, in the order in which one is drawn. -/
def all : List Action := [move, moveBack, turnLeft, turnRight, turnRandom, eat, fork, hit]

end Action

namespace Comparison

/-- The symbol of a comparison. -/
def name : Comparison → String
  | greater => ">"
  | less => "<"
  | equal => "="

/-- All comparisons, in the order in which one is drawn. -/
def all : List Comparison := [greater, less, equal]

end Comparison

namespace Arithmetic

/-- The symbol of an arithmetic operator. -/
def name : Arithmetic → String
  | add => "+"
  | subtract => "-"
  | multiply => "*"
  | divide => "/"

/-- All arithmetic operators. -/
def all : List Arithmetic := [add, subtract, multiply, divide]

end Arithmetic

namespace Control

/-- The symbol of a control operator. -/
def name : Control → String
  | branch => "if"
  | sequence => "begin"
  | loop => "for"

/-- All control operators. -/
def all : List Control := [branch, sequence, loop]

end Control

namespace Operator

/-- The symbol of an operator. -/
def name : Operator → String
  | sensor s => s.name
  | action a => a.name
  | comparison c => c.name
  | arithmetic a => a.name
  | control c => c.name

/-- All operators. -/
def all : List Operator :=
  Sensor.all.map sensor ++ Action.all.map action ++ Comparison.all.map comparison ++
    Arithmetic.all.map arithmetic ++ Control.all.map control

/-- The operator with a symbol. -/
def ofName? (name : String) : Option Operator :=
  all.find? (·.name = name)

/-- No operator is left out of the list of all. -/
theorem mem_all (operator : Operator) : operator ∈ all := by
  rcases operator with o | o | o | o | o <;> cases o <;> decide

/-- Every operator is found by its symbol. -/
theorem ofName?_name (operator : Operator) : ofName? operator.name = some operator := by
  rcases operator with o | o | o | o | o <;> cases o <;> decide

/-- The operator found by a symbol has that symbol. -/
theorem name_of_ofName? {name : String} {operator : Operator}
    (h : ofName? name = some operator) : operator.name = name := by
  simpa using List.find?_some h

/-- Different operators have different symbols. -/
theorem name_injective {o p : Operator} (h : o.name = p.name) : o = p := by
  have := ofName?_name o
  rw [h, ofName?_name p] at this
  exact (Option.some.inj this).symm

end Operator

end Vivarium
