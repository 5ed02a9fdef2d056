/-!
# Faults

Everything that can go wrong in the simulation, by cause. A fault carries what its message has
to name, and `Fault.message` is the only place where the wording is fixed.

The limits of a machine are faults only where one is named here. Everything else is taken to have
room: programs may be nested to any depth, integers may have any number of digits, also where they
are written out, every entry goes into the journal, and a world that was created may grow.
-/

namespace Vivarium

/-- The kinds of value that a message can name. -/
inductive Kind where
  | nothing
  | boolean
  | integer
  | double
  | text
  | sequence
  deriving DecidableEq, Repr

/-- The name under which messages mention a kind of value. -/
def Kind.name : Kind → String
  | .nothing => "NoneType"
  | .boolean => "bool"
  | .integer => "int"
  | .double => "float"
  | .text => "str"
  | .sequence => "list"

/-- The ways in which an operation of the simulation can fail. -/
inductive Fault where
  /-- A list is read outside its bounds. -/
  | listIndex
  /-- A list is written outside its bounds. -/
  | listAssignment
  /-- A text is read outside its bounds. -/
  | textIndex
  /-- A position in a list or text is no word. -/
  | positionTooLarge
  /-- A grid is addressed outside the bounds of one of its axes. -/
  | axisIndex (index : Int) (axis : Nat) (size : Nat)
  /-- A coordinate of a cell is no word, not even without a sign. -/
  | coordinateTooLarge
  /-- A coordinate or a value of a cell is no word. -/
  | wordOverflow
  /-- A value without parts is indexed. -/
  | notIndexable (kind : Kind)
  /-- A part of a value without replaceable parts is written. -/
  | notAssignable (kind : Kind)
  /-- A list stands where an operator is looked up. -/
  | listAsOperator
  /-- A value that is no number is divided. -/
  | notDivisible (kind : Kind)
  /-- No animal is registered on the cell that one leaves. -/
  | vacantCell (x y : Int)
  /-- An undefined number is turned into an integer. -/
  | nanToInteger
  /-- An infinite number is turned into an integer. -/
  | infinityToInteger
  /-- An integer is beyond the range of doubles. -/
  | integerTooLarge
  /-- The quotient of two integers is beyond the range of doubles. -/
  | quotientTooLarge
  /-- A grid cell cannot hold a value. -/
  | cellOverflow (value : Int)
  /-- An index is drawn below a bound that is not positive. -/
  | emptyRange
  /-- A number is drawn from an interval without elements; `stop` is one past its end. -/
  | emptyInterval (start stop width : Int)
  /-- A grid of negative extent is asked for. -/
  | negativeExtent
  /-- A grid is asked for with an extent that is no word. -/
  | extentTooLarge
  /-- A grid is asked for whose cells are too many to be counted. -/
  | gridTooLarge
  /-- A level of indentation is no word. -/
  | levelTooLarge
  /-- A text would be too long to be counted. -/
  | textTooLong
  /-- There is no room for a text. -/
  | textMemory
  /-- There is no room for a grid; `size` is how much it would take. -/
  | gridMemory (size : String) (height width : Int)
  /-- A surface is asked for with a side that is no word. -/
  | surfaceSize
  /-- A surface of negative extent is asked for. -/
  | negativeSurface
  /-- A picture has a negative width. -/
  | negativeWidth
  /-- A picture has a negative height. -/
  | negativeHeight
  /-- There is no room for the rows of a surface. -/
  | surfaceMemory
  /-- A picture is not as large as the cells that it shows are many. -/
  | pictureMismatch
  /-- A picture is resized to a negative extent. -/
  | negativeScale
  /-- A place on a surface is no word. -/
  | placeTooLarge
  /-- A colour that cannot be shown is painted. -/
  | colorRange
  /-- A window is asked for with a side that is no word. -/
  | windowSize
  /-- A window of negative extent is asked for. -/
  | negativeWindow
  /-- A window is asked for with too long a side. -/
  | windowTooLarge
  /-- A log level has no such name. -/
  | unknownLevel (name : String)
  /-- The log level is left blank. -/
  | blankLevel
  /-- The seed is left blank. -/
  | blankSeed
  /-- A number of columns, rows or ticks is left blank. -/
  | blankCount
  /-- The interval between reports is left blank. -/
  | blankInterval
  /-- A quotient has a zero divisor. -/
  | divisionByZero
  /-- A rounded quotient has a zero divisor. -/
  | floorDivisionByZero
  /-- A remainder has a zero divisor. -/
  | moduloByZero
  deriving DecidableEq, Repr

/-- The wording of a fault. -/
def Fault.message : Fault → String
  | .listIndex => "list index out of range"
  | .listAssignment => "list assignment index out of range"
  | .textIndex => "string index out of range"
  | .positionTooLarge | .levelTooLarge => "cannot fit 'int' into an index-sized integer"
  | .axisIndex index axis size =>
    "index " ++ toString index ++ " is out of bounds for axis " ++ toString axis ++
      " with size " ++ toString size
  | .coordinateTooLarge =>
    "only integers, slices (`:`), ellipsis (`...`), numpy.newaxis (`None`) and integer or boolean " ++
      "arrays are valid indices"
  | .wordOverflow => "Python int too large to convert to C long"
  | .notIndexable kind => "'" ++ kind.name ++ "' object is not subscriptable"
  | .notAssignable kind => "'" ++ kind.name ++ "' object does not support item assignment"
  | .listAsOperator => "unhashable type: 'list'"
  | .notDivisible kind =>
    "unsupported operand type(s) for //: '" ++ kind.name ++ "' and '" ++ Kind.integer.name ++ "'"
  | .vacantCell x y => "(" ++ toString x ++ ", " ++ toString y ++ ")"
  | .nanToInteger => "cannot convert float NaN to integer"
  | .infinityToInteger => "cannot convert float infinity to integer"
  | .integerTooLarge => "int too large to convert to float"
  | .quotientTooLarge => "integer division result too large for a float"
  | .cellOverflow value => "Python integer " ++ toString value ++ " out of bounds for int16"
  | .emptyRange => "empty range for randrange()"
  | .emptyInterval start stop width =>
    "empty range for randrange() (" ++ toString start ++ ", " ++ toString stop ++ ", " ++
      toString width ++ ")"
  | .negativeExtent => "negative dimensions are not allowed"
  | .extentTooLarge => "Maximum allowed dimension exceeded"
  | .gridTooLarge =>
    "array is too big; `arr.size * arr.dtype.itemsize` is larger than the maximum possible size."
  | .textTooLong => "repeated string is too long"
  | .textMemory => ""
  | .gridMemory size height width =>
    "Unable to allocate " ++ size ++ " for an array with shape (" ++ toString height ++ ", " ++
      toString width ++ ") and data type int16"
  | .surfaceSize => "size needs to be (number width, number height)"
  | .negativeSurface => "Invalid resolution for Surface"
  | .negativeWidth => "Parameter 'width' is invalid"
  | .negativeHeight => "Parameter 'height' is invalid"
  | .surfaceMemory => "Out of memory"
  | .pictureMismatch => "array must match surface dimensions"
  | .negativeScale => "Cannot scale to negative size"
  | .placeTooLarge => "rect argument is invalid"
  | .colorRange => "invalid color argument"
  | .windowSize => "size must be two numbers"
  | .negativeWindow => "Cannot set negative sized display mode"
  | .windowTooLarge => "Window is too large."
  | .unknownLevel name => "Level '" ++ name ++ "' does not exist"
  | .blankLevel => "'" ++ Kind.sequence.name ++ "' object has no attribute 'upper'"
  | .blankSeed =>
    "The only supported seed types are: None,\nint, float, str, bytes, and bytearray."
  | .blankCount => "'" ++ Kind.sequence.name ++ "' object cannot be interpreted as an integer"
  | .blankInterval =>
    "'>' not supported between instances of '" ++ Kind.sequence.name ++ "' and '" ++
      Kind.integer.name ++ "'"
  | .divisionByZero => "division by zero"
  | .floorDivisionByZero => "integer division or modulo by zero"
  | .moduloByZero => "integer modulo by zero"

end Vivarium
