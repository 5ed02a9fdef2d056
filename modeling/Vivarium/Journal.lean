/-!
# The journal

Runs report what happens in entries of graded severity. A level has a name and a number; a reader who
asks for a level sees the entries of at least that severity. To report something never fails, however
long the numbers in an entry are.
-/

namespace Vivarium

/-- The levels of entries. -/
inductive Level where
  | trace
  | debug
  | info
  | success
  | warning
  | error
  | critical
  deriving DecidableEq, Repr

namespace Level

/-- All levels. -/
def all : List Level := [trace, debug, info, success, warning, error, critical]

/-- The name of a level. -/
def name : Level → String
  | trace => "TRACE"
  | debug => "DEBUG"
  | info => "INFO"
  | success => "SUCCESS"
  | warning => "WARNING"
  | error => "ERROR"
  | critical => "CRITICAL"

/-- How severe the entries of a level are. -/
def severity : Level → Nat
  | trace => 5
  | debug => 10
  | info => 20
  | success => 25
  | warning => 30
  | error => 40
  | critical => 50

/-- The level with a name in capitals. -/
def ofName? (name : String) : Option Level :=
  all.find? (·.name = name)

/-- Every level is found by its name. -/
theorem ofName?_name (level : Level) : ofName? level.name = some level := by
  cases level <;> decide

end Level

/-- An entry of the journal. -/
structure Entry where
  /-- How severe it is. -/
  level : Level
  /-- What happened. -/
  text : String
  deriving DecidableEq, Repr

namespace Entry

/-- Whether a reader of a level sees an entry. -/
def isShownAt (entry : Entry) (level : Level) : Bool :=
  level.severity ≤ entry.level.severity

/-- An entry as it is written out, with the name of its level in a column of eight characters. -/
def line (entry : Entry) : String :=
  let name := entry.level.name
  name ++ String.ofList (List.replicate (8 - name.length) ' ') ++ " | " ++ entry.text

end Entry

end Vivarium
