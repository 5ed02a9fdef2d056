import Vivarium.Fault
import Vivarium.Number.Reading
import Vivarium.Text.Quoted

/-!
# Options

The arguments of a session are options by name, with their values in the same argument behind an
equals sign or in the next one. A long name may be cut short as long as it stays unique. Arguments
are first told apart, all of them, and then taken one after the other; what nobody takes is a fault
in the end. A separator marks the end of the options. Behind an equals sign it stands for no value at
all, which is no fault of usage and leaves the option blank.
-/

namespace Vivarium

/-- What an option is given. -/
inductive Given (α : Type) where
  /-- Nothing that stands for a value. -/
  | blank
  /-- A value. -/
  | value (a : α)
  deriving DecidableEq, Repr

/-- The value of an option that has to have one; it is a fault to leave it blank. -/
def Given.get {α : Type} (fault : Fault) : Given α → Except Fault α
  | .blank => .error fault
  | .value a => .ok a

/-- The width of a world if none is given. -/
def Options.standardWidth : Int := 240

/-- The height of a world if none is given. -/
def Options.standardHeight : Int := 160

/-- What a session is asked to do. -/
structure Options where
  /-- The seed of the random numbers. -/
  seed : Option (Given Int) := none
  /-- The width of the world. -/
  width : Given Int := .value Options.standardWidth
  /-- The height of the world. -/
  height : Given Int := .value Options.standardHeight
  /-- Whether to run without a window. -/
  headless : Bool := false
  /-- The ticks of a run without a window. -/
  ticks : Given Int := .value 10000
  /-- The ticks between two reports of a run without a window. -/
  reportEvery : Given Int := .value 500
  /-- The name of the level from which on entries of the journal are shown. -/
  logLevel : Given String := .value "INFO"
  deriving DecidableEq, Repr

/-- The options that can be given. -/
inductive Flag where
  | help
  | seed
  | width
  | height
  | headless
  | ticks
  | reportEvery
  | logLevel
  deriving DecidableEq, Repr

namespace Flag

/-- All options, in the order in which they are offered. -/
def all : List Flag := [help, seed, width, height, headless, ticks, reportEvery, logLevel]

/-- The names of an option. -/
def names : Flag → List String
  | help => ["-h", "--help"]
  | seed => ["--seed"]
  | width => ["--width"]
  | height => ["--height"]
  | headless => ["--headless"]
  | ticks => ["--ticks"]
  | reportEvery => ["--report-every"]
  | logLevel => ["--log-level"]

/-- Whether an option needs a value. -/
def takesValue : Flag → Bool
  | help | headless => false
  | _ => true

/-- How messages name an option. -/
def title (flag : Flag) : String :=
  "/".intercalate flag.names

/-- All names with the options that they stand for. -/
def named : List (String × Flag) :=
  all.flatMap fun flag => flag.names.map fun name => (name, flag)

/-- The option of a full name. -/
def ofName? (name : String) : Option Flag :=
  named.lookup name

end Flag

/-- Why a session cannot be set up from its arguments. -/
inductive UsageFault where
  /-- A cut name could stand for several. -/
  | ambiguous (argument : String) (candidates : List String)
  /-- An option without a value is given one. -/
  | unwantedValue (flag : Flag) (value : String)
  /-- An option lacks its value. -/
  | missingValue (flag : Flag)
  /-- The value of an option is not an integer. -/
  | notAnInteger (flag : Flag) (value : String)
  /-- Nobody takes some arguments. -/
  | unrecognized (arguments : List String)
  /-- Help is asked for, so nothing else is done. -/
  | helpWanted
  deriving DecidableEq, Repr

/-- The wording of a usage fault. -/
def UsageFault.message : UsageFault → String
  | .ambiguous argument candidates =>
    "ambiguous option: " ++ argument ++ " could match " ++ ", ".intercalate candidates
  | .unwantedValue flag value =>
    "argument " ++ flag.title ++ ": ignored explicit argument " ++ Text.quoted value
  | .missingValue flag => "argument " ++ flag.title ++ ": expected one argument"
  | .notAnInteger flag value =>
    "argument " ++ flag.title ++ ": invalid int value: " ++ Text.quoted value
  | .unrecognized arguments => "unrecognized arguments: " ++ " ".intercalate arguments
  | .helpWanted => ""

/-- What an argument is by its looks. -/
inductive Argument where
  /-- A value, or something that nobody asked for. -/
  | plain (text : String)
  /-- An option, under one of its names, with the value behind its equals sign if there is one. -/
  | option (flag : Flag) (name : String) (value : Option String)
  /-- Something that looks like an option but is none. -/
  | unknown (text : String)
  /-- The mark behind which no argument is an option. -/
  | separator

namespace Argument

/-- Drop digits of any script. -/
def dropDigits (s : List Char) : List Char :=
  s.dropWhile Text.isDigit

/-- Whether a text is at its end, for which a final line break does not count. -/
def atEnd (s : List Char) : Bool :=
  s = [] || s = ['\n']

/-- Whether a text starts with a digit. -/
def startsWithDigit (s : List Char) : Bool :=
  match s with
  | c :: _ => Text.isDigit c
  | [] => false

/-- Whether a text looks like a negative number, whole or with a decimal point. -/
def looksNegative : List Char → Bool
  | '-' :: rest =>
    (startsWithDigit rest && atEnd (dropDigits rest)) ||
      match dropDigits rest with
      | '.' :: places => startsWithDigit places && atEnd (dropDigits places)
      | _ => false
  | _ => false

/-- Part a text at its first equals sign. -/
def splitAtEquals (s : List Char) : String × Option String :=
  let before := s.takeWhile (· ≠ '=')
  match s.drop before.length with
  | _ :: after => (String.ofList before, some (String.ofList after))
  | [] => (String.ofList before, none)

/-- The options that a cut long name can stand for. -/
def longCandidates (s : List Char) : List (Flag × String × Option String) :=
  let (front, value) := splitAtEquals s
  Flag.named.filterMap fun (name, flag) =>
    if name.startsWith front then some (flag, name, value) else none

/-- The options that a text behind a single hyphen can stand for: one of a single letter with the
rest as its value, or a longer one that the text is the front of. -/
def shortCandidates (s : List Char) : List (Flag × String × Option String) :=
  let letter := String.ofList (s.take 2)
  let front := String.ofList s
  Flag.named.filterMap fun (name, flag) =>
    if name = letter then some (flag, name, some (String.ofList (s.drop 2)))
    else if name.startsWith front then some (flag, name, none)
    else none

/-- The options that an argument with a leading hyphen can stand for when cut short. -/
def candidates (s : List Char) : List (Flag × String × Option String) :=
  match s with
  | _ :: '-' :: _ => longCandidates s
  | _ => shortCandidates s

/-- What an argument is when it is no full name of an option, with or without a value. -/
def classifyOther (text : String) : Except UsageFault Argument :=
  match candidates text.toList with
  | [(flag, name, value)] => .ok (.option flag name value)
  | [] =>
    if looksNegative text.toList || text.toList.contains ' ' then .ok (.plain text)
    else .ok (.unknown text)
  | several => .error (.ambiguous text (several.map (·.2.1)))

/-- What an argument is by its looks. -/
def classify (text : String) : Except UsageFault Argument :=
  match text.toList with
  | '-' :: _ :: _ =>
    match Flag.ofName? text with
    | some flag => .ok (.option flag text none)
    | none =>
      match splitAtEquals text.toList with
      | (name, some value) =>
        match Flag.ofName? name with
        | some flag => .ok (.option flag name (some value))
        | none => classifyOther text
      | _ => classifyOther text
  | _ => .ok (.plain text)

/-- The text of the separator. -/
def separatorText : String := "--"

/-- Tell arguments apart. Behind the separator everything is a value. -/
def classifyAll : List String → Except UsageFault (List Argument)
  | [] => .ok []
  | text :: rest => do
    if text = separatorText then return .separator :: rest.map .plain
    else
      let first ← classify text
      return first :: (← classifyAll rest)

end Argument

namespace Options

/-- Read what an option is given as an integer. -/
def integer (flag : Flag) (value : String) : Except UsageFault (Given Int) :=
  if value = Argument.separatorText then .ok .blank
  else
    match readInteger? value with
    | some n => .ok (.value n)
    | none => .error (.notAnInteger flag value)

/-- Read what an option is given as a text. -/
def plainText (value : String) : Given String :=
  if value = Argument.separatorText then .blank else .value value

/-- The options with what one is given replaced. -/
def withValue (options : Options) (flag : Flag) (value : String) : Except UsageFault Options := do
  match flag with
  | .help | .headless => return options
  | .seed => return { options with seed := some (← integer flag value) }
  | .width => return { options with width := ← integer flag value }
  | .height => return { options with height := ← integer flag value }
  | .ticks => return { options with ticks := ← integer flag value }
  | .reportEvery => return { options with reportEvery := ← integer flag value }
  | .logLevel => return { options with logLevel := plainText value }

/-- The options with one set that needs no value. -/
def switchOn (options : Options) (flag : Flag) : Except UsageFault Options :=
  match flag with
  | .help => .error .helpWanted
  | .headless => .ok { options with headless := true }
  | _ => .error (.missingValue flag)

/-- Set an option without a value, and those of the letters attached to it. -/
def switchOnLetters (options : Options) (flag : Flag) : List Char → Except UsageFault Options
  | [] => options.switchOn flag
  | letter :: rest =>
    match Flag.ofName? (String.ofList ['-', letter]) with
    | some other => switchOnLetters options other rest
    | none => .error (.unwantedValue flag (String.ofList (letter :: rest)))

/-- Set an option without a value that was given under a name. What is attached to the name of a
single letter is read as further letters; attached to a longer name it is a fault. -/
def switchOnNamed (options : Options) (flag : Flag) (name : String) :
    Option String → Except UsageFault Options
  | none => options.switchOn flag
  | some attached =>
    if name.startsWith "--" || attached.isEmpty then .error (.unwantedValue flag attached)
    else options.switchOnLetters flag attached.toList

/-- Take arguments one after the other. `spare` are those that nobody took so far. -/
def take (options : Options) (spare : List String) :
    List Argument → Except UsageFault (Options × List String)
  | [] => .ok (options, spare)
  | .plain text :: rest => take options (spare ++ [text]) rest
  | .unknown text :: rest => take options (spare ++ [text]) rest
  | .separator :: rest => take options (spare ++ [Argument.separatorText]) rest
  | .option flag name value :: rest =>
    if flag.takesValue then
      match value, rest with
      | some value, rest => do take (← options.withValue flag value) spare rest
      | none, .plain value :: rest => do take (← options.withValue flag value) spare rest
      | none, _ => .error (.missingValue flag)
    else do take (← options.switchOnNamed flag name value) spare rest

/-- Read the options of a session from its arguments. -/
def ofArguments (arguments : List String) : Except UsageFault Options := do
  let classified ← Argument.classifyAll arguments
  let (options, spare) ← take {} [] classified
  if spare.isEmpty then return options else throw (.unrecognized spare)

end Options

end Vivarium
