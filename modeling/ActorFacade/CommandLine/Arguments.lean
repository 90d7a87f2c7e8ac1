import ActorFacade.Text.DecimalDigit

/-! # Arguments

The arguments of the program are switches and plain arguments.  A switch has a long name, which may
be cut short as long as it stays the only one, and perhaps a letter.  Letters can be written
together behind one hyphen.  The value of a switch follows it, or is written behind an equals sign,
or directly behind the letter.  An equals sign behind the first letter of an argument only separates
it from what follows; behind a later one it belongs to the value.  Two hyphens end the switches.
-/

namespace ActorFacade.CommandLine

/-- What can be asked for by name. -/
inductive Switch where
  | help
  | verbose
  | output
  | force
  | quiet
  | logFile
deriving DecidableEq, Repr

namespace Switch

/-- Whether a switch has a value. -/
def takesValue : Switch → Bool
  | .output | .logFile => true
  | _ => false

end Switch

/-- The names of switches. -/
structure Names where
  /-- The letters of switches. -/
  letters : List (CodePoint × Switch)
  /-- The long names of switches, without hyphens. -/
  words : List (Text × Switch)

namespace Names

/-- The switches in front of the command. -/
def general : Names := ⟨[(0x68, .help), (0x76, .verbose)], [("help", .help), ("verbose", .verbose)]⟩

/-- The switches of the command that builds actors. -/
def build : Names :=
  ⟨[(0x68, .help), (0x76, .verbose), (0x6F, .output), (0x71, .quiet)],
    [("help", .help), ("verbose", .verbose), ("output", .output), ("force", .force),
      ("quiet", .quiet), ("log-file", .logFile)]⟩

/-- The switch of a letter. -/
def letter? (names : Names) (c : CodePoint) : Option Switch :=
  (names.letters.find? fun e ↦ e.1 == c).map (·.2)

/-- The switch with a long name. -/
def word? (names : Names) (t : Text) : Option Switch :=
  (names.words.find? fun e ↦ e.1 == t).map (·.2)

/-- The switches with a long name that begins with a text. -/
def completions (names : Names) (t : Text) : List Switch :=
  (names.words.filter fun e ↦ e.1.startsWith t).map (·.2)

end Names

/-! ## Pieces -/

/-- What an argument can be. -/
inductive Piece where
  | plain (t : Text)
  /-- A switch with a long name and the value behind its equals sign, if there is one. -/
  | word (s : Switch) (value : Option Text)
  /-- A switch with a letter and what is written behind the letter, if there is something: the
  letters of further switches, or a value. -/
  | letter (s : Switch) (behind : Option Text)
  /-- A name that no switch has. -/
  | unknown
  /-- The beginning of the names of several switches. -/
  | ambiguous
deriving DecidableEq, Repr

/-- Whether a text looks like a negative number. -/
def isNegativeNumber (t : Text) : Bool :=
  match t with
  | 0x2D :: t =>
    let t := if t.getLast? = some 0x0A then t.dropLast else t
    let isRow (t : Text) : Bool := !t.isEmpty && t.all Text.isDigit
    match t.dropWhile Text.isDigit with
    | 0x2E :: fraction => isRow fraction
    | rest => rest.isEmpty && isRow t
  | _ => false

/-- An argument that begins with a hyphen but names no switch. -/
def unnamed (t : Text) : Piece :=
  if isNegativeNumber t || t.contains 0x20 then .plain t else .unknown

/-- What an argument behind two hyphens is. -/
def wordPiece (names : Names) (t : Text) : Piece :=
  let (name, value) := match t.cut? "=" with
    | some (name, value) => (name, some value)
    | none => (t, none)
  match names.word? name, names.completions name with
  | some s, _ | none, [s] => .word s value
  | none, [] => unnamed ("--" ++ t)
  | none, _ => .ambiguous

/-- What is written behind the first letter of an argument; an equals sign directly behind it is not
counted. -/
def behindLetter : Text → Option Text
  | [] => none
  | 0x3D :: t => some t
  | t => some t

/-- What an argument is. -/
def piece (names : Names) (t : Text) : Piece :=
  match t with
  | 0x2D :: 0x2D :: t => wordPiece names t
  | 0x2D :: c :: rest =>
    match names.letter? c with
    | some s => .letter s (behindLetter rest)
    | none => unnamed t
  | _ => .plain t

/-- The mark behind which nothing is a switch. -/
def endMark : Text := "--"

/-- A value that is written in one argument with its switch; the end mark is no value. -/
def attachedValue (t : Text) : Text := if t = endMark then [] else t

/-- Whether some arguments have an ambiguous one before the end mark. -/
def isAmbiguous (names : Names) (args : List Text) : Bool :=
  (args.takeWhile (· != endMark)).any fun t ↦ piece names t == .ambiguous

/-- The next argument, if it can be the value of a switch. -/
def value? (names : Names) : List Text → Option (Text × List Text)
  | [] => none
  | t :: args =>
    match piece names t with
    | .plain t => some (t, args)
    | _ => none

/-! ## Taking switches -/

/-- Switches that were taken. -/
structure Taken where
  /-- The switches with their values in order. -/
  switches : List (Switch × Text)
  /-- The arguments behind. -/
  rest : List Text
deriving DecidableEq, Repr

/-- Adds a switch in front of those that were taken. -/
def Taken.cons (s : Switch) (t : Taken) : Taken := { t with switches := (s, []) :: t.switches }

/-- Takes a switch that has its value, if any, in the arguments behind it. -/
def takeSwitch (names : Names) (s : Switch) (args : List Text) : Option Taken :=
  if s.takesValue then (value? names args).map fun (v, rest) ↦ ⟨[(s, v)], rest⟩
  else some ⟨[(s, [])], args⟩

/-- Takes a switch behind whose letter a text is written: its value, or the letters of further
switches.  Each of these must have a switch, and a row of letters cannot be empty. -/
def takeRow (names : Names) (args : List Text) (s : Switch) (behind : Text) : Option Taken :=
  if s.takesValue then some ⟨[(s, attachedValue behind)], args⟩
  else
    match behind with
    | [] => none
    | c :: behind => do
      let next ← names.letter? c
      let taken ← if behind.isEmpty then takeSwitch names next args
        else takeRow names args next behind
      return taken.cons s

/-- Takes a switch by its letter. -/
def takeLetter (names : Names) (args : List Text) (s : Switch) : Option Text → Option Taken
  | none => takeSwitch names s args
  | some behind => takeRow names args s behind

/-- Takes a switch by its long name. -/
def takeWord (names : Names) (s : Switch) (value : Option Text) (args : List Text) :
    Option Taken :=
  match value with
  | none => takeSwitch names s args
  | some v => if s.takesValue then some ⟨[(s, attachedValue v)], args⟩ else none

/-! ## What is asked for -/

/-- What a command is asked to do. -/
structure Request where
  /-- Whether everything is to be shown. -/
  verbose : Bool := false
  /-- Whether warnings and worse only are to be shown. -/
  quiet : Bool := false
  /-- Whether an actor is to be written although it is up to date. -/
  force : Bool := false
  /-- Where the suite is. -/
  path : Text := "."
  /-- The file of the actor. -/
  output : Text := []
  /-- The log file. -/
  logFile : Text := []
deriving DecidableEq, Repr

/-- A request with a switch added. -/
def Request.set (r : Request) (s : Switch) (value : Text) : Request :=
  match s with
  | .help => r
  | .verbose => { r with verbose := true }
  | .quiet => { r with quiet := true }
  | .force => { r with force := true }
  | .output => { r with output := value }
  | .logFile => { r with logFile := value }

/-- A request with some switches added. -/
def Request.setAll (r : Request) (switches : List (Switch × Text)) : Request :=
  switches.foldl (fun r s ↦ r.set s.1 s.2) r

/-- What arguments come to. -/
inductive Reading where
  | request (r : Request)
  | help
  /-- The arguments make no sense. -/
  | misuse
deriving DecidableEq, Repr

/-- What has been read of the arguments of a command. -/
structure Progress where
  /-- The request. -/
  request : Request
  /-- Whether the path was given. -/
  hasPath : Bool := false
  /-- Whether the last argument was the path. -/
  isBehindPath : Bool := false
  /-- Whether there was an argument that has no place. -/
  hasExcess : Bool := false
deriving DecidableEq, Repr

namespace Progress

/-- Takes a plain argument. -/
def take (p : Progress) (t : Text) : Progress :=
  if p.hasPath then { p with hasExcess := true, isBehindPath := false }
  else { p with request := { p.request with path := t }, hasPath := true, isBehindPath := true }

/-- Takes the arguments behind the end mark.  The mark itself has a place in front of the path and
directly behind it only. -/
def finish (p : Progress) (args : List Text) : Progress :=
  let p := { p with hasExcess := p.hasExcess || (p.hasPath && !p.isBehindPath) }
  args.foldl take p

/-- What is asked for in the end. -/
def reading (p : Progress) : Reading := if p.hasExcess then .misuse else .request p.request

/-- Takes switches. -/
def takeAll (p : Progress) (t : Taken) : Progress :=
  { p with
    request := p.request.setAll t.switches
    isBehindPath := false }

end Progress

/-- Whether switches ask for help. -/
def Taken.asksHelp (t : Taken) : Bool := t.switches.any fun s ↦ s.1 == .help

/-- Reads the arguments of a command, in as many steps as there are arguments. -/
def readCommand (names : Names) : Nat → Progress → List Text → Reading
  | 0, p, _ | _, p, [] => p.reading
  | steps + 1, p, t :: args =>
    let go (taken : Option Taken) : Reading :=
      match taken with
      | none => .misuse
      | some taken =>
        if taken.asksHelp then .help else readCommand names steps (p.takeAll taken) taken.rest
    if t = endMark then (p.finish args).reading
    else match piece names t with
      | .plain t => readCommand names steps (p.take t) args
      | .word s value => go (takeWord names s value args)
      | .letter s behind => go (takeLetter names args s behind)
      | .unknown | .ambiguous =>
        readCommand names steps { p with hasExcess := true, isBehindPath := false } args

/-- The command that builds actors. -/
def buildCommand : Text := "build"

/-- Reads the arguments from the command on. -/
def readFromCommand (p : Progress) (command : Text) (args : List Text) : Reading :=
  if command ≠ buildCommand || isAmbiguous .build args then .misuse
  else readCommand .build args.length p args

/-- Reads the arguments in front of the command, and the command. -/
def readGeneral : Nat → Progress → List Text → Reading
  | 0, _, _ | _, _, [] => .misuse
  | steps + 1, p, t :: args =>
    let go (taken : Option Taken) : Reading :=
      match taken with
      | none => .misuse
      | some taken =>
        if taken.asksHelp then .help else readGeneral steps (p.takeAll taken) taken.rest
    if t = endMark then .misuse
    else match piece .general t with
      | .plain t => readFromCommand p t args
      | .word s value => go (takeWord .general s value args)
      | .letter s behind => go (takeLetter .general args s behind)
      | .unknown | .ambiguous => readGeneral steps { p with hasExcess := true } args

/-- Reads the arguments of the program. -/
def readArguments (args : List Text) : Reading :=
  if isAmbiguous .general args then .misuse else readGeneral args.length { request := {} } args

end ActorFacade.CommandLine
