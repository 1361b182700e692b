import EmulatedShell.CommandLine.Switch
import EmulatedShell.Disk.Usual

namespace EmulatedShell

/-- What a program call asks for: a single command if there is one, a user, a directory to start
in, and whether commands are delayed. -/
structure Choices where
  command : Option String
  user : String
  directory : String
  delayed : Bool
  verbose : Bool
  deriving Repr, DecidableEq

/-- What a program call without arguments asks for. -/
def usualChoices : Choices := ⟨none, "user", usualHome, true, false⟩

/-- An option with its value, if it has one. -/
abbrev Setting := Switch × Option String

/-- What a program call comes to. -/
inductive Call where
  /-- It asks for an explanation. -/
  | help
  /-- It makes its choices. -/
  | run (choices : Choices)
  deriving Repr, DecidableEq

/-- The choices with the value of an option. -/
def Choices.set (choices : Choices) (option : Switch) (value : String) : Choices :=
  match option with
  | .command => { choices with command := some value }
  | .user => { choices with user := value }
  | .directory => { choices with directory := value }
  | .noDelay => { choices with delayed := false }
  | .verbose => { choices with verbose := true }
  | .help => choices

/-- The settings are made in order. A request for help ends everything. -/
def Choices.setAll (choices : Choices) : List Setting → Option Choices
  | [] => some choices
  | (.help, _) :: _ => none
  | (option, value) :: rest => (choices.set option (value.getD "")).setAll rest

/-- An attached value. Two hyphens are no value. -/
def attachedValue (text : String) : String := if text = "--" then "" else text

/-- The options of one argument: those that are complete, and one that still needs its value. -/
structure Cluster where
  settings : List Setting
  waiting : Option Switch
  deriving Repr, DecidableEq

namespace Cluster

/-- An option that nothing is attached to. -/
def bare (option : Switch) : Cluster :=
  if option.takesValue then ⟨[], some option⟩ else ⟨[(option, none)], none⟩

/-- An option with an attached value. -/
def valued (option : Switch) (value : String) : Except UsageFault Cluster :=
  if option.takesValue then .ok ⟨[(option, some (attachedValue value))], none⟩
  else .error (.needlessValue option value)

/-- The cluster with an option in front. -/
def cons (option : Switch) (c : Cluster) : Cluster := ⟨(option, none) :: c.settings, c.waiting⟩

/-- A letter's option with what is attached to it: its value, or the letters of further options. -/
def ofLetters (option : Switch) : List Char → Except UsageFault Cluster
  | [] => valued option ""
  | c :: rest =>
    if option.takesValue then valued option (String.ofList (c :: rest))
    else
      match Switch.ofLetter c with
      | none => .error (.needlessValue option (String.ofList (c :: rest)))
      | some next =>
        if rest = [] then .ok (cons option (bare next))
        else (ofLetters next rest).map (cons option)

end Cluster

/-- The options that an argument holds, if it is not plain. -/
def ArgumentShape.cluster : ArgumentShape → Except UsageFault (Option Cluster)
  | .plain | .separator | .unknown => .ok none
  | .short option none | .long option none => .ok (some (.bare option))
  | .short option (some attached) => (Cluster.ofLetters option attached).map some
  | .long option (some value) => (Cluster.valued option value).map some

/-- The choices that arguments make, and the arguments that mean nothing, in order. An argument can
leave an option waiting for its value, which the next argument has to be. -/
def takeArguments : Option (List Setting × Switch) → List (String × ArgumentShape) → Choices →
    List String → Except UsageFault (Option (Choices × List String))
  | none, [], choices, strange => .ok (some (choices, strange))
  | none, (text, shape) :: rest, choices, strange =>
    match shape.cluster with
    | .error fault => .error fault
    | .ok none => takeArguments none rest choices (strange ++ [text])
    | .ok (some ⟨settings, some option⟩) =>
      takeArguments (some (settings, option)) rest choices strange
    | .ok (some ⟨settings, none⟩) =>
      match choices.setAll settings with
      | none => .ok none
      | some choices => takeArguments none rest choices strange
  | some (settings, option), (value, .plain) :: rest, choices, strange =>
    match choices.setAll (settings ++ [(option, some value)]) with
    | none => .ok none
    | some choices => takeArguments none rest choices strange
  | some (_, option), _, _, _ => .error (.missingValue option)

/-- What a program call comes to. Every argument must mean something. -/
def readCall (arguments : List String) : Except UsageFault Call := do
  let shapes ← shapesOf arguments
  match ← takeArguments none shapes usualChoices [] with
  | none => return .help
  | some (choices, []) => return .run choices
  | some (_, strange) => .error (.unrecognized strange)

end EmulatedShell
