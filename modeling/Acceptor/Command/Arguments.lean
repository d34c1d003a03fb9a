/-! The command line. Options may stand before or behind the subcommand, each at most once on
either side; an option that needs a value takes the next argument unless that looks like an
option. The subcommand's side wins over the other one, and both win over the environment. -/
namespace Acceptor.Command

/-- What can be asked of a registry. -/
inductive Query where
  | run (name word : String) (pretty : Bool)
  | list
  | describe (name : String)
  | repl
  deriving DecidableEq

inductive Action where
  | audit (path : String)
  | query (q : Query)
  deriving DecidableEq

structure Invocation where
  verbose : Bool
  quiet : Bool
  definitions? : Option String
  withBuiltin : Bool
  action : Action
  deriving DecidableEq

inductive Request where
  | misuse
  | help
  | version
  | invoke (i : Invocation)
  deriving DecidableEq

inductive Subcommand where
  | run
  | list
  | describe
  | audit
  | repl
  | help
  deriving DecidableEq

namespace Subcommand

def ofName? : String → Option Subcommand
  | "run" => some run
  | "list" => some list
  | "describe" => some describe
  | "audit" => some audit
  | "repl" => some repl
  | "help" => some help
  | _ => none

def maxOperands : Subcommand → Nat
  | run => 2
  | describe => 1
  | audit => 1
  | list => 0
  | repl => 0
  | help => 0

end Subcommand

/-- What was given on one side of the subcommand. -/
structure Given where
  verbose : Bool
  quiet : Bool
  noCatalog : Bool
  pretty : Bool
  definitions? : Option String
  operands : List String

namespace Given

def nothing : Given := ⟨false, false, false, false, none, []⟩

end Given

/-- Why reading the arguments ends before their end. -/
inductive Stop where
  | misuse
  | help
  | version

/-- A flag is refused when it was given before on the same side. -/
def onceOnly (given : Bool) (g : Given) : Except Stop Given :=
  if given then .error .misuse else .ok g

def takeDefinitions (g : Given) (path : String) : Except Stop Given :=
  if g.definitions?.isSome ∨ path = "" then .error .misuse
  else .ok { g with definitions? := some path }

/-- `--pretty` belongs to `run` alone, `--version` to no subcommand. -/
def takeLong (side : Option Subcommand) (g : Given) (name : String) : Except Stop Given :=
  if name = "verbose" then onceOnly g.verbose { g with verbose := true }
  else if name = "quiet" then onceOnly g.quiet { g with quiet := true }
  else if name = "no-catalog" then onceOnly g.noCatalog { g with noCatalog := true }
  else if name = "pretty" ∧ side = some .run then onceOnly g.pretty { g with pretty := true }
  else if name = "help" then .error .help
  else if name = "version" ∧ side = none then .error .version
  else .error .misuse

def takeShort (side : Option Subcommand) (g : Given) (c : Char) : Except Stop Given :=
  if c = 'v' then takeLong side g "verbose"
  else if c = 'q' then takeLong side g "quiet"
  else if c = 'h' then takeLong side g "help"
  else if c = 'V' then takeLong side g "version"
  else .error .misuse

def takeCluster (side : Option Subcommand) (g : Given) : List Char → Except Stop Given
  | [] => .ok g
  | c :: rest =>
    match takeShort side g c with
    | .error e => .error e
    | .ok g => takeCluster side g rest

/-- There may be no more operands than the subcommand takes, and no path may be empty. -/
def takeOperand (c : Subcommand) (g : Given) (operand : String) : Except Stop Given :=
  if c.maxOperands ≤ g.operands.length ∨ (c = .audit ∧ operand = "") then .error .misuse
  else .ok { g with operands := g.operands ++ [operand] }

def takeOperands (c : Subcommand) (g : Given) : List String → Except Stop Given
  | [] => .ok g
  | operand :: rest =>
    match takeOperand c g operand with
    | .error e => .error e
    | .ok g => takeOperands c g rest

inductive Shape where
  | operand
  | separator
  | long (name : List Char)
  | cluster (letters : List Char)

/-- A single hyphen is an operand. -/
def shape (arg : String) : Shape :=
  match arg.toList with
  | ['-', '-'] => .separator
  | '-' :: '-' :: name => .long name
  | '-' :: c :: letters => .cluster (c :: letters)
  | _ => .operand

def isOperand (arg : String) : Bool :=
  match shape arg with
  | .operand => true
  | _ => false

/-- The path in `--definitions=path`. -/
def attachedPath? (name : List Char) : Option String :=
  if "definitions=".toList.isPrefixOf name then
    some (.ofList (name.drop "definitions=".length))
  else none

/-- Before the subcommand the first operand ends the options, and only the end of the line
may follow a separator. Behind it operands and options mix, and what follows a separator is
an operand. -/
def takeArguments (side : Option Subcommand) (g : Given) :
    List String → Except Stop (Given × List String)
  | [] => .ok (g, [])
  | arg :: rest =>
    match shape arg with
    | .operand =>
      match side with
      | none => .ok (g, arg :: rest)
      | some c =>
        match takeOperand c g arg with
        | .error e => .error e
        | .ok g => takeArguments side g rest
    | .separator =>
      match side with
      | none => if rest.isEmpty then .ok (g, []) else .error .misuse
      | some c =>
        match takeOperands c g rest with
        | .error e => .error e
        | .ok g => .ok (g, [])
    | .cluster letters =>
      match takeCluster side g letters with
      | .error e => .error e
      | .ok g => takeArguments side g rest
    | .long name =>
      if name = "definitions".toList then
        match rest with
        | [] => .error .misuse
        | path :: rest =>
          if isOperand path then
            match takeDefinitions g path with
            | .error e => .error e
            | .ok g => takeArguments side g rest
          else .error .misuse
      else
        match attachedPath? name with
        | some path =>
          match takeDefinitions g path with
          | .error e => .error e
          | .ok g => takeArguments side g rest
        | none =>
          match takeLong side g (.ofList name) with
          | .error e => .error e
          | .ok g => takeArguments side g rest

/-- A word that is left out is empty; every other operand is required. -/
def action? (c : Subcommand) (g : Given) : Option Action :=
  match c, g.operands with
  | .run, [name] => some (.query (.run name "" g.pretty))
  | .run, [name, word] => some (.query (.run name word g.pretty))
  | .list, [] => some (.query .list)
  | .describe, [name] => some (.query (.describe name))
  | .audit, [path] => some (.audit path)
  | .repl, [] => some (.query .repl)
  | _, _ => none

/-- An environment that gives an empty path is refused on each side that needs it. -/
def definitions? (environment : Option String) (sides : List Given) :
    Except Stop (Option String) :=
  if environment = some "" ∧ sides.any (·.definitions?.isNone) then .error .misuse
  else .ok ((sides.findSome? Given.definitions?).or environment)

/-- Sides are listed by weight, the subcommand's first. -/
def invocation (environment : Option String) (sides : List Given) (action : Action) :
    Except Stop Invocation :=
  match definitions? environment sides with
  | .error e => .error e
  | .ok path =>
    .ok ⟨sides.any (·.verbose), sides.any (·.quiet), path, !sides.any (·.noCatalog), action⟩

/-- `help` takes the name of at most one subcommand. -/
def helpOn (rest : List String) : Stop :=
  match rest with
  | [] => .help
  | [name] => if (Subcommand.ofName? name).isSome then .help else .misuse
  | _ => .misuse

def takeLine (environment : Option String) (args : List String) : Except Stop Invocation :=
  match takeArguments none .nothing args with
  | .error e => .error e
  | .ok (general, []) => invocation environment [general] (.query .list)
  | .ok (general, name :: rest) =>
    match Subcommand.ofName? name with
    | none => .error .misuse
    | some .help => .error (helpOn rest)
    | some c =>
      match takeArguments (some c) .nothing rest with
      | .error e => .error e
      | .ok (given, _) =>
        match action? c given with
        | none => .error .misuse
        | some action => invocation environment [given, general] action

def Request.ofArguments (environment : Option String) (args : List String) : Request :=
  match takeLine environment args with
  | .ok i => .invoke i
  | .error .misuse => .misuse
  | .error .help => .help
  | .error .version => .version

end Acceptor.Command
