import FieldSearch.CommandLine.Invocation
import FieldSearch.Schema.Builtin
import FieldSearch.Search.Parameters
import FieldSearch.Store.Search

/-!
# What a command prints

A command ends with a JSON value, or is refused: for its arguments, for its options, for something
that it needs and cannot have, or because the search itself is rejected.
-/

namespace FieldSearch.CommandLine

inductive File where
  | text (content : String)
  | database (store : Store)

/-- What a command can read. -/
structure Surroundings where
  environment : List (String × String)
  input : String
  files : List (String × File)

namespace Surroundings

def isFile (s : Surroundings) (path : String) : Bool := (s.files.lookup path).isSome

def text? (s : Surroundings) (path : String) : Option String :=
  match s.files.lookup path with
  | some (.text content) => some content
  | _ => none

def database? (s : Surroundings) (path : String) : Option Store :=
  match s.files.lookup path with
  | some (.database store) => some store
  | _ => none

end Surroundings

inductive OptionFault where
  | unknownLogLevel (level : String)
  | missingSchema (path : String)
  | config (fault : ConfigFault)
  deriving DecidableEq

def OptionFault.message : OptionFault → String
  | unknownLogLevel level => "Unknown log level '" ++ level ++ "'"
  | missingSchema path => "Schema file " ++ path ++ " does not exist"
  | config fault => fault.message

/-- Something that a command needs and cannot have. -/
inductive Failure where
  | unreadable (path : String)
  | notJson (source : String)
  | noDatabase (path : String)
  | schema (cause : SchemaError)
  | execution (cause : ExecutionError)

def Failure.message : Failure → String
  | unreadable path => "cannot read " ++ path
  | notJson source => source ++ " is not JSON"
  | noDatabase path => "cannot open database " ++ path
  | schema cause => "the schema is refused: " ++ cause.code
  | execution (.render cause) => cause.message
  | execution (.store _) => "the database refuses the search"

inductive Refusal where
  | usage (cause : UsageError)
  | options (faults : List OptionFault)
  | failure (cause : Failure)
  | rejected (cause : SearchError)

def logLevels : List String := ["error", "warn", "info", "debug", "trace"]

/-- The level is known in whatever case it is written. -/
def isLogLevel (level : String) : Bool :=
  logLevels.any fun known => known.toList == level.toList.map Char.toLower

namespace Options

/-- Everything that is wrong with the options. -/
def faults (s : Surroundings) (o : Options) : List OptionFault :=
  (if isLogLevel o.logLevel then [] else [.unknownLogLevel o.logLevel]) ++
  ((o.schema.filter (!s.isFile ·)).map .missingSchema).toList ++
  o.config.faults.map .config

def registry (s : Surroundings) (o : Options) : Except Failure Registry :=
  match o.schema with
  | none => Registry.builtin.mapError .schema
  | some path =>
    match s.text? path with
    | none => .error (.unreadable path)
    | some text => Except.mapError .schema do (← SchemaDocument.ofText text).registry

end Options

/-- The text of a request, `-` being the input. -/
def requestText (s : Surroundings) (source : String) : Except Failure String :=
  if source = "-" then .ok s.input
  else
    match s.text? source with
    | some text => .ok text
    | none => .error (.unreadable source)

def request (s : Surroundings) (source : String) : Except Failure Json := do
  match Json.ofText? (← requestText s source) with
  | some j => pure j
  | none => throw (.notJson source)

def plan (s : Surroundings) (c : Compiler) (source entity : String) : Except Refusal Plan := do
  let j ← (request s source).mapError .failure
  (c.compileRequest entity j).mapError .rejected

def execution {α : Type} (r : Except ExecutionError α) : Except Refusal α :=
  r.mapError (.failure ∘ .execution)

def rendered (r : Except Sql.RenderError Sql.Fragment) : Except Refusal Sql.Fragment :=
  execution (r.mapError .render)

def paramValues (f : Sql.Fragment) : Json := .array (f.params.map Sql.Value.toJson)

/-- The answer of a command. -/
def Command.answer (s : Surroundings) (c : Compiler) : Command → Except Refusal Json
  | compile source entity => Plan.toJson <$> plan s c source entity
  | sql source entity => do
    let p ← plan s c source entity
    let select ← rendered (Sql.select c.registry p)
    let count ← rendered (Sql.count c.registry p)
    pure (Json.record [("sql", .string select.text), ("params", paramValues select),
      ("countSql", .string count.text), ("countParams", paramValues count)])
  | run source entity path => do
    let p ← plan s c source entity
    match s.database? path with
    | none => throw (.failure (.noDatabase path))
    | some store =>
      let keys ← execution (store.execute c.registry p)
      let count ← execution (store.count c.registry p)
      pure (Json.record [("ids", .array (keys.map Sql.Value.toJson)), ("count", Json.ofNat count)])
  | params entity => (c.parameters entity).mapError .rejected
  | entities => .ok (Json.strings c.registry.searchableNames)

def Invocation.answer (s : Surroundings) (i : Invocation) : Except Refusal Json := do
  match i.options.faults s with
  | [] =>
    let registry ← (i.options.registry s).mapError .failure
    i.command.answer s ⟨registry, i.options.config⟩
  | faults => throw (.options faults)

/-- The answer to these arguments. -/
def answer (s : Surroundings) (args : List String) : Except Refusal Json := do
  let i ← (Invocation.ofArguments s.environment args).mapError .usage
  i.answer s

/-- The exit status: 2 for a rejected search or bad arguments, 1 for any other failure. -/
def exitStatus : Except Refusal Json → Nat
  | .ok _ => 0
  | .error (.usage _) => 2
  | .error (.options _) => 1
  | .error (.failure _) => 1
  | .error (.rejected _) => 2

def line (j : Json) : String := j.indented ++ "\n"

/-- What is printed: the answer, or the body of the answer to a rejected search. -/
def printed : Except Refusal Json → String
  | .ok j => line j
  | .error (.rejected cause) => line cause.body
  | .error _ => ""

/-- What is wrong with the options. -/
def optionFaults : Except Refusal Json → List OptionFault
  | .error (.options faults) => faults
  | _ => []

/-- The complaints besides the answer. -/
def complaints : Except Refusal Json → List String
  | .error (.usage cause) => [cause.message]
  | .error (.options faults) => faults.map fun f => "Configuration error: " ++ f.message
  | .error (.failure cause) => [cause.message]
  | _ => []

end FieldSearch.CommandLine
