import FieldSearch.CommandLine.Argument
import FieldSearch.Schema.Registry
import FieldSearch.Search.Config

/-!
# Commands and options

The options that all commands share may stand before or after the name of the command, or in the
environment. What stands after it counts first, then what stands before it, then the environment.
-/

namespace FieldSearch.CommandLine

inductive Command where
  | compile (request entity : String)
  | sql (request entity : String)
  | run (request entity database : String)
  | params (entity : String)
  | entities
  deriving DecidableEq

structure Options where
  logLevel : String
  schema : Option String
  config : Config
  deriving DecidableEq

structure Invocation where
  options : Options
  command : Command
  deriving DecidableEq

/-- The options before and after the name of the command, and the environment. -/
structure Given where
  before : List (String × String)
  after : List (String × String)
  environment : List (String × String)

def read {α : Type} (reader : String → Option α) (option : String) (value : Option String) :
    Except UsageError (Option α) :=
  match value with
  | none => .ok none
  | some text =>
    match reader text with
    | some a => .ok (some a)
    | none => .error (.badValue option text)

namespace Given

/-- The value of an option of the command itself. -/
def own? {α : Type} (g : Given) (reader : String → Option α) (option variableName : String) :
    Except UsageError (Option α) :=
  read reader option ((g.after.lookup option).or (g.environment.lookup variableName))

/-- The value of a shared option. Both places fall back on the environment, so a value there has to
be right unless the option stands in both. -/
def shared? {α : Type} (g : Given) (reader : String → Option α) (option variableName : String) :
    Except UsageError (Option α) := do
  let inEnvironment := g.environment.lookup variableName
  let before ← read reader option ((g.before.lookup option).or inEnvironment)
  let after ← read reader option ((g.after.lookup option).or inEnvironment)
  pure (if (g.after.lookup option).isNone && (g.before.lookup option).isSome then before else after)

end Given

/-- A number of a word of 64 bits: digits, which a plus sign may precede. -/
def count? (text : String) : Option Nat :=
  let digits := match text.toList with
    | '+' :: rest => rest
    | cs => cs
  if digits.isEmpty || !digits.all Char.isDigit then none
  else
    let n := digits.foldl (fun n c => n * 10 + (c.toNat - 48)) 0
    if n < UInt64.size then some n else none

def truth? (text : String) : Option Bool :=
  if text = "true" then some true else if text = "false" then some false else none

/-- A path is not empty. -/
def path? (text : String) : Option String := if text.isEmpty then none else some text

def sharedNames : List String :=
  ["log-level", "schema", "max-depth", "max-leaves", "max-page-size", "normalize"]

/-- The options of a command, besides those that all share. -/
def ownNames? : String → Option (List String)
  | "compile" => some ["entity"]
  | "sql" => some ["entity"]
  | "run" => some ["entity", "database"]
  | "params" => some []
  | "entities" => some []
  | _ => none

/-- The variables that stand for options. -/
def variableNames : List String :=
  ["OLD_SEARCH_LOG_LEVEL", "OLD_SEARCH_SCHEMA", "OLD_SEARCH_MAX_DEPTH", "OLD_SEARCH_MAX_LEAVES",
    "OLD_SEARCH_MAX_PAGE_SIZE", "OLD_SEARCH_NORMALIZE", "OLD_SEARCH_DATABASE"]

def Options.ofGiven (g : Given) : Except UsageError Options := do
  let c : Config := {}
  let logLevel ← g.shared? some "log-level" "OLD_SEARCH_LOG_LEVEL"
  let schema ← g.shared? path? "schema" "OLD_SEARCH_SCHEMA"
  let depth ← g.shared? count? "max-depth" "OLD_SEARCH_MAX_DEPTH"
  let leaves ← g.shared? count? "max-leaves" "OLD_SEARCH_MAX_LEAVES"
  let items ← g.shared? count? "max-page-size" "OLD_SEARCH_MAX_PAGE_SIZE"
  let normalize ← g.shared? truth? "normalize" "OLD_SEARCH_NORMALIZE"
  pure {
    logLevel := logLevel.getD "warn"
    schema := schema
    config := {
      maxDepth := depth.getD c.maxDepth
      maxLeaves := leaves.getD c.maxLeaves
      normalizeStrings := normalize.getD c.normalizeStrings
      maxItemsPerPage := items.getD c.maxItemsPerPage } }

def Given.entity (g : Given) : String := (g.after.lookup "entity").getD "Form"

def Command.ofGiven (g : Given) (name : String) (words : List String) :
    Except UsageError Command :=
  match name, words with
  | "compile", [request] => .ok (.compile request g.entity)
  | "sql", [request] => .ok (.sql request g.entity)
  | "run", [request] => do
    match ← g.own? path? "database" "OLD_SEARCH_DATABASE" with
    | some database => pure (.run request g.entity database)
    | none => throw (.missingArgument name)
  | "params", [entity] => .ok (.params entity)
  | "entities", [] => .ok .entities
  | name, [] => .error (.missingArgument name)
  | _, word :: _ => .error (.unknownArgument word)

def checkRepeated (options : List (String × String)) : Except UsageError Unit :=
  match firstRepeated? [] (options.map (·.1)) with
  | some name => .error (.repeatedOption name)
  | none => .ok ()

def Invocation.ofArguments (environment : List (String × String)) (args : List String) :
    Except UsageError Invocation := do
  let before ← scan sharedNames true args
  match before.words with
  | [] => throw .missingCommand
  | name :: rest =>
    match ownNames? name with
    | none => throw (.unknownArgument name)
    | some own =>
      let after ← scan (sharedNames ++ own) false rest
      checkRepeated before.options
      checkRepeated after.options
      let g : Given := ⟨before.options, after.options, environment⟩
      let command ← Command.ofGiven g name after.words
      pure ⟨← Options.ofGiven g, command⟩

end FieldSearch.CommandLine
