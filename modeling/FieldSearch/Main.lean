import FieldSearch.CommandLine.Answer
import FieldSearch.Store.Document

/-!
# The program

Reads what the arguments name and prints the answer. A database is a file with the rows of its
tables in JSON.
-/

namespace FieldSearch.CommandLine

def readVariable (name : String) : IO (Option (String × String)) := do
  return (← IO.getEnv name).map (name, ·)

/-- The text of a file, if it can be read. -/
def readText (path : String) : IO (Option String) :=
  try some <$> IO.FS.readFile path catch _ => pure none

def readFiles (paths : List String) : IO (List (String × File)) :=
  paths.filterMapM fun path => do return (← readText path).map fun text => (path, .text text)

/-- The texts that a command reads. -/
def Invocation.texts (i : Invocation) : List String :=
  i.options.schema.toList ++
    match i.command with
    | .compile source _ => [source]
    | .sql source _ => [source]
    | .run source _ _ => [source]
    | _ => []

def Invocation.databasePath? (i : Invocation) : Option String :=
  match i.command with
  | .run _ _ path => some path
  | _ => none

def readDatabase (s : Surroundings) (i : Invocation) (path : String) :
    IO (List (String × File)) := do
  let text ← readText path
  let store := do
    let registry ← (i.options.registry s).toOption
    Store.ofJson? registry (← Json.ofText? (← text))
  return store.toList.map fun store => (path, .database store)

def readInput (i : Invocation) : IO String := do
  if i.texts.contains "-" then (← IO.getStdin).readToEnd else pure ""

/-- All that the arguments name. -/
def surroundings (args : List String) : IO Surroundings := do
  let environment ← variableNames.filterMapM readVariable
  match Invocation.ofArguments environment args with
  | .error _ => return ⟨environment, "", []⟩
  | .ok i =>
    let s : Surroundings := ⟨environment, ← readInput i, ← readFiles i.texts⟩
    match i.databasePath? with
    | none => return s
    | some path => return { s with files := s.files ++ (← readDatabase s i path) }

end FieldSearch.CommandLine

open FieldSearch.CommandLine in
/-- Answer the arguments. -/
def main (args : List String) : IO UInt32 := do
  let result := answer (← surroundings args) args
  IO.print (printed result)
  (complaints result).forM IO.eprintln
  return UInt32.ofNat (exitStatus result)
