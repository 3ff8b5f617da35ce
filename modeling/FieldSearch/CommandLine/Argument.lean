/-!
# Arguments

Options are written `--name value` or `--name=value`. Words are all else; after `--` there are only
words, whatever they look like. The arguments before the command end at its name.
-/

namespace FieldSearch.CommandLine

inductive UsageError where
  | unknownArgument (text : String)
  | missingValue (option : String)
  | badValue (option value : String)
  | repeatedOption (option : String)
  | missingArgument (command : String)
  | missingCommand
  deriving DecidableEq

def UsageError.message : UsageError → String
  | unknownArgument text => "unexpected argument '" ++ text ++ "'"
  | missingValue option => "--" ++ option ++ " needs a value"
  | badValue option value => "invalid value '" ++ value ++ "' for --" ++ option
  | repeatedOption option => "--" ++ option ++ " cannot be used twice"
  | missingArgument command => command ++ " needs further arguments"
  | missingCommand => "a command is needed: compile, sql, run, params or entities"

/-- An argument by its form. -/
inductive Argument where
  | endOfOptions
  | option (name : String) (value : Option String)
  | shortOption
  | word (text : String)
  deriving DecidableEq

/-- What follows the first `=`. -/
def attached? (cs : List Char) : Option String :=
  match cs.dropWhile (· != '=') with
  | [] => none
  | _ :: value => some (String.ofList value)

/-- A dash alone is a word. -/
def Argument.ofText (text : String) : Argument :=
  match text.toList with
  | ['-'] => .word text
  | ['-', '-'] => .endOfOptions
  | '-' :: '-' :: rest => .option (String.ofList (rest.takeWhile (· != '='))) (attached? rest)
  | '-' :: _ => .shortOption
  | _ => .word text

/-- Arguments sorted into options and words. -/
structure Scanned where
  options : List (String × String)
  words : List String
  deriving DecidableEq

namespace Scanned

def addOption (s : Scanned) (name value : String) : Scanned :=
  { s with options := (name, value) :: s.options }

def addWord (s : Scanned) (word : String) : Scanned := { s with words := word :: s.words }

end Scanned

/-- Sort the arguments. With `stopsAtWord` the first word and all that follows it are words, and
the word cannot be missing. -/
def scan (known : List String) (stopsAtWord : Bool) : List String → Except UsageError Scanned
  | [] => if stopsAtWord then .error .missingCommand else .ok ⟨[], []⟩
  | a :: rest =>
    match Argument.ofText a with
    | .word w =>
      if stopsAtWord then .ok ⟨[], w :: rest⟩ else (·.addWord w) <$> scan known stopsAtWord rest
    | .endOfOptions => if stopsAtWord then .error .missingCommand else .ok ⟨[], rest⟩
    | .shortOption => .error (.unknownArgument a)
    | .option name value =>
      if !known.contains name then .error (.unknownArgument a)
      else
        match value with
        | some v => (·.addOption name v) <$> scan known stopsAtWord rest
        | none =>
          match rest with
          | [] => .error (.missingValue name)
          | v :: rest =>
            match Argument.ofText v with
            | .word v => (·.addOption name v) <$> scan known stopsAtWord rest
            | _ => .error (.missingValue name)

end FieldSearch.CommandLine
