import CnfSearch.Display
import CnfSearch.Verdict

namespace CnfSearch

inductive Command where
  | help
  | check (path : String)
  deriving DecidableEq

inductive CommandError where
  | unknownCommand (name : String)
  | missingArgument
  | unsolved (cause : SolveError)
  deriving DecidableEq

structure Outcome where
  status : Nat
  stdout : String
  stderr : String
  deriving DecidableEq

namespace Command

-- A program that is not told its name goes by this one.
def programName (program : Option String) : String := program.getD "brutesat"

def usage (program : Option String) : String :=
  s!"Usage: {programName program} <command>\n\ncommand:\n" ++
  "    check <file_name> - decide satisfiability of the given DIMACS CNF file"

-- Arguments after the ones that a command needs have no effect.
def read : List String → Except CommandError Command
  | [] => .ok .help
  | ["check"] => .error .missingArgument
  | "check" :: path :: _ => .ok (.check path)
  | name :: _ => .error (.unknownCommand name)

end Command

def CommandError.explain (program : Option String) : CommandError → Explanation
  | .unknownCommand name => .plain s!"Unknown command '{name}'\n\n{Command.usage program}"
  | .missingArgument => .plain s!"Required argument does not exist\n\n{Command.usage program}"
  | .unsolved cause => cause.explain.under "Failed to solve CNF"

-- The severity stands in a column five characters wide.
def Event.line (e : Event) : String :=
  let label := e.severity.label
  let column := label.pushn ' ' (5 - label.length)
  s!" {column} {e.topic} > {e.message}\n"

def Event.log (events : List Event) : String := .join (events.map Event.line)

def Verdict.line : Verdict → String
  | .sat model => s!"SAT {model.display}\n"
  | .unsat => "UNSAT\n"

namespace Outcome

def success (text : String) (events : List Event) : Outcome := ⟨0,text,Event.log events⟩

def failure (program : Option String) (error : CommandError) (events : List Event) : Outcome :=
  ⟨1,"",Event.log events ++ s!"Error: {(error.explain program).report}\n"⟩

end Outcome

namespace Command

def perform (program : Option String) (source : Source) (wanted : Interest) : Command → Outcome
  | .help => .success s!"{usage program}\n" []
  | .check path =>
    let solved := Dimacs.solveFile source path wanted
    match solved.value with
    | .ok verdict => .success verdict.line solved.events
    | .error cause => .failure program (.unsolved cause) solved.events

def run (source : Source) (wanted : Interest) (arguments : List String)
    (program : Option String := none) : Outcome :=
  match read arguments with
  | .ok command => command.perform program source wanted
  | .error error => .failure program error []

end Command
end CnfSearch
