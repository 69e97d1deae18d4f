import CnfSearch.Dimacs.Parsed

namespace CnfSearch

inductive Severity where
  | error
  | warn
  | info
  | debug
  | trace
  deriving DecidableEq

namespace Severity

def rank : Severity → Nat
  | .error => 0
  | .warn => 1
  | .info => 2
  | .debug => 3
  | .trace => 4

def label : Severity → String
  | .error => "ERROR"
  | .warn => "WARN"
  | .info => "INFO"
  | .debug => "DEBUG"
  | .trace => "TRACE"

-- A limit lets through what is at least as grave as it is, and no limit lets through nothing.
def passes (limit : Option Severity) (s : Severity) : Bool :=
  match limit with
  | none => false
  | some limit => s.rank ≤ limit.rank

theorem passes_trace (s : Severity) : s.passes (some .trace) = true := by cases s <;> decide

end Severity

inductive Event where
  | trailingTokens (count : Nat)
  | repeatedProblem (line : Nat)
  | malformedProblem (line : Nat) (text : List Char)
  | preamble (line : Nat)
  | emptyClause (line : Nat)
  | unterminated (line : Nat)
  | parsed (numClauses numVariables : Nat)
  | discarded (discrepancy : Dimacs.Discrepancy)
  | searching (numAssignments numVariables numClauses numLiterals : Nat)
  | tried (index : Nat) (satisfied : Bool)
  | found (index : Nat)
  | exhausted
  deriving DecidableEq

namespace Event

def severity : Event → Severity
  | .trailingTokens _ | .repeatedProblem _ | .malformedProblem _ _ | .emptyClause _
  | .unterminated _ | .discarded _ => .warn
  | .preamble _ | .parsed _ _ | .searching _ _ _ _ | .found _ | .exhausted => .debug
  | .tried _ _ => .trace

def topic : Event → String
  | .searching _ _ _ _ | .tried _ _ | .found _ | .exhausted => "brutesat::solver::brute_force"
  | _ => "brutesat::parser"

def message : Event → String
  | .trailingTokens count => s!"Ignoring {count} trailing token(s) on the problem line"
  | .repeatedProblem line => s!"Ignoring repeated problem line at line {line}"
  | .malformedProblem line text =>
    let text := String.ofList text
    s!"Ignoring malformed problem line at line {line}: '{text}'"
  | .preamble line => s!"Skipping line {line} before the clause block"
  | .emptyClause line => s!"Skipping empty clause at line {line}"
  | .unterminated line =>
    s!"Clause starting at line {line} is not terminated by 0, accepting it as is"
  | .parsed numClauses numVariables =>
    s!"Parsed {numClauses} clauses over {numVariables} variables"
  | .discarded discrepancy => s!"Discarding formula, {discrepancy.message}"
  | .searching numAssignments numVariables numClauses numLiterals =>
    s!"Searching {numAssignments} assignments over {numVariables} variables " ++
    s!"({numClauses} clauses, {numLiterals} literals)"
  | .tried index satisfied => s!"Assignment #{index} satisfied: {satisfied}"
  | .found index => s!"Found a satisfying assignment at index {index}"
  | .exhausted => "All assignments exhausted"

def record (e : Event) : Severity × Event := (e.severity,e)

end Event

-- Which events a listener wants to hear of.
abbrev Interest := Event → Bool

def Interest.none : Interest := fun _ => false
def Interest.upTo (limit : Option Severity) : Interest := fun e => e.severity.passes limit

namespace Interest

theorem upTo_record (events : List Event) (limit : Option Severity) :
    (events.filter (upTo limit)).map Event.record =
      (events.map Event.record).filter fun r => r.1.passes limit := by
  rw [List.filter_map]
  rfl

theorem upTo_trace (events : List Event) : events.filter (upTo (some .trace)) = events :=
  List.filter_eq_self.mpr fun e _ => e.severity.passes_trace

end Interest

-- The wanted events of a run so far, the latest first.
structure Journal where
  wanted : Interest
  entries : List Event

namespace Journal

def start (wanted : Interest) : Journal := ⟨wanted,[]⟩

def note (j : Journal) (e : Event) : Journal :=
  if j.wanted e then { j with entries := e :: j.entries } else j

def events (j : Journal) : List Event := j.entries.reverse

theorem note_events (j : Journal) (e : Event) :
    (j.note e).events = j.events ++ [e].filter j.wanted := by
  unfold note events
  split <;> simp_all

theorem note_wanted (j : Journal) (e : Event) : (j.note e).wanted = j.wanted := by
  unfold note
  split <;> rfl

end Journal

structure Logged (α : Type) where
  value : α
  events : List Event

end CnfSearch
