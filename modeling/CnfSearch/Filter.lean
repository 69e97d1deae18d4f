import CnfSearch.Command
import CnfSearch.Pattern
import CnfSearch.Text.Blank

-- The language in which a setting says what to log. The theory speaks of a run with any
-- interest and does not depend on how the setting is read.
namespace CnfSearch

structure Directive where
  topic : String
  limit : Option Severity
  deriving DecidableEq

-- Of the directives whose text begins an event's topic, the longest decides, and of these the
-- last.
structure Filter where
  directives : List Directive
  pattern : Option Pattern

inductive Complaint where
  | directive (text : String)
  | parts (text : String)
  | pattern (reason : String)
  deriving DecidableEq

def Complaint.message : Complaint → String
  | .directive text => s!"invalid logging spec '{text}', ignoring it"
  | .parts text => s!"invalid logging spec '{text}', ignoring it (too many '/'s)"
  | .pattern reason => s!"invalid regex filter - {reason}"

def Complaint.line (c : Complaint) : String := s!"warning: {c.message}\n"

namespace Filter

def readLimit? (word : String) : Option (Option Severity) :=
  match word.toLower with
  | "off" => some none
  | "error" => some (some .error)
  | "warn" => some (some .warn)
  | "info" => some (some .info)
  | "debug" => some (some .debug)
  | "trace" => some (some .trace)
  | _ => none

def trimWord (word : String) : String := String.ofList (Text.trim word.toList)

-- A lone limit is for all topics, and a lone topic has no limit but the last.
def readDirective (part : String) : Except Complaint Directive :=
  match part.splitOn "=" with
  | [word] =>
    match readLimit? word with
    | some limit => .ok ⟨"",limit⟩
    | none => .ok ⟨word,some .trace⟩
  | [topic,word] =>
    let word := trimWord word
    if word = "" then .ok ⟨topic,some .trace⟩
    else
      match readLimit? word with
      | some limit => .ok ⟨topic,limit⟩
      | none => .error (.directive word)
  | _ => .error (.directive part)

def readParts (text : String) : List (Except Complaint Directive) :=
  ((text.splitOn ",").filter (· ≠ "")).map readDirective

def complaint? : Except Complaint α → Option Complaint
  | .error complaint => some complaint
  | .ok _ => none

-- Where there are no directives, errors are wanted.
def ofDirectives (directives : List Directive) (pattern : Option Pattern) : Filter :=
  ⟨if directives.isEmpty then [⟨"",some .error⟩] else directives,pattern⟩

def read (text : String) : Filter × List Complaint :=
  match text.splitOn "/" with
  | [words] =>
    let parts := readParts words
    (ofDirectives (parts.filterMap Except.toOption) none,parts.filterMap complaint?)
  | [words,pattern] =>
    let parts := readParts words
    let pattern := (Pattern.read pattern).mapError Complaint.pattern
    (ofDirectives (parts.filterMap Except.toOption) pattern.toOption,
      parts.filterMap complaint? ++ (complaint? pattern).toList)
  | _ => (ofDirectives [] none,[.parts text])

def standard : Filter := ⟨[⟨"brutesat",some .warn⟩],none⟩

def readSetting : Option String → Filter × List Complaint
  | none => (standard,[])
  | some text => read text

def longer (best : Option Directive) (d : Directive) : Option Directive :=
  match best with
  | none => some d
  | some b => if b.topic.length ≤ d.topic.length then some d else some b

def deciding? (filter : Filter) (topic : String) : Option Directive :=
  (filter.directives.filter fun d => d.topic.toList.isPrefixOf topic.toList).foldl longer none

def wants (filter : Filter) : Interest := fun e =>
  match filter.deciding? e.topic with
  | none => false
  | some d => e.severity.passes d.limit && filter.pattern.all (·.isIn e.message)

end Filter

def Command.runWith (source : Source) (setting : Option String) (arguments : List String)
    (program : Option String := none) : Outcome :=
  let (filter,complaints) := Filter.readSetting setting
  let outcome := run source filter.wants arguments program
  { outcome with stderr := .join (complaints.map Complaint.line) ++ outcome.stderr }

end CnfSearch
