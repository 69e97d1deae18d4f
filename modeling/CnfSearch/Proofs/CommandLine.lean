import CnfSearch.Command
import CnfSearch.Proofs.TextVerdict
import CnfSearch.Proofs.Transcript

-- What a run of the command line leaves behind, for any files and any arguments.
namespace CnfSearch
open Dimacs

theorem Formula.solve_quiet (f : Formula) : (f.solve .none).events = [] := by
  by_cases narrow : f.numVariables ≤ Assignment.maxWidth
  · simp [solve,narrow,f.search_events narrow,Interest.none]
  · simp [solve,narrow]

theorem Dimacs.solveText_quiet (text : String) : (solveText text .none).events = [] := by
  unfold solveText
  cases parse text with
  | error cause => simp [Interest.none]
  | ok parsed => simp [Parsed.solve,Formula.solve_quiet,Interest.none]

theorem Dimacs.parse_error_malformed (failed : parse text = .error e) :
    ∃ line clause token cause, e = .malformedLiteral line clause token cause := by
  obtain ⟨_,g,_,_,_,refused⟩ := Traversal.mapM_error_exact.mp (parse_error_exact.mp failed)
  obtain ⟨_,token,_,cause,_,_,_,same⟩ := Group.toClause_error_exact.mp refused
  exact ⟨_,_,token,cause,same⟩

namespace Explanation

def printed (message : String) (causes : List String) : String :=
  if causes = [] then s!"{message}\n"
  else s!"{message}\n\nCaused by:\n" ++ String.join (causes.mapIdx fun i cause => s!"  {i}: {cause}\n")

theorem numbered_join (index : Nat) (causes : List String) :
    numbered index causes = String.join (causes.mapIdx fun i cause => s!"  {index + i}: {cause}\n") := by
  induction causes generalizing index with
  | nil => rfl
  | cons cause rest ih =>
    rw [numbered,ih,List.mapIdx_cons,String.join_cons]
    simp [Nat.add_assoc,Nat.add_comm 1]

theorem report_printed (e : Explanation) : e.report = printed e.message e.causes := by
  unfold report printed
  rw [numbered_join]
  cases e.causes with
  | nil => rfl
  | cons cause rest =>
    simp only [Nat.zero_add]
    rfl

end Explanation

-- What is said of a numeral that cannot be read, and of a file.
inductive Text.NumeralError.Says : NumeralError → String → Prop where
  | empty : Says .empty "cannot parse integer from empty string"
  | invalidDigit : Says .invalidDigit "invalid digit found in string"
  | tooLarge : Says .tooLarge "number too large to fit in target type"

inductive FileError.Says : FileError → String → Prop where
  | notFound : Says .notFound "No such file or directory (os error 2)"
  | isDirectory : Says .isDirectory "Is a directory (os error 21)"
  | notDirectory : Says .notDirectory "Not a directory (os error 20)"
  | notUtf8 : Says .notUtf8 "stream did not contain valid UTF-8"
  | nameTooLong : Says .nameTooLong "File name too long (os error 36)"
  | nulInPath : Says .nulInPath "file name contained an unexpected NUL byte"
  | other (words : String) : Says (.other words) words

theorem Text.NumeralError.Says.plain (said : Says cause words) : cause.explain = .plain words := by
  cases said <;> rfl

theorem Text.NumeralError.says_message (cause : NumeralError) : cause.Says cause.explain.message := by
  cases cause <;> constructor

theorem FileError.Says.plain (said : Says cause words) : cause.explain = .plain words := by
  cases said <;> rfl

theorem FileError.says_message (cause : FileError) : cause.Says cause.explain.message := by
  cases cause <;> constructor

namespace Command

-- What is answered, with the text for it, by a program that has this to say on its use.
inductive Answers (source : Source) (manual : String) : List String → String → Prop where
  | usage : Answers source manual [] s!"{manual}\n"
  | unsat {path text : String} {f : Formula} (rest : List String) (read : source path = .ok text)
      (accepted : parse text = .ok (.accepted f)) (narrow : f.occurring.dedup.length ≤ 63)
      (unsatisfied : ¬ ∃ v, f.Holds v) :
      Answers source manual ("check" :: path :: rest) "UNSAT\n"
  | sat {path text : String} {m : Model} (rest : List String) (read : source path = .ok text)
      (answered : verdict text = .ok (.sat m)) :
      Answers source manual ("check" :: path :: rest) s!"SAT {m.display}\n"

-- What is refused, with the message for it and the causes behind that.
inductive Fails (source : Source) (manual : String) : List String → String → List String → Prop where
  | unknown {name : String} (rest : List String) (other : name ≠ "check") :
      Fails source manual (name :: rest) s!"Unknown command '{name}'\n\n{manual}" []
  | missing : Fails source manual ["check"] s!"Required argument does not exist\n\n{manual}" []
  | tooWide {path text : String} {f : Formula} (rest : List String) (read : source path = .ok text)
      (accepted : parse text = .ok (.accepted f)) (wide : 63 < f.occurring.dedup.length) :
      Fails source manual ("check" :: path :: rest) "Failed to solve CNF"
        [s!"Formula has {f.occurring.dedup.length} variables, but at most 63 can be enumerated"]
  | unreadable {path words : String} {cause : FileError} (rest : List String)
      (failed : source path = .error cause) (said : cause.Says words) :
      Fails source manual ("check" :: path :: rest) "Failed to solve CNF"
        ["Failed to parse CNF",s!"I/O error occurred while reading CNF file '{path}'",words]
  | outOfRange {path text : String} {line value : Nat} {clause token : List Char} (rest : List String)
      (read : source path = .ok text)
      (malformed : parse text = .error (.malformedLiteral line clause token (.outOfRange value))) :
      Fails source manual ("check" :: path :: rest) "Failed to solve CNF"
        ["Failed to parse CNF",
          s!"Invalid literal '{String.ofList token}' found in clause starting at line {line}: '{String.ofList clause}'",
          s!"Variable ID {value} is out of range (must be within 1 to 4294967295)"]
  | notANumeral {path text words : String} {line : Nat} {clause token : List Char} {cause : Text.NumeralError}
      (rest : List String) (read : source path = .ok text)
      (malformed : parse text = .error (.malformedLiteral line clause token (.notANumeral cause)))
      (said : cause.Says words) :
      Fails source manual ("check" :: path :: rest) "Failed to solve CNF"
        ["Failed to parse CNF",
          s!"Invalid literal '{String.ofList token}' found in clause starting at line {line}: '{String.ofList clause}'",
          "Failed to parse Variable ID",words]

section Run
variable {source : Source} {path text : String} {rest : List String} {program : Option String}

theorem run_unknown (rest : List String) (other : name ≠ "check") :
    run source .none (name :: rest) program = .failure program (.unknownCommand name) [] := by
  have unread : read (name :: rest) = .error (.unknownCommand name) := by
    unfold read
    split <;> simp_all
  rw [run,unread]

theorem run_unreadable (rest : List String) (failed : source path = .error cause) :
    run source .none ("check" :: path :: rest) program =
      .failure program (.unsolved (.unparsable (.unreadable path cause))) [] := by
  simp [run,read,perform,solveFile,failed]

theorem run_answered (rest : List String) (found : source path = .ok text) (answered : verdict text = .ok v) :
    run source .none ("check" :: path :: rest) program = .success v.line [] := by
  have value : (solveText text .none).value = .ok v := answered
  simp [run,read,perform,solveFile,found,value,solveText_quiet]

theorem run_refused (rest : List String) (found : source path = .ok text) (refused : verdict text = .error cause) :
    run source .none ("check" :: path :: rest) program = .failure program (.unsolved cause) [] := by
  have value : (solveText text .none).value = .error cause := refused
  simp [run,read,perform,solveFile,found,value,solveText_quiet]

theorem failure_printed (program : Option String) (error : CommandError) :
    Outcome.failure program error [] = ⟨1,"",
      s!"Error: {Explanation.printed (error.explain program).message (error.explain program).causes}\n"⟩ := by
  simp [Outcome.failure,Event.log,Explanation.report_printed]

section Explain
variable (program : Option String)

theorem explain_tooMany (count : Nat) : (CommandError.unsolved (.tooManyVariables count)).explain program =
    ⟨"Failed to solve CNF",[s!"Formula has {count} variables, but at most 63 can be enumerated"]⟩ := by
  have limit : " variables, but at most 63 can be enumerated" =
      " variables, but at most " ++ (toString Assignment.maxWidth ++ " can be enumerated") := by decide +kernel
  change _ = Explanation.mk _ ["Formula has " ++ toString count ++ " variables, but at most 63 can be enumerated"]
  rw [limit,← String.append_assoc,← String.append_assoc]
  rfl

theorem explain_unreadable (path : String) (said : FileError.Says cause words) :
    (CommandError.unsolved (.unparsable (.unreadable path cause))).explain program = ⟨"Failed to solve CNF",
      ["Failed to parse CNF",s!"I/O error occurred while reading CNF file '{path}'",words]⟩ := by
  rw [CommandError.explain,SolveError.explain,ReadError.explain,said.plain]
  rfl

theorem explain_outOfRange (line value : Nat) (clause token : List Char) :
    (CommandError.unsolved (.unparsable (.malformedLiteral line clause token (.outOfRange value)))).explain program =
      ⟨"Failed to solve CNF",["Failed to parse CNF",
        s!"Invalid literal '{String.ofList token}' found in clause starting at line {line}: '{String.ofList clause}'",
        s!"Variable ID {value} is out of range (must be within 1 to 4294967295)"]⟩ := by
  have limit : " is out of range (must be within 1 to 4294967295)" =
      " is out of range (must be within 1 to " ++ (toString Variable.maxId ++ ")") := by decide +kernel
  change _ = Explanation.mk _
    [_,_,"Variable ID " ++ toString value ++ " is out of range (must be within 1 to 4294967295)"]
  rw [limit,← String.append_assoc,← String.append_assoc]
  rfl

theorem explain_notANumeral (line : Nat) (clause token : List Char) (said : Text.NumeralError.Says cause words) :
    (CommandError.unsolved (.unparsable (.malformedLiteral line clause token (.notANumeral cause)))).explain program =
      ⟨"Failed to solve CNF",["Failed to parse CNF",
        s!"Invalid literal '{String.ofList token}' found in clause starting at line {line}: '{String.ofList clause}'",
        "Failed to parse Variable ID",words]⟩ := by
  rw [CommandError.explain,SolveError.explain,ReadError.explain,VariableError.explain,said.plain]
  rfl

end Explain

theorem verdict_unsat {f : Formula} (accepted : parse text = .ok (.accepted f))
    (narrow : f.occurring.dedup.length ≤ 63) (unsatisfied : ¬ ∃ v, f.Holds v) : verdict text = .ok .unsat := by
  rw [← Formula.numVariables_distinct] at narrow
  exact (solveText_accepted accepted).trans ((Formula.solve_unsat_exact narrow).mpr unsatisfied)

theorem run_answers (answers : Answers source (usage program) arguments output) :
    run source .none arguments program = ⟨0,output,""⟩ := by
  cases answers with
  | usage => rfl
  | sat rest found answered =>
    rw [run_answered rest found answered]
    rfl
  | unsat rest found accepted narrow unsatisfied =>
    rw [run_answered rest found (verdict_unsat accepted narrow unsatisfied)]
    rfl

theorem run_fails (fails : Fails source (usage program) arguments message causes) :
    run source .none arguments program = ⟨1,"",s!"Error: {Explanation.printed message causes}\n"⟩ := by
  cases fails with
  | unknown rest other =>
    rw [run_unknown rest other,failure_printed]
    rfl
  | missing =>
    have refused : run source .none ["check"] program = .failure program .missingArgument [] := rfl
    rw [refused,failure_printed]
    rfl
  | tooWide rest found accepted wide =>
    rw [← Formula.numVariables_distinct] at wide ⊢
    have refused : verdict _ = .error (.tooManyVariables _) :=
      (solveText_accepted accepted).trans (Formula.solve_wide _ wide .none)
    rw [run_refused rest found refused,failure_printed,explain_tooMany]
  | unreadable rest failed said => rw [run_unreadable rest failed,failure_printed,explain_unreadable _ _ said]
  | outOfRange rest found malformed =>
    have refused : verdict _ = .error (.unparsable _) := solveText_refused.mpr malformed
    rw [run_refused rest found refused,failure_printed,explain_outOfRange]
  | notANumeral rest found malformed said =>
    have refused : verdict _ = .error (.unparsable _) := solveText_refused.mpr malformed
    rw [run_refused rest found refused,failure_printed,explain_notANumeral _ _ _ _ said]

section Settled
variable (manual : String)

theorem check_settled (rest : List String) (found : source path = .ok text) :
    (∃ output, Answers source manual ("check" :: path :: rest) output) ∨
      ∃ message causes, Fails source manual ("check" :: path :: rest) message causes := by
  cases parsed : parse text with
  | error e =>
    obtain ⟨line,clause,token,cause,rfl⟩ := parse_error_malformed parsed
    cases cause with
    | outOfRange value => exact .inr ⟨_,_,.outOfRange rest found parsed⟩
    | notANumeral cause => exact .inr ⟨_,_,.notANumeral rest found parsed cause.says_message⟩
  | ok p =>
    cases p with
    | rejected f d =>
      obtain ⟨m,answered,_⟩ := Formula.solve_empty .none
      exact .inl ⟨_,.sat rest found ((solveText_rejected parsed).trans answered)⟩
    | accepted f =>
      by_cases wide : 63 < f.occurring.dedup.length
      · exact .inr ⟨_,_,.tooWide rest found parsed wide⟩
      · have narrow := Nat.not_lt.mp wide
        by_cases satisfiable : ∃ v, f.Holds v
        · rw [← Formula.numVariables_distinct] at narrow
          obtain ⟨m,answered⟩ := (Formula.solve_finds_exact narrow).mpr satisfiable
          exact .inl ⟨_,.sat rest found ((solveText_accepted parsed).trans answered)⟩
        · exact .inl ⟨_,.unsat rest found parsed narrow satisfiable⟩

theorem run_settled (source : Source) (arguments : List String) :
    (∃ output, Answers source manual arguments output) ∨
      ∃ message causes, Fails source manual arguments message causes := by
  cases arguments with
  | nil => exact .inl ⟨_,.usage⟩
  | cons name rest =>
    by_cases check : name = "check"
    · subst check
      cases rest with
      | nil => exact .inr ⟨_,_,.missing⟩
      | cons path rest =>
        cases found : source path with
        | error cause => exact .inr ⟨_,_,.unreadable rest found cause.says_message⟩
        | ok text => exact check_settled manual rest found
    · exact .inr ⟨_,_,.unknown rest check⟩

end Settled

theorem run_status (source : Source) (arguments : List String) (program : Option String) :
    (run source .none arguments program).status = 0 ↔ arguments = [] ∨ ∃ path rest text v,
      arguments = "check" :: path :: rest ∧ source path = .ok text ∧ verdict text = .ok v := by
  constructor
  · intro zero
    cases run_settled (usage program) source arguments with
    | inr failing =>
      obtain ⟨message,causes,fails⟩ := failing
      rw [run_fails fails] at zero
      cases zero
    | inl answering =>
      obtain ⟨output,answers⟩ := answering
      cases answers with
      | usage => exact .inl rfl
      | sat rest found answered => exact .inr ⟨_,rest,_,_,rfl,found,answered⟩
      | unsat rest found accepted narrow unsatisfied =>
        exact .inr ⟨_,rest,_,_,rfl,found,verdict_unsat accepted narrow unsatisfied⟩
  · intro given
    rcases given with rfl | ⟨path,rest,text,v,rfl,found,answered⟩
    · rfl
    · rw [run_answered rest found answered]
      rfl

theorem run_take (source : Source) (arguments : List String) (program : Option String) :
    run source .none arguments program = run source .none (arguments.take 2) program := by
  cases arguments with
  | nil => rfl
  | cons name rest =>
    cases rest with
    | nil => rfl
    | cons path rest =>
      by_cases check : name = "check"
      · subst check
        rfl
      · rw [run_unknown (path :: rest) check,List.take_succ_cons,run_unknown _ check]

theorem usage_line (program : Option String) : s!"{usage program}\n" ≠ "UNSAT\n" := by
  intro same
  have second := congrArg (fun text => text.toList[1]?) same
  simp [usage,toString] at second

theorem sat_line (m : Model) : s!"SAT {m.display}\n" ≠ "UNSAT\n" := by
  intro same
  have second := congrArg (fun text => text.toList[1]?) same
  simp [toString] at second

theorem run_unsat (source : Source) (arguments : List String) (program : Option String) :
    (run source .none arguments program).stdout = "UNSAT\n" ↔ ∃ path rest text f,
      arguments = "check" :: path :: rest ∧ source path = .ok text ∧ parse text = .ok (.accepted f) ∧
        f.occurring.dedup.length ≤ 63 ∧ ¬ ∃ v, f.Holds v := by
  constructor
  · intro output
    cases run_settled (usage program) source arguments with
    | inr failing =>
      obtain ⟨message,causes,fails⟩ := failing
      rw [run_fails fails] at output
      have silent : "" ≠ "UNSAT\n" := by decide
      exact absurd output silent
    | inl answering =>
      obtain ⟨answer,answers⟩ := answering
      rw [run_answers answers] at output
      cases answers with
      | usage => exact absurd output (usage_line program)
      | sat rest found answered => exact absurd output (sat_line _)
      | unsat rest found accepted narrow unsatisfied =>
        exact ⟨_,rest,_,_,rfl,found,accepted,narrow,unsatisfied⟩
  · intro given
    obtain ⟨path,rest,text,f,rfl,found,accepted,narrow,unsatisfied⟩ := given
    rw [run_answers (.unsat rest found accepted narrow unsatisfied)]

end Run

-- Nothing is logged here. A log would come before the report on the other stream.
theorem run_exact (source : Source) (arguments : List String) (program : Option String) :
    let outcome := run source .none arguments program
    let manual := "Usage: " ++ program.getD "brutesat" ++ " <command>\n\ncommand:\n" ++
      "    check <file_name> - decide satisfiability of the given DIMACS CNF file"
    (outcome.status = 0 ↔ arguments = [] ∨ ∃ path rest text v,
      arguments = "check" :: path :: rest ∧ source path = .ok text ∧ verdict text = .ok v) ∧
    outcome = run source .none (arguments.take 2) program ∧
    ((∃ output, Answers source manual arguments output) ∨
      ∃ message causes, Fails source manual arguments message causes) ∧
    (∀ output, Answers source manual arguments output → outcome = ⟨0,output,""⟩) ∧
    (∀ message causes, Fails source manual arguments message causes →
      outcome = ⟨1,"",s!"Error: {Explanation.printed message causes}\n"⟩) ∧
    (outcome.stdout = "UNSAT\n" ↔ ∃ path rest text f,
      arguments = "check" :: path :: rest ∧ source path = .ok text ∧ parse text = .ok (.accepted f) ∧
        f.occurring.dedup.length ≤ 63 ∧ ¬ ∃ v, f.Holds v) := by
  intro outcome manual
  have shown : manual = usage program := rfl
  rw [shown]
  exact ⟨run_status source arguments program,run_take source arguments program,
    run_settled (usage program) source arguments,fun _ => run_answers,fun _ _ => run_fails,
    run_unsat source arguments program⟩

-- Four causes, each from its own layer.
example : run (fun _ => .ok "1 x 0") .none ["check","f.cnf","more"] =
    ⟨1,"","Error: Failed to solve CNF\n\nCaused by:\n  0: Failed to parse CNF\n" ++
      "  1: Invalid literal 'x' found in clause starting at line 1: '1 x 0'\n" ++
      "  2: Failed to parse Variable ID\n  3: invalid digit found in string\n\n"⟩ := by decide +kernel

end Command
end CnfSearch
