import SortableId.Proofs.Files

/-!
# Verdicts of the conformance program

A check of a file fails exactly if one of its cases does, however the program is told to print and
to stop.  Told to stop, it looks at the cases up to the first one that fails, and at all of them
otherwise.  The summary counts the cases that were looked at, and the failure lines are theirs.
-/

namespace SortableId

namespace Conformance

/-! ## Totals -/

namespace Summary

theorem encoded_ofReports (reports : List Report) :
    (ofReports reports).encodeOk + (ofReports reports).encodeFailed =
      reports.countP (·.encode.isSome) := by
  have step (summary : Summary) (report : Report) :
      (summary.record report).encodeOk + (summary.record report).encodeFailed =
        summary.encodeOk + summary.encodeFailed + if report.encode.isSome then 1 else 0 := by
    cases outcome : report.encode with
    | none => simp [record, outcome]
    | some outcome' =>
        cases ok : outcome'.isOk with
        | true => simp [record, outcome, ok, Nat.add_right_comm]
        | false => simp [record, outcome, ok, Nat.add_assoc]
  have total := foldl_record (fun summary => summary.encodeOk + summary.encodeFailed) step reports {}
  rwa [Nat.zero_add, Nat.zero_add] at total

theorem parsed_ofReports (reports : List Report) :
    (ofReports reports).parseOk + (ofReports reports).parseFailed = reports.length := by
  have step (summary : Summary) (report : Report) :
      (summary.record report).parseOk + (summary.record report).parseFailed =
        summary.parseOk + summary.parseFailed + if true then 1 else 0 := by
    cases ok : report.parse.isOk with
    | true => simp [record, ok, Nat.add_right_comm]
    | false => simp [record, ok, Nat.add_assoc]
  have total := foldl_record (fun summary => summary.parseOk + summary.parseFailed) step reports {}
  rwa [Nat.zero_add, Nat.zero_add, List.countP_true] at total

/-- A failure of either direction is counted. -/
theorem isSuccess_ofReports_iff {reports : List Report} :
    (ofReports reports).isSuccess = true ↔ ∀ report ∈ reports, report.isOk = true := by
  rw [isSuccess, beq_iff_eq, Nat.add_eq_zero_iff, encodeFailed_ofReports, parseFailed_ofReports,
    List.countP_eq_zero, List.countP_eq_zero, ← forall₂_and]
  refine forall₂_congr fun report _ => ?_
  cases encode : report.encode with
  | none => simp [Report.isOk, encode]
  | some outcome => simp [Report.isOk, encode, and_comm]

/-- The numbers of both directions: every case was read, and encoded unless an error is expected, and
every check that failed is counted as such. -/
structure Counts (summary : Summary) (cases : List Case) : Prop where
  encode : summary.encodeOk + summary.encodeFailed = cases.countP (!·.expectError)
  parse : summary.parseOk + summary.parseFailed = cases.length
  encodeFailed : summary.encodeFailed = cases.countP fun item => item.check.encode.any (!·.isOk)
  parseFailed : summary.parseFailed = cases.countP fun item => !item.check.parse.isOk

theorem counts_ofReports (cases : List Case) : Counts (ofReports (cases.map Case.check)) cases := by
  constructor
  case encode =>
    have encoded (item : Case) : item.check.encode.isSome = !item.expectError := by
      unfold Case.check
      cases expectError : item.expectError with
      | true => cases Identifier.parse item.id <;> rfl
      | false => rfl
    rw [encoded_ofReports, List.countP_map]
    exact List.countP_congr fun item _ => by simp [encoded]
  case parse => rw [parsed_ofReports, List.length_map]
  case encodeFailed =>
    rw [encodeFailed_ofReports, List.countP_map]
    rfl
  case parseFailed =>
    rw [parseFailed_ofReports, List.countP_map]
    rfl

end Summary

end Conformance

namespace Program.Suites

open Conformance

/-! ## Lines about cases -/

/-- How a line names a case: by its place, in two digits or more, and by its description. -/
def heading (index : Nat) (item : Case) : String :=
  "[" ++ (if index < 10 then "0" else "") ++ toString index ++ "] " ++ item.description

theorem label_eq_heading (index : Nat) (item : Case) : label index item = heading index item := by
  have place : String.ofList ((Nat.toDigits 10 index).leftpad 2 '0') =
      (if index < 10 then "0" else "") ++ toString index := by
    apply String.toList_injective
    rw [String.toList_append, Nat.toString_eq_ofList_toDigits, String.toList_ofList,
      String.toList_ofList]
    split
    next single =>
      rw [Nat.toDigits_of_lt_base single]
      rfl
    next double =>
      have long : 2 ≤ (Nat.toDigits 10 index).length := by
        by_contra short
        have fits := (Nat.length_toDigits_le_iff (by decide) (by decide)).mp
          (Nat.le_of_lt_succ (Nat.lt_of_not_le short))
        omega
      rw [List.leftpad, Nat.sub_eq_zero_of_le long]
      rfl
  rw [label, heading, place, ← String.append_assoc]

/-- The line about an outcome if it is a failure. -/
def failureLine (index : Nat) (item : Case) : Outcome → List String
  | .fail failure => ["✗ " ++ heading index item ++ " " ++ failure.message]
  | _ => []

/-- The line about an outcome if it is a success. -/
def successLine (index : Nat) (item : Case) (direction : String) : Outcome → List String
  | .fail _ => []
  | .pass => ["✓ " ++ heading index item ++ " " ++ direction ++ " ok"]
  | .expectedFailure error =>
      ["✓ " ++ heading index item ++ " " ++ direction ++ " correctly failed: " ++ error.message]

/-- The lines about what failed in a case, the encoding first. -/
def caseFailureLines (index : Nat) (item : Case) : List String :=
  item.check.encode.elim [] (failureLine index item) ++ failureLine index item item.check.parse

/-- The lines about what passed in a case. -/
def caseSuccessLines (index : Nat) (item : Case) : List String :=
  item.check.encode.elim [] (successLine index item "encode") ++
    successLine index item "parse" item.check.parse

/-- The lines about what passed in all cases. -/
def successLines (cases : List Case) : List String :=
  cases.zipIdx.flatMap fun (item, index) => caseSuccessLines index item

/-- The lines about what failed in all cases. -/
def failureLines (cases : List Case) : List String :=
  cases.zipIdx.flatMap fun (item, index) => caseFailureLines index item

variable {cases looked : List Case} {lines : List String} {failFast : Bool}

theorem caseFailureLines_of_isOk {item : Case} (passes : item.check.isOk = true) (index : Nat) :
    caseFailureLines index item = [] := by
  have silent {outcome : Outcome} (ok : outcome.isOk = true) : failureLine index item outcome = [] := by
    cases outcome with
    | fail => contradiction
    | pass => rfl
    | expectedFailure => rfl
  rw [Report.isOk, Bool.and_eq_true] at passes
  rw [caseFailureLines, silent passes.1, List.append_nil]
  cases encode : item.check.encode with
  | none => rfl
  | some outcome =>
      apply silent
      simpa [encode] using passes.2

theorem failureLines_eq_nil (passing : ∀ item ∈ cases, item.check.isOk = true) :
    failureLines cases = [] := by
  rw [failureLines, List.flatMap_eq_nil_iff]
  intro entry member
  exact caseFailureLines_of_isOk (passing _ (List.fst_mem_of_mem_zipIdx member)) _

theorem failureLines_concat (front : List Case) (item : Case) :
    failureLines (front ++ [item]) = failureLines front ++ caseFailureLines front.length item := by
  simp [failureLines, List.zipIdx_append]

/-- The lines about the first cases come first. -/
theorem failureLines_isPrefix (front : looked <+: cases) :
    failureLines looked <+: failureLines cases := by
  obtain ⟨later, rfl⟩ := front
  rw [failureLines, failureLines, List.zipIdx_append, List.flatMap_append]
  exact List.prefix_append _ _

/-! ## Cases that are looked at -/

/-- The cases that a check looks at, and the failure lines that it prints. -/
inductive Looks : Bool → List Case → List Case → List String → Prop where
  | all (cases : List Case) : Looks false cases cases (failureLines cases)
  | passing {cases : List Case} : (∀ item ∈ cases, item.check.isOk = true) →
      Looks true cases cases []
  /-- The first case that fails is the last one that is looked at. -/
  | stopped {front later : List Case} {item : Case} :
      (∀ earlier ∈ front, earlier.check.isOk = true) → item.check.isOk = false →
      Looks true (front ++ item :: later) (front ++ [item]) (caseFailureLines front.length item)

/-- Cases that pass do not stop a check. -/
theorem reports_append (failFast : Bool) {front : List Case} (later : List Case)
    (passing : ∀ item ∈ front, item.check.isOk = true) :
    reports failFast (front ++ later) = front.map Case.check ++ reports failFast later := by
  induction front with
  | nil => rfl
  | cons item front ih =>
      have passes := passing item List.mem_cons_self
      rw [List.cons_append, reports, if_neg (by simp [passes]),
        ih fun other member => passing other (List.mem_cons_of_mem item member)]
      rfl

theorem exists_looks (failFast : Bool) (cases : List Case) :
    ∃ looked lines, Looks failFast cases looked lines := by
  cases failFast with
  | false => exact ⟨_, _, .all cases⟩
  | true =>
      cases found : cases.find? fun item => !item.check.isOk with
      | none =>
          refine ⟨_, _, .passing fun item member => ?_⟩
          simpa using List.find?_eq_none.mp found item member
      | some item =>
          obtain ⟨fails, front, later, rfl, passing⟩ := List.find?_eq_some_iff_append.mp found
          exact ⟨_, _, .stopped (by simpa using passing) (by simpa using fails)⟩

namespace Looks

theorem reports_eq (looks : Looks failFast cases looked lines) :
    reports failFast cases = looked.map Case.check := by
  cases looks with
  | all => exact reports_false cases
  | passing passing =>
      have whole := reports_append true [] passing
      rwa [List.append_nil, reports, List.append_nil] at whole
  | @stopped front later item passing fails =>
      rw [reports_append true _ passing, reports, if_pos (by simp [fails]), List.map_append]
      rfl

theorem isPrefix (looks : Looks failFast cases looked lines) : looked <+: cases := by
  cases looks with
  | all => exact List.prefix_rfl
  | passing => exact List.prefix_rfl
  | @stopped front later item => exact ⟨later, List.append_cons front item later |>.symm⟩

/-- Nothing fails before the case that the check stops at, so its lines are all there are. -/
theorem lines_eq (looks : Looks failFast cases looked lines) : lines = failureLines looked := by
  cases looks with
  | all => rfl
  | passing passing => exact (failureLines_eq_nil passing).symm
  | stopped passing => rw [failureLines_concat, failureLines_eq_nil passing, List.nil_append]

/-- What is not looked at does not change the verdict. -/
theorem passing_iff (looks : Looks failFast cases looked lines) :
    (∀ item ∈ looked, item.check.isOk = true) ↔ ∀ item ∈ cases, item.check.isOk = true := by
  cases looks with
  | all => rfl
  | passing => rfl
  | @stopped front later item passing fails =>
      have not_passing {items : List Case} (member : item ∈ items) :
          ¬∀ item ∈ items, item.check.isOk = true := by
        intro all
        have passes := all item member
        rw [fails] at passes
        contradiction
      exact iff_of_false (not_passing (by simp)) (not_passing (by simp))

end Looks

/-! ## Printed lines -/

/-- The text consists of the lines, each with a line break behind it. -/
def Prints (text : String) (lines : List String) : Prop :=
  text.toList = lines.flatMap fun line => line.toList ++ ['\n']

theorem prints_unlines (lines : List String) : Prints (unlines lines) lines := by
  rw [Prints, unlines, String.toList_join, List.flatMap_map]
  exact congrArg (List.flatMap · lines) (funext fun line => String.toList_append)

theorem stderr_outcomeLines (verbose : Bool) (index : Nat) (item : Case) (direction : String)
    (outcome : Outcome) : (outcomeLines verbose (label index item) direction outcome).stderr =
      failureLine index item outcome := by
  rw [label_eq_heading]
  cases outcome <;> rfl

theorem stdout_outcomeLines (verbose : Bool) (index : Nat) (item : Case) (direction : String)
    (outcome : Outcome) : (outcomeLines verbose (label index item) direction outcome).stdout =
      if verbose then successLine index item direction outcome else [] := by
  rw [label_eq_heading]
  cases outcome <;> cases verbose <;> rfl

theorem stderr_reportLines (verbose : Bool) (index : Nat) (item : Case) :
    (reportLines verbose (label index item) item.check).stderr = caseFailureLines index item := by
  have told := stderr_outcomeLines verbose index item
  unfold reportLines caseFailureLines
  cases item.check.encode with
  | none => exact congrArg ([] ++ ·) (told "parse" item.check.parse)
  | some outcome =>
      exact congrArg₂ (· ++ ·) (told "encode" outcome) (told "parse" item.check.parse)

theorem stdout_reportLines (verbose : Bool) (index : Nat) (item : Case) :
    (reportLines verbose (label index item) item.check).stdout =
      if verbose then caseSuccessLines index item else [] := by
  have told := stdout_outcomeLines verbose index item
  unfold reportLines caseSuccessLines
  cases item.check.encode with
  | none =>
      refine (congrArg ([] ++ ·) (told "parse" item.check.parse)).trans ?_
      cases verbose <;> rfl
  | some outcome =>
      refine (congrArg₂ (· ++ ·) (told "encode" outcome)
        (told "parse" item.check.parse)).trans ?_
      cases verbose <;> rfl

theorem zip_map_check (front : looked <+: cases) :
    cases.zip (looked.map Case.check) = looked.map fun item => (item, item.check) := by
  obtain ⟨later, rfl⟩ := front
  induction looked with
  | nil => simp
  | cons item looked ih => simpa using ih

/-- How a check of cases ends: with a verdict about all of them, and the totals and the failure lines
of those that were looked at. -/
structure Judges (request : Request) (cases looked : List Case) (lines : List String)
    (output : Output) : Prop where
  failed : output.code = 1 ↔ ∃ item ∈ cases, item.check.isOk = false
  passed : output.code = 0 ↔ ∀ item ∈ cases, item.check.isOk = true
  /-- Behind the lines about what passed, which are printed on request only, stand the totals. -/
  stdout : ∃ summary : Summary, summary.Counts looked ∧
    Prints output.stdout ((if request.verbose then successLines looked else []) ++
      [ "",
        "Encode: " ++ toString summary.encodeOk ++ " ok, " ++
          toString summary.encodeFailed ++ " fail",
        "Parse:  " ++ toString summary.parseOk ++ " ok, " ++
          toString summary.parseFailed ++ " fail" ])
  stderr : Prints output.stderr lines
  /-- The failure lines begin those of a check that looks at all cases. -/
  initial : lines <+: failureLines cases

/-- A check prints about the cases that it looks at, and sums up their reports. -/
theorem runCheck_eq {request : Request} {suite : Suite}
    (looks : Looks request.failFast suite.cases looked lines) :
    runCheck request suite =
      let summary := Summary.ofReports (looked.map Case.check)
      { code := if summary.isSuccess then 0 else 1
        stdout := unlines
          ((if request.verbose then successLines looked else []) ++ summaryLines summary)
        stderr := unlines lines } := by
  have failures : failureLines looked = looked.zipIdx.flatMap fun entry =>
      (reportLines request.verbose (label entry.2 entry.1) entry.1.check).stderr := by
    simp only [stderr_reportLines]
    rfl
  have successes : (if request.verbose then successLines looked else []) =
      looked.zipIdx.flatMap fun entry =>
        (reportLines request.verbose (label entry.2 entry.1) entry.1.check).stdout := by
    simp only [stdout_reportLines]
    cases request.verbose with
    | false => simp
    | true => rfl
  simp only [runCheck]
  rw [looks.reports_eq, zip_map_check looks.isPrefix, List.zipIdx_map, List.map_map,
    List.flatMap_map, List.flatMap_map, looks.lines_eq, failures, successes]
  rfl

theorem judges_runCheck {request : Request} {suite : Suite}
    (looks : Looks request.failFast suite.cases looked lines) :
    Judges request suite.cases looked lines (runCheck request suite) := by
  have success : (Summary.ofReports (looked.map Case.check)).isSuccess = true ↔
      ∀ item ∈ suite.cases, item.check.isOk = true := by
    rw [Summary.isSuccess_ofReports_iff, List.forall_mem_map]
    exact looks.passing_iff
  have some_fails : (∃ item ∈ suite.cases, item.check.isOk = false) ↔
      ¬∀ item ∈ suite.cases, item.check.isOk = true := by simp
  rw [runCheck_eq looks]
  refine ⟨?_, ?_, ⟨_, Summary.counts_ofReports looked, prints_unlines _⟩, prints_unlines _, ?_⟩
  · rw [some_fails, ← success]
    simp
  · rw [← success]
    simp
  · rw [looks.lines_eq]
    exact failureLines_isPrefix looks.isPrefix

theorem execute_eq_runCheck {words : List String} {request : Request} {files : Files}
    {suite : Suite} (stated : Request.ofWords words = .ok request)
    (checking : request.regenerate = false) (holds : files.Holds request.path suite) :
    execute words files = (runCheck request suite, files) := by
  have served : serve request (files request.path) = (runCheck request suite, none) := by
    simp only [serve, readSuite_eq_ok_iff.mpr holds, checking, Bool.false_eq_true, if_false]
  exact execute_eq_of_serve stated served

/-- The verdict of a check is about all cases of the file, whatever is asked of the output; the
totals and the failure lines are those of the cases that the check looks at. -/
theorem execute_check (words : List String) (request : Request) (files : Files) (suite : Suite)
    (stated : Request.ofWords words = .ok request) (checking : request.regenerate = false)
    (holds : files.Holds request.path suite) :
    (execute words files).2 = files ∧
      ∃ looked lines, Looks request.failFast suite.cases looked lines ∧
        Judges request suite.cases looked lines (execute words files).1 := by
  obtain ⟨looked, lines, looks⟩ := exists_looks request.failFast suite.cases
  rw [execute_eq_runCheck stated checking holds]
  exact ⟨rfl, looked, lines, looks, judges_runCheck looks⟩

/-- A case that is refused as expected, and two that fail in both directions. -/
def failingSuite : Suite where
  cases := [{ expectError := true }, { description := "no kind" }, {}]

theorem execute_check_failingSuite :
    let files : Files := fun _ => .ok (fileText failingSuite)
    Request.ofWords ["--fail-fast", "-v"] = .ok { verbose := true, failFast := true } ∧
      files.Holds "spec/test-vectors.json" failingSuite ∧
      (execute ["--fail-fast", "-v"] files).1 = {
        code := 1
        stdout := "✓ [00]  parse correctly failed: ID cannot be empty\n\n" ++
          "Encode: 0 ok, 1 fail\nParse:  1 ok, 1 fail\n"
        stderr := "✗ [01] no kind encode error: invalid ID prefix: ''\n" ++
          "✗ [01] no kind parse error: ID cannot be empty\n" } ∧
      ∃ looked lines, Looks true failingSuite.cases looked lines ∧
        Judges { verbose := true, failFast := true } failingSuite.cases looked lines
          (execute ["--fail-fast", "-v"] files).1 := by
  intro files
  have stated : Request.ofWords ["--fail-fast", "-v"] =
      .ok { verbose := true, failFast := true } := rfl
  have holds : files.Holds "spec/test-vectors.json" failingSuite :=
    ⟨fileText failingSuite, rfl, failingSuite.ofJson_fileText, by decide⟩
  obtain ⟨_, looked, lines, looks, judges⟩ :=
    execute_check ["--fail-fast", "-v"] _ files failingSuite stated rfl holds
  refine ⟨stated, holds, ?_, looked, lines, looks, judges⟩
  rw [execute_eq_runCheck stated rfl holds]
  decide +kernel

end Program.Suites

end SortableId
