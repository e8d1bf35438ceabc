import SortableId.Program.Suites
import SortableId.Proofs.Directions
import SortableId.Proofs.Documents

/-!
# Files of conformance cases

A run of the conformance program may replace the file that it has read, and nothing else.  What it
writes is read back as the same cases, so a regenerated file is settled: another regeneration finds
nothing to do, and a check finds every case encoded as it stands in the file.
-/

namespace SortableId

namespace Conformance

open Json (Reader Shape)

/-! ## The written form -/

theorem Case.reads_toJson (item : Case) : Case.shape.read.Reads item.toJson item := by
  have takes := (.cons (Shape.takes_of "desc" (Reader.reads_text item.description) rfl) <|
    .cons (Shape.takes_of "prefix" (Reader.reads_text item.kind) rfl) <|
    .cons (Shape.takes_of "time_ms" (Reader.reads_word (by decide) item.unixMs) rfl) <|
    .cons (Shape.takes_of "flags" (Reader.reads_word (by decide) item.flags) rfl) <|
    .cons (Shape.takes_of "tenant" (Reader.reads_word (by decide) item.tenant) rfl) <|
    .cons (Shape.takes_of "seq" (Reader.reads_word (by decide) item.seq) rfl) <|
    .cons (Shape.takes_of "shard" (Reader.reads_word (by decide) item.shard) rfl) <|
    .cons (Shape.takes_of "random_hex" (Reader.reads_text item.randomHex) rfl) <|
    .cons (Shape.takes_of "id" (Reader.reads_text item.id) rfl) <|
    .cons (Shape.takes_of "expect_error" (Reader.reads_boolean item.expectError) rfl) .nil :
    List.Forall₂ Case.shape.Takes _ _)
  have optional : ∀ field ∈ Case.shape.fields, field.required = false := by decide
  refine Shape.reads_record takes (by simp) ?_
  intro field member required
  rw [optional field member] at required
  contradiction

theorem Suite.reads_toJson (suite : Suite) : Suite.shape.read.Reads suite.toJson suite := by
  have cases : List.Forall₂ Case.shape.read.Reads (suite.cases.map Case.toJson) suite.cases := by
    rw [List.forall₂_map_left_iff, List.forall₂_same]
    exact fun item _ => item.reads_toJson
  have takes : Suite.shape.Takes ("vectors", .list (suite.cases.map Case.toJson))
      fun suite' => { suite' with cases := suite.cases } :=
    ⟨_, rfl, (Reader.Reads.list cases).map _⟩
  refine Shape.reads_record (.cons takes .nil) (by simp) ?_
  intro field member _
  rw [List.mem_singleton.mp member]
  exact List.mem_singleton_self _

/-- What is written for a suite is read back as the suite. -/
theorem Suite.ofJson_fileText (suite : Suite) :
    Suite.ofJson (Program.Suites.fileText suite) = .ok suite := by
  have ending : Json.Blanks ['\n'] := Json.blanks_lineBreak .indented 0
  exact suite.reads_toJson.run .indented ending

/-! ## Replaced texts -/

theorem Case.Refreshed.eq_of_id_eq {before after : Case} (refreshed : Refreshed before after)
    (same : before.id = after.id) : after = before := by
  rw [← refreshed.kept, same, withId_id]

/-- Regeneration without a replacement finds every case up to date. -/
theorem Through.upToDate_of_nil {before after : List Case} (through : Through before after []) :
    ∀ item ∈ before, item.UpToDate := by
  have unchanged : after = before := by
    rcases through with ⟨refreshed, updates⟩
    induction refreshed with
    | nil => rfl
    | @cons old new _ _ first others ih =>
        by_cases same : old.id = new.id
        · simp only [changes, List.zip_cons_cons, List.filterMap_cons, same, if_true] at updates
          rw [first.eq_of_id_eq same, ih updates]
        · simp [changes, same] at updates
  rw [← unchanged]
  exact through.upToDate

/-! ## Checked cases -/

/-- What has to hold of a case, beside that it is up to date, for it to pass its checks: the text is
refused if an error is expected, and otherwise an identifier can carry the time. -/
structure Case.Sound (item : Case) : Prop where
  refused : item.expectError = true → ∃ error, Identifier.parse item.id = .error error
  timely : item.expectError = false → Time.InRange item.unixMs

/-- The encoding of a case that is up to date does not fail, and its text is read back if the case
is sound. -/
theorem Case.check_of_upToDate {item : Case} (upToDate : item.UpToDate) :
    item.check.encode.any (!·.isOk) = false ∧ (item.check.parse.isOk = true ↔ item.Sound) := by
  unfold check
  cases expectError : item.expectError with
  | true =>
      cases read : Identifier.parse item.id with
      | ok id =>
          refine ⟨rfl, iff_of_false (by simp [Outcome.isOk]) ?_⟩
          intro sound
          rcases sound.refused expectError with ⟨error, refused⟩
          rw [read] at refused
          contradiction
      | error error =>
          refine ⟨rfl, iff_of_true rfl ⟨fun _ => ⟨error, read⟩, ?_⟩⟩
          intro noError
          rw [expectError] at noError
          contradiction
  | false =>
      have encoded := upToDate expectError
      have passes := checkEncode_eq_pass_iff.mpr encoded
      have sound : item.Sound ↔ Time.InRange item.unixMs := by
        refine ⟨fun sound => sound.timely expectError, fun timely => ⟨?_, fun _ => timely⟩⟩
        simp [expectError]
      simp only [Bool.false_eq_true, if_false, passes, checkParse_of_encode encoded, sound]
      refine ⟨rfl, ?_⟩
      split
      next timely => exact iff_of_true rfl timely
      next late => exact iff_of_false (by simp [Outcome.isOk]) late

namespace Summary

/-- A number that goes up by one with every counted report is the number of those reports. -/
theorem foldl_record (number : Summary → Nat) {counted : Report → Bool}
    (step : ∀ summary report,
      number (summary.record report) = number summary + if counted report then 1 else 0)
    (reports : List Report) (start : Summary) :
    number (reports.foldl record start) = number start + reports.countP counted := by
  induction reports generalizing start with
  | nil => rfl
  | cons report reports ih =>
      rw [List.foldl_cons, ih, step, List.countP_cons]
      omega

theorem encodeFailed_ofReports (reports : List Report) :
    (ofReports reports).encodeFailed = reports.countP (·.encode.any (!·.isOk)) := by
  rw [ofReports, foldl_record encodeFailed (fun _ _ => rfl), Nat.zero_add]

theorem parseFailed_ofReports (reports : List Report) :
    (ofReports reports).parseFailed = reports.countP (!·.parse.isOk) := by
  have step (summary : Summary) (report : Report) : (summary.record report).parseFailed =
      summary.parseFailed + if !report.parse.isOk then 1 else 0 := by
    cases ok : report.parse.isOk <;> simp [record, ok]
  rw [ofReports, foldl_record parseFailed step, Nat.zero_add]

end Summary

theorem Summary.encodeFailed_of_upToDate {cases : List Case}
    (upToDate : ∀ item ∈ cases, item.UpToDate) :
    (ofReports (cases.map Case.check)).encodeFailed = 0 := by
  rw [encodeFailed_ofReports, List.countP_map, List.countP_eq_zero]
  intro item member
  rw [Function.comp_apply, (Case.check_of_upToDate (upToDate item member)).1]
  exact Bool.false_ne_true

theorem Summary.isSuccess_iff_of_upToDate {cases : List Case}
    (upToDate : ∀ item ∈ cases, item.UpToDate) :
    (ofReports (cases.map Case.check)).isSuccess = true ↔ ∀ item ∈ cases, item.Sound := by
  rw [isSuccess, encodeFailed_of_upToDate upToDate, Nat.zero_add, beq_iff_eq,
    parseFailed_ofReports, List.countP_map, List.countP_eq_zero]
  refine forall₂_congr fun item member => ?_
  rw [← (Case.check_of_upToDate (upToDate item member)).2]
  simp

end Conformance

namespace Program.Suites

open Conformance

/-! ## Runs on files -/

/-- What files hold: a text, or the reason why there is none. -/
abbrev Files := String → Except String String

/-- The files after a text, if there is one, was written. -/
def Files.write (files : Files) (path : String) (written : Option String) : Files :=
  written.elim files fun text => Function.update files path (.ok text)

/-- A run of the program, and the files after it.  A file that is to be written can be written. -/
def execute (words : List String) (files : Files) : Output × Files :=
  match Request.ofWords words with
  | .error _ => ((run words files).1, files)
  | .ok request => ((run words files).1, files.write request.path (run words files).2)

/-- A file holds a suite that is not empty. -/
def Files.Holds (files : Files) (path : String) (suite : Suite) : Prop :=
  ∃ text, files path = .ok text ∧ Suite.ofJson text = .ok suite ∧ suite.cases ≠ []

/-- Why no cases can be regenerated from a file. -/
inductive Unfit : Except String String → Prop where
  | unreadable (reason : String) : Unfit (.error reason)
  | noSuite {text : String} {error : Json.Error} :
      Suite.ofJson text = .error error → Unfit (.ok text)
  | noCases {text : String} {suite : Suite} :
      Suite.ofJson text = .ok suite → suite.cases = [] → Unfit (.ok text)
  | notEncoded {text : String} {suite : Suite} {item : Case} {error : IdError} :
      Suite.ofJson text = .ok suite → item ∈ suite.cases → item.expectError = false →
      item.encode = .error error → Unfit (.ok text)

/-- A run that failed for want of cases that can be regenerated. -/
structure Refuses (path : String) (files : Files) (result : Output × Files) : Prop where
  code : result.1.code = 1
  unchanged : result.2 = files
  cause : Unfit (files path)

/-- A run that found every case up to date. -/
structure Rests (path : String) (files : Files) (result : Output × Files) : Prop where
  code : result.1.code = 0
  stdout : result.1.stdout = "No changes.\n"
  unchanged : result.2 = files
  upToDate : ∃ suite, files.Holds path suite ∧ ∀ item ∈ suite.cases, item.UpToDate

/-- A run that checked all cases, found every one encoded as it stands in the file, and succeeded if
they are sound. -/
structure Checks (cases : List Case) (files : Files) (result : Output × Files) : Prop where
  code : result.1.code = 0 ↔ ∀ item ∈ cases, item.Sound
  summary : ∃ lines summary, result.1.stdout = unlines (lines ++ summaryLines summary) ∧
    summary = Summary.ofReports (cases.map Case.check) ∧ summary.encodeFailed = 0
  unchanged : result.2 = files

/-- A run that wrote the cases of a suite as they are regenerated, which settles the file. -/
structure Rewrites (path : String) (files : Files) (before : Suite) (result : Output × Files) :
    Prop where
  code : result.1.code = 0
  holds : files.Holds path before
  stale : ∃ item ∈ before.cases, ¬item.UpToDate
  regenerated : ∃ updates, before.regenerate.2 = .ok updates
  written : ∃ text, result.2 = files.write path (some text) ∧
    Suite.ofJson text = .ok before.regenerate.1
  /-- Another regeneration of the file rests. -/
  settled : ∀ words request, Request.ofWords words = .ok request → request.path = path →
    request.regenerate = true → Rests path result.2 (execute words result.2)
  /-- A check of the file finds nothing wrong with the encodings. -/
  checked : ∀ words request, Request.ofWords words = .ok request → request.path = path →
    request.regenerate = false → request.failFast = false →
    Checks before.regenerate.1.cases result.2 (execute words result.2)

variable {words : List String} {request : Request} {files : Files} {suite : Suite}

theorem execute_eq_of_serve (stated : Request.ofWords words = .ok request) {output : Output}
    {written : Option String} (served : serve request (files request.path) = (output, written)) :
    execute words files = (output, files.write request.path written) := by
  have ran : run words files = (output, written) := by
    rw [run, stated]
    exact served
  rw [execute, stated]
  simp only [ran]

theorem readSuite_eq_ok_iff {path : String} :
    readSuite path (files path) = .ok suite ↔ files.Holds path suite := by
  unfold Files.Holds
  cases files path with
  | error reason => simp [readSuite]
  | ok text =>
      cases decoded : Suite.ofJson text with
      | error error => simp [readSuite, decoded]
      | ok found =>
          simp only [readSuite, Except.ok.injEq, exists_eq_left', decoded, List.isEmpty_iff]
          constructor
          · intro read
            split at read
            next => contradiction
            next notEmpty =>
              cases Except.ok.inj read
              exact ⟨rfl, notEmpty⟩
          · rintro ⟨rfl, notEmpty⟩
            rw [if_neg notEmpty]

/-- Reading fails if the file is unfit. -/
theorem unfit_of_readSuite {path : String} {output : Output}
    (failed : readSuite path (files path) = .error output) :
    output.code = 1 ∧ Unfit (files path) := by
  cases held : files path with
  | error reason =>
      simp only [readSuite, held, Except.error.injEq] at failed
      rw [← failed]
      exact ⟨rfl, .unreadable reason⟩
  | ok text =>
      cases decoded : Suite.ofJson text with
      | error error =>
          simp only [readSuite, held, decoded, Except.error.injEq] at failed
          rw [← failed]
          exact ⟨rfl, .noSuite decoded⟩
      | ok suite =>
          simp only [readSuite, held, decoded] at failed
          split at failed
          next empty =>
            rw [← Except.error.inj failed]
            exact ⟨rfl, .noCases decoded (List.isEmpty_iff.mp empty)⟩
          next => contradiction

/-- What is written for a suite is held by the file. -/
theorem Files.holds_write (files : Files) (path : String) (notEmpty : suite.cases ≠ []) :
    (files.write path (some (fileText suite))).Holds path suite :=
  ⟨fileText suite, Function.update_self path _ files, suite.ofJson_fileText, notEmpty⟩

theorem rests_of_upToDate (stated : Request.ofWords words = .ok request)
    (regenerate : request.regenerate = true) (holds : files.Holds request.path suite)
    (upToDate : ∀ item ∈ suite.cases, item.UpToDate) :
    Rests request.path files (execute words files) := by
  have served : serve request (files request.path) = (.line "No changes.", none) := by
    simp only [serve, readSuite_eq_ok_iff.mpr holds, regenerate, if_true, runRegenerate,
      Suite.regenerate, regenerateCases_of_upToDate upToDate]
  rw [execute_eq_of_serve stated served]
  exact ⟨rfl, rfl, rfl, suite, holds, upToDate⟩

theorem reports_false (cases : List Case) : reports false cases = cases.map Case.check := by
  induction cases with
  | nil => rfl
  | cons item later ih => simp [reports, ih]

theorem checks_of_upToDate (stated : Request.ofWords words = .ok request)
    (checking : request.regenerate = false) (all : request.failFast = false)
    (holds : files.Holds request.path suite) (upToDate : ∀ item ∈ suite.cases, item.UpToDate) :
    Checks suite.cases files (execute words files) := by
  have served : serve request (files request.path) = (runCheck request suite, none) := by
    simp only [serve, readSuite_eq_ok_iff.mpr holds, checking, Bool.false_eq_true, if_false]
  rw [execute_eq_of_serve stated served]
  refine ⟨?_, ⟨_, _, rfl, ?_, ?_⟩, rfl⟩
  · rw [← Summary.isSuccess_iff_of_upToDate upToDate]
    simp only [runCheck, all, reports_false]
    split
    next success => simp [success]
    next failure => simp [failure]
  · rw [all, reports_false]
  · rw [all, reports_false, Summary.encodeFailed_of_upToDate upToDate]

theorem refuses_of_stopsAt (stated : Request.ofWords words = .ok request)
    (regenerate : request.regenerate = true) (holds : files.Holds request.path suite)
    {after : List Case} {item : Case} {error : IdError}
    (done : regenerateCases suite.cases = (after, .error error))
    (stops : StopsAt suite.cases after item error) :
    Refuses request.path files (execute words files) := by
  have served : ∃ output : Output, output.code = 1 ∧
      serve request (files request.path) = (output, none) := by
    simp only [serve, readSuite_eq_ok_iff.mpr holds, regenerate, if_true, runRegenerate,
      Suite.regenerate, done]
    exact ⟨_, rfl, rfl⟩
  have member : item ∈ suite.cases := by
    rcases stops.split with ⟨front, _, _, later, split, _⟩
    rw [split]
    exact List.mem_append_right front List.mem_cons_self
  rcases served with ⟨output, failure, served⟩
  rcases holds with ⟨text, read, decoded, _⟩
  rw [execute_eq_of_serve stated served]
  refine ⟨failure, rfl, ?_⟩
  rw [read]
  exact .notEncoded decoded member stops.expectsNone stops.notEncoded

theorem rewrites_of_through (stated : Request.ofWords words = .ok request)
    (regenerate : request.regenerate = true) (holds : files.Holds request.path suite)
    {after : List Case} {updates : List Update}
    (done : regenerateCases suite.cases = (after, .ok updates)) (changed : updates ≠ [])
    (through : Through suite.cases after updates) :
    Rewrites request.path files suite (execute words files) := by
  have regenerated : suite.regenerate = (⟨after⟩, .ok updates) := by rw [Suite.regenerate, done]
  have served : ∃ output : Output, output.code = 0 ∧
      serve request (files request.path) = (output, some (fileText ⟨after⟩)) := by
    rcases List.exists_cons_of_ne_nil changed with ⟨update, updates, rfl⟩
    simp only [serve, readSuite_eq_ok_iff.mpr holds, regenerate, if_true, runRegenerate, regenerated]
    exact ⟨_, rfl, rfl⟩
  have notEmpty : after ≠ [] := by
    rintro rfl
    rcases holds with ⟨_, _, _, notEmpty⟩
    exact notEmpty (List.forall₂_nil_right_iff.mp through.refreshed)
  have now : (files.write request.path (some (fileText ⟨after⟩))).Holds request.path ⟨after⟩ :=
    files.holds_write request.path notEmpty
  rcases served with ⟨output, success, served⟩
  rw [execute_eq_of_serve stated served]
  refine ⟨success, holds, ?_, ?_, ?_, ?_, ?_⟩
  · by_contra none
    push Not at none
    rw [regenerateCases_of_upToDate none, Prod.mk.injEq, Except.ok.injEq] at done
    exact changed done.2.symm
  · exact ⟨updates, by rw [regenerated]⟩
  · rw [regenerated]
    exact ⟨_, rfl, Suite.ofJson_fileText ⟨after⟩⟩
  · intro words request stated same regenerate
    rw [← same] at now ⊢
    exact rests_of_upToDate stated regenerate now through.upToDate
  · intro words request stated same checking all
    rw [regenerated]
    rw [← same] at now ⊢
    exact checks_of_upToDate stated checking all now through.upToDate

/-- A regeneration refuses the file, finds nothing to do, or rewrites the file for good. -/
theorem execute_regenerate (words : List String) (request : Request) (files : Files)
    (stated : Request.ofWords words = .ok request) (regenerate : request.regenerate = true) :
    Refuses request.path files (execute words files) ∨
      Rests request.path files (execute words files) ∨
      ∃ before, Rewrites request.path files before (execute words files) := by
  cases read : readSuite request.path (files request.path) with
  | error output =>
      have served : serve request (files request.path) = (output, none) := by rw [serve, read]
      rcases unfit_of_readSuite read with ⟨code, unfit⟩
      rw [execute_eq_of_serve stated served]
      exact .inl ⟨code, rfl, unfit⟩
  | ok before =>
      have holds := readSuite_eq_ok_iff.mp read
      rcases regenerateCases_cases before.cases with
        ⟨after, updates, done, through⟩ | ⟨after, item, error, done, stops⟩
      · by_cases changed : updates = []
        · subst changed
          exact .inr (.inl (rests_of_upToDate stated regenerate holds through.upToDate_of_nil))
        · exact .inr (.inr
            ⟨before, rewrites_of_through stated regenerate holds done changed through⟩)
      · exact .inl (refuses_of_stopsAt stated regenerate holds done stops)

/-- Every file holds a case whose text is no identifier. -/
def staleFiles : Files := fun _ =>
  .ok "\x7b\"vectors\": [\x7b\"prefix\": \"order\", \"time_ms\": 1700000000000, \"id\": \"-\"\x7d]\x7d"

theorem execute_regenerate_staleFiles :
    Request.ofWords ["--regenerate"] = .ok { regenerate := true } ∧
      ∃ before, Rewrites "spec/test-vectors.json" staleFiles before
        (execute ["--regenerate"] staleFiles) := by
  have stated : Request.ofWords ["--regenerate"] = .ok { regenerate := true } := rfl
  have code : (execute ["--regenerate"] staleFiles).1.code = 0 := by decide +kernel
  have stdout : (execute ["--regenerate"] staleFiles).1.stdout ≠ "No changes.\n" := by
    decide +kernel
  refine ⟨stated, ?_⟩
  rcases execute_regenerate ["--regenerate"] _ staleFiles stated rfl with
    refuses | rests | rewrites
  · rw [refuses.code] at code
    contradiction
  · exact absurd rests.stdout stdout
  · exact rewrites

end Program.Suites

end SortableId
