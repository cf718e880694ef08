import Mathlib
import QueryAudit.Proofs.Command.Files

/-!
# Reports are all or nothing

A report goes through four stages: its template is read, its input is read, the log in it is
decoded, and the report is written.  Each stage may fail by itself, whatever the others do.

The first one that fails decides what is told on the error output, as far as that can be
written, and nothing else in the world changes, not even the file or the stream that the
report was meant for.  If none fails, one sink gets the report as it was rendered, not a
character more, and nothing else changes (`run_report`).  That is so because nothing is written
before all else has succeeded; a report may therefore replace the very file that it was made
from.
-/

namespace QueryAudit.Command

/-- What a report goes through. -/
inductive Stage where
  | template
  | reading
  | decoding
  | writing
  deriving DecidableEq, Repr

/-- The stages in order. -/
def Stage.all : List Stage := [.template, .reading, .decoding, .writing]

namespace World

/-! ## Stages -/

/-- The bytes of the input. -/
def inputOf (w : World) (input : String) : Except String ByteArray :=
  if isStandardInput input then w.grant .input w.input else w.read input

/-- The text of the input. -/
def textOf (w : World) (input : String) : Except String String :=
  match w.inputOf input with
  | .error reason => .error reason
  | .ok bytes =>
    match String.fromUTF8? bytes with
    | some contents => .ok contents
    | none => .error notText

/-- The reason why a sink takes no text, if it takes none. -/
def refusal? (w : World) : Sink → Option String
  | .output => w.refuses .output
  | .errors => w.refuses .errors
  | .file path =>
    match w.target? path with
    | .error reason => some reason
    | .ok _ => none

/-- How a stage fails, if it does.  There is nothing to decode where nothing was read. -/
def failure? (w : World) (request : ReportRequest) : Stage → Option Failure
  | .template =>
    match Template.parse request.template with
    | .error error => some (.template error)
    | .ok _ => none
  | .reading =>
    match w.textOf request.input with
    | .error reason => some (.unreadable request.input reason)
    | .ok _ => none
  | .decoding =>
    match w.textOf request.input with
    | .error _ => none
    | .ok contents =>
      match Log.read contents with
      | .error error => some (.log request.input error)
      | .ok _ => none
  | .writing => (w.refusal? request.sink).map (.unwritable request.sink)

/-- The first failure, in the order of the stages. -/
def firstFailure? (w : World) (request : ReportRequest) : Option Failure :=
  Stage.all.findSome? (w.failure? request)

/-- The text is the report on the run that the input holds, as the template presents it. -/
def Renders (w : World) (request : ReportRequest) (text : String) : Prop :=
  ∃ template contents run,
    Template.parse request.template = .ok template ∧
    w.textOf request.input = .ok contents ∧
    Log.read contents = .ok run ∧
    text = (Report.build request.hints run).render template

/-- A request has one report. -/
theorem Renders.unique {w : World} {request : ReportRequest} {text text' : String}
    (h : w.Renders request text) (h' : w.Renders request text') : text = text' := by
  obtain ⟨template, contents, run, htemplate, hcontents, hrun, rfl⟩ := h
  obtain ⟨template', contents', run', htemplate', hcontents', hrun', rfl⟩ := h'
  obtain rfl := Except.ok.inj (htemplate.symm.trans htemplate')
  obtain rfl := Except.ok.inj (hcontents.symm.trans hcontents')
  obtain rfl := Except.ok.inj (hrun.symm.trans hrun')
  rfl

/-- Where the report goes has no part in what it says. -/
theorem renders_sink {w : World} {request : ReportRequest} {text : String} (sink : Sink) :
    w.Renders { request with sink := sink } text ↔ w.Renders request text := Iff.rfl

/-! ## Sinks -/

/-- What is told of a text on the error output: all of it, or nothing if it is refused. -/
def told (w : World) (text : String) : String :=
  match w.refuses .errors with
  | none => text
  | some _ => ""

/-- The sink got the text, and nothing else in the world changed. -/
inductive Receives (w : World) (text : String) : Sink → World → Prop where
  | output : Receives w text .output { w with output := w.output ++ text }
  | errors : Receives w text .errors { w with errors := w.errors ++ text }
  | file {path : String} {target : Path} {w' : World}
      (leads : w.target? path = .ok target)
      (stored : w'.file? target = some text.toUTF8)
      (readBack : w.refuses (.reading target) = none → w'.read path = .ok text.toUTF8)
      (elsewhere : ∀ other, other ≠ target → w'.file? other = w.file? other)
      (otherwise : w' = { w with files := w'.files }) : Receives w text (.file path) w'

/-- A file that is put where a path leads receives its contents. -/
theorem receives_put {w : World} {path : String} {target : Path}
    (h : w.target? path = .ok target) (text : String) :
    w.Receives text (.file path) (w.put target text.toUTF8) :=
  .file h (file?_put w target _) (fun hread => read_put h hread _)
    (fun _ hother => file?_put_of_ne w hother _) rfl

/-- Whatever the sink, the world is updated in one way. -/
theorem host_write_eq (sink : Sink) : host.write sink = update sink := by
  cases sink <;> rfl

/-- Writing that is not refused changes the world. -/
theorem host_write_of_ok {w w' : World} {sink : Sink} {text : String}
    (h : w.write sink text = .ok w') : host.write sink text w = (.ok (), w') := by
  rw [host_write_eq, update]
  dsimp only [bind, StateT.bind, get, getThe, MonadStateOf.get, StateT.get, pure]
  rw [h]
  rfl

/-- Writing that is refused leaves it as it is. -/
theorem host_write_of_error {w : World} {sink : Sink} {text reason : String}
    (h : w.write sink text = .error reason) :
    host.write sink text w = (.error reason, w) := by
  rw [host_write_eq, update]
  dsimp only [bind, StateT.bind, get, getThe, MonadStateOf.get, StateT.get, pure]
  rw [h]
  rfl

/-- **How writing to a sink ends**: it is refused and nothing changes, or the sink has the
text. -/
theorem host_write (w : World) (sink : Sink) (text : String) :
    match w.refusal? sink with
    | some reason => host.write sink text w = (.error reason, w)
    | none => ∃ w', host.write sink text w = (.ok (), w') ∧ w.Receives text sink w' := by
  cases sink with
  | output =>
      rw [refusal?]
      cases hrefuses : w.refuses .output with
      | some reason => exact host_write_of_error (grant_of_refused hrefuses _)
      | none => exact ⟨_, host_write_of_ok (grant_eq_ok_iff.mpr ⟨hrefuses, rfl⟩), .output⟩
  | errors =>
      rw [refusal?]
      cases hrefuses : w.refuses .errors with
      | some reason => exact host_write_of_error (grant_of_refused hrefuses _)
      | none => exact ⟨_, host_write_of_ok (grant_eq_ok_iff.mpr ⟨hrefuses, rfl⟩), .errors⟩
  | file path =>
      rw [refusal?]
      cases htarget : w.target? path with
      | error reason => exact host_write_of_error (by rw [write, htarget, Except.map])
      | ok target =>
          have hwrite : w.write (.file path) text = .ok (w.put target text.toUTF8) := by
            rw [write, htarget, Except.map]
          exact ⟨_, host_write_of_ok hwrite, receives_put htarget text⟩

/-! ## Running -/

/-- What is told about a failure goes to the error output. -/
theorem fail_host (w : World) (f : Failure) :
    fail host f w = (1, { w with errors := w.errors ++ w.told f.message }) := by
  have hfail : fail host f w = (1, (host.write .errors f.message w).2) := rfl
  rw [hfail, told]
  cases hrefuses : w.refuses .errors with
  | some reason =>
      have hwrite : w.write .errors f.message = .error reason := grant_of_refused hrefuses _
      rw [host_write_of_error hwrite]
      dsimp only
      rw [String.append_empty]
  | none =>
      have hwrite : w.write .errors f.message =
          .ok { w with errors := w.errors ++ f.message } := grant_eq_ok_iff.mpr ⟨hrefuses, rfl⟩
      rw [host_write_of_ok hwrite]

/-- The text of a report, from what a world holds. -/
theorem reportText_inputOf (w : World) (request : ReportRequest) (template : Template) :
    reportText request template (w.inputOf request.input) =
      match w.textOf request.input with
      | .error reason => .error (.unreadable request.input reason)
      | .ok contents =>
        match Log.read contents with
        | .error error => .error (.log request.input error)
        | .ok run => .ok ((Report.build request.hints run).render template) := by
  unfold reportText textOf
  cases w.inputOf request.input with
  | error reason => rfl
  | ok bytes =>
      dsimp only
      cases String.fromUTF8? bytes with
      | none => rfl
      | some contents => cases Log.read contents <;> rfl

/-- How reading and decoding end: with the first failure, or with the text of the report. -/
theorem reportText_outcome (w : World) (request : ReportRequest) (template : Template) :
    match (w.failure? request .reading).or (w.failure? request .decoding) with
    | some f => reportText request template (w.inputOf request.input) = .error f
    | none => ∃ contents run, w.textOf request.input = .ok contents ∧
        Log.read contents = .ok run ∧
        reportText request template (w.inputOf request.input) =
          .ok ((Report.build request.hints run).render template) := by
  rw [reportText_inputOf]
  unfold failure?
  cases w.textOf request.input with
  | error reason => rfl
  | ok contents =>
      dsimp only
      cases hrun : Log.read contents with
      | error error => rfl
      | ok run => exact ⟨contents, run, rfl, hrun, rfl⟩

/-- A report is made from what the world holds at its start. -/
theorem runReport_host {w : World} {request : ReportRequest} {template : Template}
    (h : Template.parse request.template = .ok template) :
    runReport host request w =
      (match reportText request template (w.inputOf request.input) with
      | .error f => fail host f
      | .ok text => writeReport host request.sink text : StateM World UInt32) w := by
  unfold runReport inputOf
  rw [h]
  cases isStandardInput request.input <;> rfl

/-- How writing ends: with its failure, or with the sink that has the text. -/
theorem writeReport_outcome (w : World) (request : ReportRequest) (text : String) :
    match w.failure? request .writing with
    | some f => writeReport host request.sink text w = fail host f w
    | none => ∃ w', writeReport host request.sink text w = (0, w') ∧
        w.Receives text request.sink w' := by
  have hwrite := w.host_write request.sink text
  unfold failure?
  cases hrefusal : w.refusal? request.sink with
  | some reason =>
      rw [hrefusal] at hwrite
      dsimp only [Option.map, writeReport, bind, StateT.bind]
      rw [hwrite]
  | none =>
      rw [hrefusal] at hwrite
      obtain ⟨w', hwritten, hreceives⟩ := hwrite
      dsimp only [Option.map, writeReport, bind, StateT.bind]
      rw [hwritten]
      exact ⟨w', rfl, hreceives⟩

/-- How a report ends: with its first failure, or with the sink that has the text. -/
theorem runReport_outcome (w : World) (request : ReportRequest) :
    match w.firstFailure? request with
    | some f => runReport host request w = fail host f w
    | none => ∃ text w', w.Renders request text ∧ runReport host request w = (0, w') ∧
        w.Receives text request.sink w' := by
  have hstages : w.firstFailure? request = (w.failure? request .template).or
      (((w.failure? request .reading).or (w.failure? request .decoding)).or
        (w.failure? request .writing)) := by
    have hall : Stage.all =
        [Stage.template] ++ ([Stage.reading] ++ [Stage.decoding] ++ [Stage.writing]) := rfl
    rw [firstFailure?, hall]
    simp only [List.findSome?_append, List.findSome?_singleton]
  rw [hstages]
  cases htemplate : Template.parse request.template with
  | error error =>
      have hfailure : w.failure? request .template = some (.template error) := by
        simp only [failure?, htemplate]
      rw [hfailure, runReport, htemplate]
      rfl
  | ok template =>
      have hpassed : w.failure? request .template = none := by
        simp only [failure?, htemplate]
      have htext := w.reportText_outcome request template
      rw [hpassed, Option.none_or, runReport_host htemplate]
      cases hread : (w.failure? request .reading).or (w.failure? request .decoding) with
      | some f =>
          rw [hread] at htext
          rw [htext]
          rfl
      | none =>
          rw [hread] at htext
          obtain ⟨contents, run, hcontents, hrun, hrendered⟩ := htext
          rw [Option.none_or, hrendered]
          have hwritten := w.writeReport_outcome request
            ((Report.build request.hints run).render template)
          cases hwriting : w.failure? request .writing with
          | some f =>
              rw [hwriting] at hwritten
              exact hwritten
          | none =>
              rw [hwriting] at hwritten
              obtain ⟨w', hreport, hreceives⟩ := hwritten
              exact ⟨_, w', ⟨template, contents, run, htemplate, hcontents, hrun, rfl⟩,
                hreport, hreceives⟩

/-- **A report is all or nothing.**  If a stage fails, the exit code is 1, the first failure
is told on the error output, and that is all that changes.  Otherwise the exit code is 0 and
the sink, whichever it is, receives the one text that the request is rendered as. -/
theorem run_report {words : List String} {request : ReportRequest}
    (h : Invocation.parse words = some (.report request)) (w : World) :
    (∀ f, w.firstFailure? request = some f →
      w.run words = (1, { w with errors := w.errors ++ w.told f.message })) ∧
    (w.firstFailure? request = none →
      ∃ text w', (∀ sink text', w.Renders { request with sink := sink } text' ↔ text' = text) ∧
        w.run words = (0, w') ∧ w.Receives text request.sink w') := by
  have hwords : w.run words = runReport host request w := by
    rw [World.run, runWords, h]
    rfl
  have houtcome := w.runReport_outcome request
  rw [hwords]
  refine ⟨fun f hfailure => ?_, fun hnone => ?_⟩
  · rw [hfailure] at houtcome
    exact houtcome.trans (fail_host w f)
  · rw [hnone] at houtcome
    obtain ⟨text, w', hrenders, hrun, hreceives⟩ := houtcome
    refine ⟨text, w', fun sink text' => ?_, hrun, hreceives⟩
    rw [renders_sink]
    exact ⟨fun h' => h'.unique hrenders, fun h' => h' ▸ hrenders⟩

/-- A report may take the place of the log that it was made from, of two things that are
wrong the first is told, and an output that takes nothing gets nothing. -/
theorem run_report_over_log :
    (∃ w', World.run { files := [(["home", "log"], "".toUTF8)], workingDirectory := ["home"] }
        ["report", "log", "--format", "%s", "--output", "/home/log"] = (0, w') ∧
      w'.read "/home/log" = .ok "SQL EXECUTIONS: 0".toUTF8) ∧
    World.run { files := [(["home", "log"], "".toUTF8)] }
        ["report", "missing", "--format", "%s%s", "--output", "home/log"] =
      (1, { files := [(["home", "log"], "".toUTF8)]
            errors := "Error: invalid report format \"%s%s\": `%s` may appear only once\n" }) ∧
    World.run { refuses := fun access =>
        if access = .output then some "No space left on device (os error 28)" else none }
        ["report", "-"] =
      (1, { errors := "Error: failed to write report to stdout\n\nCaused by:\n" ++
              "    No space left on device (os error 28)\n"
            refuses := fun access =>
              if access = .output then some "No space left on device (os error 28)" else none }) := by
  refine ⟨?_, ?_, ?_⟩
  · have hall := @run_report ["report", "log", "--format", "%s", "--output", "/home/log"]
      ⟨"log", "%s", .file "/home/log", [], false⟩ (by decide +kernel)
      { files := [(["home", "log"], "".toUTF8)], workingDirectory := ["home"] }
    obtain ⟨text, w', htext, hrun, hreceives⟩ := hall.2 (by decide +kernel)
    have hempty : "SQL EXECUTIONS: 0" = text :=
      (htext (.file "/home/log") _).mp ⟨⟨[.body]⟩, "", ⟨[]⟩, by decide +kernel,
        by decide +kernel, by decide +kernel, by decide +kernel⟩
    refine ⟨w', hrun, ?_⟩
    cases hreceives with
    | file leads stored readBack elsewhere otherwise => rw [readBack rfl, hempty]
  · have hall := @run_report ["report", "missing", "--format", "%s%s", "--output", "home/log"]
      ⟨"missing", "%s%s", .file "home/log", [], false⟩ (by decide +kernel)
      { files := [(["home", "log"], "".toUTF8)] }
    exact hall.1 (.template ⟨"%s%s", .repeatedBody⟩) (by decide +kernel)
  · have hall := @run_report ["report", "-"] ⟨"-", Template.standardText, .output, [], false⟩
      (by decide +kernel) { refuses := fun access =>
        if access = .output then some "No space left on device (os error 28)" else none }
    exact hall.1 (.unwritable .output "No space left on device (os error 28)") (by decide +kernel)

end World

end QueryAudit.Command
