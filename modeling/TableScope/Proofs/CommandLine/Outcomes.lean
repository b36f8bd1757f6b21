import TableScope.CommandLine.Run
import TableScope.Proofs.Inspection.Reference
import TableScope.Proofs.Output.CsvReader
import TableScope.Proofs.Stored.Exits
import TableScope.Proofs.Stored.Selection

/-! # How commands end

An inspection ends in one of four ways (`Request.Ends`): its file cannot be read, its filter cannot be
built, its filter does not apply, or it shows what a window leaves. Every error of a filtering cursor is
one of its predicates, and nothing fails after it. Hence a command writes a table in the format asked for,
or a message that tells an error of the conditions from one of the file, and besides these only its log
(`Command.run_classified`).

A text of comma-separated values ends its own last record, and the line feed that ends each output
reads as one record more (`Command.read_csv_output`).
-/
set_option autoImplicit false

namespace TableScope

/-- What a window leaves of a table. -/
def Window.cut : Window → Table → Table
  | all, table => table
  | head count, table => table.withRows (table.rows.take count) (List.take_subset _ _)
  | tail count, table =>
    table.withRows (table.rows.drop (table.rows.length - count)) (List.drop_subset _ _)

/-- A filter fails only because a predicate does not apply, whatever the table. -/
theorem Table.evaluation_of_filter {table : Table} {predicates : Filter} {e : TableError}
    (h : table.filter predicates = .error e) : ∃ cause : EvaluationError, e = .evaluation cause := by
  cases hc : predicates.checkSchema table.schema with
  | error cause =>
    rw [table.filter_eq_error hc] at h
    exact ⟨cause, (Except.error.inj h).symm⟩
  | ok passed =>
    cases hs : predicates.sift table.rows with
    | error cause =>
      rw [table.filter_of_sift_eq_error hc hs] at h
      exact ⟨cause, (Except.error.inj h).symm⟩
    | ok kept =>
      rw [table.filter_of_sift_eq_ok hc hs] at h
      cases h

/-! ## Inspections -/

namespace Request

variable {request : Request} {content : FileContent} {whole kept : Table} {predicates : Filter}

theorem run_of_unread {e : ReadError} (hread : content.read request.readOptions = .error e) :
    request.run content = .error (.read e) := by
  rw [run, hread]
  rfl

theorem run_of_unbuilt {e : FilterError} (hread : content.read request.readOptions = .ok whole)
    (hbuild : Filter.build whole.schema request.conditions = .error e) :
    request.run content = .error (.filter e) := by
  rw [run, hread]
  simp only [Except.mapError, bind, Except.bind, hbuild]

theorem run_of_refused {cause : EvaluationError}
    (hread : content.read request.readOptions = .ok whole)
    (hbuild : Filter.build whole.schema request.conditions = .ok predicates)
    (hfilter : whole.filter predicates = .error (.evaluation cause)) :
    request.run content = .error (.filter (.evaluation cause)) := by
  rw [run, hread]
  simp only [Except.mapError, bind, Except.bind, hbuild, hfilter]
  rfl

theorem run_of_kept (hread : content.read request.readOptions = .ok whole)
    (hbuild : Filter.build whole.schema request.conditions = .ok predicates)
    (hfilter : whole.filter predicates = .ok kept) :
    request.run content = .ok (request.window.cut kept) := by
  rw [run, hread]
  simp only [Except.mapError, bind, Except.bind, hbuild, hfilter]
  cases request.window with
  | all => rfl
  | head count =>
    simp only [kept.head_eq_ok count]
    rfl
  | tail count =>
    simp only [kept.tail_eq_ok count]
    rfl

/-- The ways in which an inspection can end, with what it comes to. -/
inductive Ends (request : Request) (content : FileContent) : Except InspectionError Table → Prop
  | unread {e : ReadError} (hread : content.read request.readOptions = .error e) :
    Ends request content (.error (.read e))
  | unbuilt {whole : Table} {e : FilterError}
    (hread : content.read request.readOptions = .ok whole)
    (hbuild : Filter.build whole.schema request.conditions = .error e) :
    Ends request content (.error (.filter e))
  | refused {whole : Table} {predicates : Filter} {cause : EvaluationError}
    (hread : content.read request.readOptions = .ok whole)
    (hbuild : Filter.build whole.schema request.conditions = .ok predicates)
    (hfilter : whole.filter predicates = .error (.evaluation cause)) :
    Ends request content (.error (.filter (.evaluation cause)))
  | shown {whole kept : Table} {predicates : Filter}
    (hread : content.read request.readOptions = .ok whole)
    (hbuild : Filter.build whole.schema request.conditions = .ok predicates)
    (hfilter : whole.filter predicates = .ok kept) :
    Ends request content (.ok (request.window.cut kept))

theorem ends (request : Request) (content : FileContent) :
    request.Ends content (request.run content) := by
  cases hread : content.read request.readOptions with
  | error e =>
    rw [run_of_unread hread]
    exact .unread hread
  | ok whole =>
    cases hbuild : Filter.build whole.schema request.conditions with
    | error e =>
      rw [run_of_unbuilt hread hbuild]
      exact .unbuilt hread hbuild
    | ok predicates =>
      cases hfilter : whole.filter predicates with
      | error e =>
        obtain ⟨cause, rfl⟩ := Table.evaluation_of_filter hfilter
        rw [run_of_refused hread hbuild hfilter]
        exact .refused hread hbuild hfilter
      | ok kept =>
        rw [run_of_kept hread hbuild hfilter]
        exact .shown hread hbuild hfilter

theorem cause_of_error {e : InspectionError} (hrun : request.run content = .error e) :
    (∃ cause, content.read request.readOptions = .error cause ∧ e = .read cause) ∨
    ∃ whole cause, content.read request.readOptions = .ok whole ∧ e = .filter cause := by
  have hends := request.ends content
  rw [hrun] at hends
  cases hends with
  | unread hread => exact .inl ⟨_, hread, rfl⟩
  | unbuilt hread hbuild => exact .inr ⟨_, _, hread, rfl⟩
  | refused hread hbuild hfilter => exact .inr ⟨_, _, hread, rfl⟩

end Request

/-! ## Commands -/

/-- A message as it is written after its label. -/
def labelled (label message : String) : List Char := label.toList ++ message.toList ++ ['\n']

namespace InspectionError

variable {request : Request} {content : FileContent} {e : InspectionError}

theorem report_filter_ne_read (path : String) (e : FilterError) (cause : ReadError) :
    (InspectionError.filter e).report path ≠ (InspectionError.read cause).report path := by
  intro h
  have hfirst : ("Invalid filter: ".toList ++ e.message.toList).head? =
      ("Error: ".toList ++ (cause.message path).toList).head? := congrArg List.head? h
  have hfilter : "Invalid filter: ".toList.head? = some 'I' := by decide +kernel
  have hread : "Error: ".toList.head? = some 'E' := by decide +kernel
  rw [List.head?_append, List.head?_append, hfilter, hread] at hfirst
  cases hfirst

theorem report_eq_filter_iff (hrun : request.run content = .error e) (file : String) :
    (∃ whole, content.read request.readOptions = .ok whole) ↔
      ∃ cause : FilterError,
        e.report file ++ ['\n'] = labelled "Invalid filter: " cause.message := by
  rcases Request.cause_of_error hrun with ⟨cause, hread, rfl⟩ | ⟨whole, cause, hread, rfl⟩
  · rw [hread]
    refine iff_of_false nofun ?_
    rintro ⟨other, h⟩
    exact report_filter_ne_read file other cause (List.append_cancel_right h).symm
  · exact iff_of_true ⟨whole, hread⟩ ⟨cause, rfl⟩

theorem report_eq_read_iff (hrun : request.run content = .error e) (file : String) :
    (∃ cause, content.read request.readOptions = .error cause) ↔
      ∃ cause : ReadError, e.report file ++ ['\n'] = labelled "Error: " (cause.message file) := by
  rcases Request.cause_of_error hrun with ⟨cause, hread, rfl⟩ | ⟨whole, cause, hread, rfl⟩
  · exact iff_of_true ⟨cause, hread⟩ ⟨cause, rfl⟩
  · rw [hread]
    refine iff_of_false nofun ?_
    rintro ⟨other, h⟩
    exact report_filter_ne_read file cause other (List.append_cancel_right h)

end InspectionError

namespace Command

variable {content : String → FileContent} {arguments : List String} {file : String}
  {request : Request} {format : OutputFormat}

theorem runArguments_of_ok (hparse : parse arguments = some (.inspect file request format))
    {table : Table} (hrun : request.run (content file) = .ok table) :
    runArguments content arguments = .output (table.render format ++ ['\n']) := by
  rw [runArguments, hparse]
  simp only [run, hrun]

theorem runArguments_of_error (hparse : parse arguments = some (.inspect file request format))
    {e : InspectionError} (hrun : request.run (content file) = .error e) :
    runArguments content arguments = .failure (e.report file ++ ['\n']) := by
  rw [runArguments, hparse]
  simp only [run, hrun]

/-- What is written for a table in each format. The line feed at the end is not the format's own. -/
inductive Written : OutputFormat → Table → List Char → Prop
  | grid (table : Table) : Written .grid table (Grid.render table ++ ['\n'])
  | csv (table : Table) : Written .csv table (Csv.render table ++ ['\n'])
  | json (table : Table) : Written .json table ((Json.ofTable table).render ++ ['\n'])

theorem written_render (format : OutputFormat) (table : Table) :
    Written format table (table.render format ++ ['\n']) := by
  cases format with
  | grid => exact .grid table
  | csv => exact .csv table
  | json => exact .json table

/-- What the outcome of an inspection tells about it, whatever its log. -/
structure Classified (content : FileContent) (file : String) (request : Request)
    (format : OutputFormat) (log : List Char) (outcome : Outcome) : Prop where
  shows_or_fails :
    (outcome.exitCode = 0 ∧ outcome.stderr log = log ∧ ∃ table, request.run content = .ok table ∧
      Written format table outcome.stdout) ∨
    (outcome.exitCode = 1 ∧ outcome.stdout = [])
  /-- A message about the conditions is the message of a failure after the file was read. -/
  filter_iff : outcome.exitCode = 1 →
    ((∃ whole, content.read request.readOptions = .ok whole) ↔
      ∃ e : FilterError, outcome.stderr log = log ++ labelled "Invalid filter: " e.message)
  read_iff : outcome.exitCode = 1 →
    ((∃ e, content.read request.readOptions = .error e) ↔
      ∃ e : ReadError, outcome.stderr log = log ++ labelled "Error: " (e.message file))
  /-- An error of reading is one of those that can be met at the path. -/
  fails_iff : ∀ e, content.read request.readOptions = .error e ↔ content.Fails request.readOptions e
  /-- It is shown with all errors behind it. -/
  unread : ∀ e, content.read request.readOptions = .error e →
    request.run content = .error (.read e) ∧
    outcome.stderr log = log ++ labelled "Error: " (": ".intercalate (e.texts file))
  unbuilt : ∀ whole e, content.read request.readOptions = .ok whole →
    Filter.build whole.schema request.conditions = .error e →
    request.run content = .error (.filter e) ∧
    outcome.stderr log = log ++ labelled "Invalid filter: " e.message
  refused : ∀ whole predicates e, content.read request.readOptions = .ok whole →
    Filter.build whole.schema request.conditions = .ok predicates →
    whole.filter predicates = .error e →
    ∃ cause : EvaluationError, e = .evaluation cause ∧
      request.run content = .error (.filter (.evaluation cause)) ∧
      outcome.stderr log = log ++ labelled "Invalid filter: " cause.message
  /-- Nothing fails after the filter. -/
  shown : ∀ whole predicates kept, content.read request.readOptions = .ok whole →
    Filter.build whole.schema request.conditions = .ok predicates →
    whole.filter predicates = .ok kept →
    request.run content = .ok (request.window.cut kept) ∧
    Written format (request.window.cut kept) outcome.stdout

theorem run_classified (content : String → FileContent) (arguments : List String) (log : List Char)
    (hparse : parse arguments = some (.inspect file request format)) :
    Classified (content file) file request format log (runArguments content arguments) := by
  have hok := @runArguments_of_ok content arguments file request format hparse
  have herror := @runArguments_of_error content arguments file request format hparse
  have hfails : (runArguments content arguments).exitCode = 1 →
      ∃ e, request.run (content file) = .error e := by
    intro hexit
    cases hrun : request.run (content file) with
    | ok table => rw [hok hrun] at hexit; cases hexit
    | error e => exact ⟨e, rfl⟩
  constructor
  case shows_or_fails =>
    cases hrun : request.run (content file) with
    | ok table =>
      rw [hok hrun]
      exact .inl ⟨rfl, List.append_nil log, table, rfl, written_render format table⟩
    | error e =>
      rw [herror hrun]
      exact .inr ⟨rfl, rfl⟩
  case filter_iff =>
    intro hexit
    obtain ⟨e, hrun⟩ := hfails hexit
    simp only [herror hrun, Outcome.stderr, Outcome.message, List.append_cancel_left_eq]
    exact InspectionError.report_eq_filter_iff hrun file
  case read_iff =>
    intro hexit
    obtain ⟨e, hrun⟩ := hfails hexit
    simp only [herror hrun, Outcome.stderr, Outcome.message, List.append_cancel_left_eq]
    exact InspectionError.report_eq_read_iff hrun file
  case fails_iff =>
    intro e
    exact FileContent.read_eq_error_iff
  case unread =>
    intro e hread
    have hrun := Request.run_of_unread hread
    rw [herror hrun]
    exact ⟨hrun, rfl⟩
  case unbuilt =>
    intro whole e hread hbuild
    have hrun := Request.run_of_unbuilt hread hbuild
    rw [herror hrun]
    exact ⟨hrun, rfl⟩
  case refused =>
    intro whole predicates e hread hbuild hfilter
    obtain ⟨cause, rfl⟩ := Table.evaluation_of_filter hfilter
    have hrun := Request.run_of_refused hread hbuild hfilter
    rw [herror hrun]
    exact ⟨cause, rfl, hrun, rfl⟩
  case shown =>
    intro whole predicates kept hread hbuild hfilter
    have hrun := Request.run_of_kept hread hbuild hfilter
    rw [hok hrun]
    exact ⟨hrun, written_render format _⟩

/-- One run is refused by a predicate, and one meets rows that cannot be loaded. -/
theorem run_classified_ledger :
    let whole : String → FileContent := fun _ => .table FileContent.ledger
    let arguments := ["--debug", "tail", "ledger", "-n1", "--filter", "name >= 3"]
    let request : Request := ⟨[], ["name >= 3"], .tail 1⟩
    let refusal : EvaluationError := .typeMismatch "name" (.relation .ge) .string (.integer 3)
    let cause : Cause := ⟨"Parquet argument error: EOF: not enough values", []⟩
    let torn : String → FileContent := fun _ => .damaged FileContent.ledger none cause
    let log := "[DEBUG] opened ledger\n".toList
    (parse arguments = some (.inspect "ledger" request .grid) ∧
      Classified (whole "ledger") "ledger" request .grid log (runArguments whole arguments) ∧
      request.run (whole "ledger") = .error (.filter (.evaluation refusal)) ∧
      (runArguments whole arguments).stderr log =
        log ++ labelled "Invalid filter: " refusal.message) ∧
    (parse ["head", "ledger"] = some (.inspect "ledger" ⟨[], [], .head 10⟩ .grid) ∧
      Classified (torn "ledger") "ledger" ⟨[], [], .head 10⟩ .grid log
        (runArguments torn ["head", "ledger"]) ∧
      (runArguments torn ["head", "ledger"]).stderr log = log ++ labelled "Error: "
        ("Failed to decode ledger: Arrow error: " ++ cause.text ++ ": " ++ cause.text)) := by
  intro whole arguments request refusal cause torn log
  constructor
  · have hparse : parse arguments = some (.inspect "ledger" request .grid) := by decide +kernel
    have classified := run_classified whole arguments log hparse
    have hread : (whole "ledger").read request.readOptions = .ok FileContent.ledger.table :=
      FileContent.read_ledger
    have hbuild : Filter.build FileContent.ledger.table.schema request.conditions =
        .ok [⟨"name", 1, .relation .ge, .integer 3⟩] := rfl
    have hfilter : FileContent.ledger.table.filter [⟨"name", 1, .relation .ge, .integer 3⟩] =
        .error (.evaluation refusal) := Table.filter_eq_error _ rfl
    obtain ⟨other, hother, hrun, hstderr⟩ := classified.refused _ _ _ hread hbuild hfilter
    cases hother
    exact ⟨hparse, classified, hrun, hstderr⟩
  · have hparse : parse ["head", "ledger"] = some (.inspect "ledger" ⟨[], [], .head 10⟩ .grid) := by
      decide +kernel
    have classified := run_classified torn ["head", "ledger"] log hparse
    -- three rows can be loaded, and ten are asked for
    have hfails : (torn "ledger").Fails ⟨[], some 10⟩ (.malformed ⟨.batch, cause⟩) := by
      refine .damaged ?_ ?_
      · rintro limit ⟨rfl⟩
        decide
      · intro e he
        cases he.read_eq.symm.trans FileContent.read_ledger
    exact ⟨hparse, classified, (classified.unread _ ((classified.fails_iff _).mpr hfails)).2⟩

/-! ## Records -/

/-- What is written for a table with columns is its records, but the output has one more: the text ends
its own last record, and the empty line after it is a record of one empty field. -/
theorem read_csv_output (content : String → FileContent) (arguments : List String)
    (hparse : parse arguments = some (.inspect file request .csv))
    (hexit : (runArguments content arguments).exitCode = 0) :
    ∃ table, request.run (content file) = .ok table ∧
      (table.schema ≠ [] →
        (Csv.records table).length = table.rows.length + 1 ∧
        Csv.read (Csv.render table) = some (Csv.records table) ∧
        Csv.read (runArguments content arguments).stdout = some (Csv.records table ++ [[[]]])) := by
  cases hrun : request.run (content file) with
  | error e =>
    rw [runArguments_of_error hparse hrun] at hexit
    cases hexit
  | ok table =>
    refine ⟨table, rfl, fun hc => ⟨Csv.length_records table, ?_, ?_⟩⟩
    · rw [Csv.render_eq]
      exact Csv.read_records _ (Csv.records_ne_nil hc)
    · have hline : Csv.render table ++ ['\n'] = (Csv.records table ++ [[[]]]).flatMap Csv.record := by
        rw [List.flatMap_append, ← Csv.render_eq]
        rfl
      have hnonempty : ∀ record ∈ Csv.records table ++ [[[]]], record ≠ [] := by
        intro record hr
        rcases List.mem_append.mp hr with hr | hr
        · exact Csv.records_ne_nil hc record hr
        · rw [List.mem_singleton.mp hr]
          exact List.cons_ne_nil _ _
      rw [runArguments_of_ok hparse hrun]
      exact (congrArg Csv.read hline).trans (Csv.read_records _ hnonempty)

/-- A last null is an empty line, and the output ends with two of them. -/
theorem read_csv_output_ledger :
    let content : String → FileContent := fun _ => .table FileContent.ledger
    let arguments := ["show", "ledger", "--columns", "name", "--format", "csv"]
    parse arguments = some (.inspect "ledger" ⟨["name"], [], .all⟩ .csv) ∧
    (runArguments content arguments).exitCode = 0 ∧
    (runArguments content arguments).stdout = "name\nrent\nwater\n\n\n".toList ∧
    Csv.read (runArguments content arguments).stdout =
      some [["name".toList], ["rent".toList], ["water".toList], [[]], [[]]] := by
  intro content arguments
  let names := (FileContent.ledger.table.columnsNamed ["name"]).upTo none
  have hparse : parse arguments = some (.inspect "ledger" ⟨["name"], [], .all⟩ .csv) := by
    decide +kernel
  have hl : FileContent.ledger.Loadable := .inr FileContent.ledger_readable
  have hread : (content "ledger").read (Request.readOptions ⟨["name"], [], .all⟩) = .ok names :=
    hl.read_eq _ (by decide)
  have hrun : Request.run ⟨["name"], [], .all⟩ (content "ledger") = .ok names :=
    Request.run_of_kept hread rfl rfl
  have houtput := runArguments_of_ok hparse hrun
  have hexit : (runArguments content arguments).exitCode = 0 := by rw [houtput]; rfl
  have hstdout : (runArguments content arguments).stdout = "name\nrent\nwater\n\n\n".toList := by
    rw [houtput]
    rfl
  refine ⟨hparse, hexit, hstdout, ?_⟩
  obtain ⟨table, ht, hrecords⟩ := read_csv_output content arguments hparse hexit
  obtain rfl : names = table := Except.ok.inj (hrun.symm.trans ht)
  have hc : names.schema ≠ [] := List.cons_ne_nil _ _
  exact (hrecords hc).2.2

end Command

end TableScope
