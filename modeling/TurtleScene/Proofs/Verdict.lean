/-
**What a run is asked to show does not change how it ends.**

A run that shows the tokens reads them all before it parses; it may stop on a fault of the text that
the parser would never have come to. But a source that has a scene has no fault, and a fault that
the parser does come to is the first one. So the settings decide only which error is told first.

* `Scene.checked` — how a run ends that shows nothing.
* `checkSource_ok_iff` — a run ends with a scene and its findings, or not, whatever it shows.
* `checkSource_reports` — what a run reports is told by its end: the error, or the findings.
* `Command.run_exitCode` — the exit code.
* **`verdict_independent_of_flags`** — all of it together, for a reporter and for the program.
-/

import TurtleScene.Command.Answer
import TurtleScene.Proofs.Causes

namespace TurtleScene

/-! ### How a run ends -/

/-- The scene of a source and what is wrong with it, or why it has none. -/
def Scene.checked (palette : Palette) (source : String) : Except ParseError CheckedScene :=
  (Scene.parse source).map fun scene => ⟨scene, scene.check palette none⟩

section Outcome

variable {settings : Settings} {file : Nat} {source : SourceFile}

theorem parseAndCheck_outcome : (parseAndCheck settings file source).outcome =
    Scene.checked settings.palette source.text := by
  unfold parseAndCheck Scene.checked
  cases Scene.parse source.text <;> rfl

theorem checkSource_outcome_of_quiet (quiet : settings.dumpTokens = false) :
    (checkSource settings file source).outcome = Scene.checked settings.palette source.text := by
  rw [checkSource, quiet]
  exact parseAndCheck_outcome

theorem checkSource_outcome_of_tokens {tokens : List Token}
    (readable : (TokenStream.ofSource source.text).tokens = .ok tokens) :
    (checkSource settings file source).outcome = Scene.checked settings.palette source.text := by
  unfold checkSource
  split
  · rw [tokenDump, readable]
    exact parseAndCheck_outcome
  · exact parseAndCheck_outcome

theorem checkSource_outcome_of_fault {error : LexicalError} (dumps : settings.dumpTokens = true)
    (faulty : (TokenStream.ofSource source.text).tokens = .error error) :
    (checkSource settings file source).outcome = .error (.lexical error) := by
  rw [checkSource, dumps, tokenDump, faulty]
  rfl

theorem Scene.checked_ok_iff {palette : Palette} {text : String} {checked : CheckedScene} :
    Scene.checked palette text = .ok checked ↔
      Scene.parse text = .ok checked.scene ∧
        checked.findings = checked.scene.check palette none := by
  obtain ⟨scene, findings⟩ := checked
  unfold Scene.checked
  cases Scene.parse text with
  | error error => exact ⟨nofun, fun ⟨same, _⟩ => nomatch same⟩
  | ok found =>
    constructor
    · intro same
      cases same
      exact ⟨rfl, rfl⟩
    · rintro ⟨same, isCheck⟩
      cases same
      exact congrArg (fun findings => Except.ok (CheckedScene.mk _ findings)) isCheck.symm

theorem Scene.checked_error_iff {palette : Palette} {text : String} {error : ParseError} :
    Scene.checked palette text = .error error ↔ Scene.parse text = .error error := by
  unfold Scene.checked
  cases Scene.parse text with
  | error first => simp only [Except.map, Except.error.injEq]
  | ok scene => exact ⟨nofun, nofun⟩

/-- **A run ends with a scene and its findings**, or not, whatever it is asked to show. -/
theorem checkSource_ok_iff {checked : CheckedScene} :
    (checkSource settings file source).outcome = .ok checked ↔
      Scene.checked settings.palette source.text = .ok checked := by
  cases readable : (TokenStream.ofSource source.text).tokens with
  | ok tokens => rw [checkSource_outcome_of_tokens readable]
  | error error =>
    cases dumps : settings.dumpTokens with
    | false => rw [checkSource_outcome_of_quiet dumps]
    | true =>
      rw [checkSource_outcome_of_fault dumps readable]
      refine ⟨nofun, fun same => ?_⟩
      obtain ⟨tokens, found⟩ := Scene.tokens_ok_of_parse (Scene.checked_ok_iff.mp same).1
      rw [found] at readable
      cases readable

end Outcome

/-! ### What a run reports -/

/-- The problems that an end of a run stands for. -/
def problemsOf : Except ParseError CheckedScene → List Problem
  | .ok checked => checked.findings.map Finding.toProblem
  | .error error => [error.toProblem]

theorem Run.reports_after (events : List Event) (run : Run) :
    (run.after events).reports = events.filterMap Event.report? ++ run.reports :=
  List.filterMap_append

theorem Settings.reports_note (settings : Settings) (text : String) :
    (settings.note text).filterMap Event.report? = [] := by
  unfold Settings.note
  split <;> rfl

theorem checkScene_reports (settings : Settings) (file : Nat) (scene : Scene) :
    (checkScene settings file scene).reports =
      ((scene.check settings.palette none).map Finding.toProblem).map fun problem =>
        (file, problem) := by
  have shown : (if settings.dumpScene then [framed "AST" scene.print] else []).filterMap
      Event.report? = [] := by
    split <;> rfl
  have each : ((scene.check settings.palette none).map fun finding =>
      Event.report file finding.toProblem).filterMap Event.report? =
        (scene.check settings.palette none).map fun finding => (file, finding.toProblem) := by
    rw [List.filterMap_map, ← List.filterMap_eq_map]
    rfl
  unfold checkScene Run.reports
  dsimp only
  rw [List.filterMap_append, List.filterMap_append, List.filterMap_append, shown, each,
    settings.reports_note, settings.reports_note, List.map_map, List.nil_append, List.nil_append,
    List.append_nil]
  rfl

theorem parseAndCheck_reports (settings : Settings) (file : Nat) (source : SourceFile) :
    (parseAndCheck settings file source).reports =
      (problemsOf (parseAndCheck settings file source).outcome).map fun problem =>
        (file, problem) := by
  rw [parseAndCheck_outcome]
  unfold parseAndCheck Scene.checked
  dsimp only
  rw [Run.reports_after, settings.reports_note, List.nil_append]
  cases Scene.parse source.text with
  | ok scene => exact checkScene_reports settings file scene
  | error error => rfl

/-- **What a run reports is told by its end**: the error, or each of the findings. -/
theorem checkSource_reports (settings : Settings) (file : Nat) (source : SourceFile) :
    (checkSource settings file source).reports =
      (problemsOf (checkSource settings file source).outcome).map fun problem =>
        (file, problem) := by
  unfold checkSource
  split
  · dsimp only
    rw [Run.reports_after, settings.reports_note, List.nil_append]
    cases tokenDump source.text with
    | ok dump => exact parseAndCheck_reports settings file source
    | error error => rfl
  · exact parseAndCheck_reports settings file source

/-! ### The exit code -/

/-- A text that is a scene without findings. -/
def CleanText (palette : Palette) (text : String) : Prop :=
  ∃ scene, Scene.parse text = .ok scene ∧ scene.check palette none = []

namespace Command

/-- The run that decides on the exit code. -/
def Options.run (options : Options) (text : String) : Run :=
  checkSource options.settings Reporter.empty.nextFile ⟨options.input, text⟩

theorem Options.run_ok_iff {options : Options} {text : String} {checked : CheckedScene} :
    (options.run text).outcome = .ok checked ↔
      Scene.parse text = .ok checked.scene ∧
        checked.findings = checked.scene.check options.settings.palette none :=
  checkSource_ok_iff.trans Scene.checked_ok_iff

theorem Options.verdict_exitCode_of_ok {options : Options} {text : String}
    {checked : CheckedScene} (ended : (options.run text).outcome = .ok checked) :
    (options.verdict text).exitCode = if checked.isClean then 0 else 1 := by
  unfold Options.verdict
  dsimp only [Reporter.checkFile]
  rw [← Options.run, ended]

theorem Options.verdict_exitCode_of_error {options : Options} {text : String}
    {error : ParseError} (ended : (options.run text).outcome = .error error) :
    (options.verdict text).exitCode = 1 := by
  unfold Options.verdict
  dsimp only [Reporter.checkFile]
  rw [← Options.run, ended]
  rfl

/-- A text has the exit code 0 if it is a scene without findings, and else the exit code 1. -/
theorem Options.verdict_exitCode (options : Options) (text : String) :
    (options.verdict text).exitCode = 0 ∧ CleanText options.settings.palette text ∨
      (options.verdict text).exitCode = 1 ∧ ¬ CleanText options.settings.palette text := by
  cases ended : (options.run text).outcome with
  | error error =>
    refine .inr ⟨options.verdict_exitCode_of_error ended, ?_⟩
    rintro ⟨scene, parsed, none⟩
    have clean : (options.run text).outcome = .ok ⟨scene, []⟩ :=
      Options.run_ok_iff.mpr ⟨parsed, none.symm⟩
    rw [clean] at ended
    cases ended
  | ok checked =>
    obtain ⟨parsed, isCheck⟩ := Options.run_ok_iff.mp ended
    rw [options.verdict_exitCode_of_ok ended, CheckedScene.isClean, isCheck]
    by_cases none : checked.scene.check options.settings.palette none = []
    · rw [none]
      exact .inl ⟨rfl, checked.scene, parsed, none⟩
    · rw [List.isEmpty_eq_false_iff.mpr none]
      refine .inr ⟨rfl, ?_⟩
      rintro ⟨scene, same, isClean⟩
      cases same.symm.trans parsed
      exact none isClean

/-- **The exit code** is 0 if the file has a text, which is a scene without findings, and else 1. -/
theorem run_exitCode (folder : Folder) {arguments : List String} {options : Options}
    (checks : request arguments = .check options) :
    (run folder arguments).exitCode = 0 ∧ (∃ text, folder.read options.input = .ok text ∧
        CleanText options.settings.palette text) ∨
      (run folder arguments).exitCode = 1 ∧ ¬ ∃ text, folder.read options.input = .ok text ∧
        CleanText options.settings.palette text := by
  have answered : run folder arguments = options.answer (folder.read options.input) := by
    rw [run, checks]
  rw [answered]
  cases folder.read options.input with
  | error error => exact .inr ⟨rfl, nofun⟩
  | ok text =>
    refine (options.verdict_exitCode text).imp (fun clean => ?_) (fun unclean => ?_)
    · exact ⟨clean.1, text, rfl, clean.2⟩
    · refine ⟨unclean.1, ?_⟩
      rintro ⟨_, same, isClean⟩
      cases same
      exact unclean.2 isClean

end Command

/-! ### All settings together -/

/-- The bytes of a text are read as the text. -/
theorem textOfBytes_toUTF8 (text : String) : textOfBytes text.toUTF8 = .ok text := by
  have valid : String.fromUTF8? text.toUTF8 = some text := dif_pos text.isValidUTF8
  rw [textOfBytes, valid]

/-- Where a run with the dump and one without it both end with an error, it is the same one, or the
dump shows the first fault of a text that is refused for another reason without it. -/
theorem checkSource_errors_agree {dumping quiet : Settings} {file number : Nat}
    {source : SourceFile} {error other : ParseError} (dumps : dumping.dumpTokens = true)
    (shows : quiet.dumpTokens = false)
    (failed : (checkSource dumping file source).outcome = .error error)
    (otherFailed : (checkSource quiet number source).outcome = .error other) :
    (error = other ∨ other.stage = .parsing ∧
      ∃ fault, (TokenStream.ofSource source.text).tokens = .error fault ∧
        error = .lexical fault) ∧
    (other.stage = .lexing → error = other) := by
  rw [checkSource_outcome_of_quiet shows] at otherFailed
  have refused := Scene.checked_error_iff.mp otherFailed
  cases readable : (TokenStream.ofSource source.text).tokens with
  | ok tokens =>
    rw [checkSource_outcome_of_tokens readable, Scene.checked_error_iff, refused] at failed
    cases failed
    exact ⟨.inl rfl, fun _ => rfl⟩
  | error fault =>
    rw [checkSource_outcome_of_fault dumps readable] at failed
    cases failed
    cases other with
    | lexical first =>
      rw [Scene.tokens_of_parse_lexical refused] at readable
      cases readable
      exact ⟨.inl rfl, fun _ => rfl⟩
    | unexpected _ _ | integerOutOfRange _ _ | malformedDecimal _ _ | duplicateShape _ _
    | unknownShape _ _ => exact ⟨.inr ⟨rfl, fault, rfl, rfl⟩, nofun⟩

/-- A reporter counts the problems of a run. -/
theorem Reporter.reported_checkFile (reporter : Reporter) (settings : Settings)
    (source : SourceFile) : (reporter.checkFile settings source).2.reported =
      reporter.reported + (problemsOf (reporter.checkFile settings source).1.outcome).length := by
  show reporter.reported + (checkSource _ _ _).reports.length = _
  rw [checkSource_reports, List.length_map]
  rfl

/-- **What a run is asked to show does not change how it ends.** With the dump of the tokens and
without it, a run ends with the same scene and findings, if it ends with any. If not, the error is
the same, or the dump shows the first fault of a text that the parser refuses for another reason in
front of it. Each error and each finding is counted once. The exit code is 0 for a readable file
with a scene without findings, and else 1. -/
theorem verdict_independent_of_flags :
    (∀ (reporter : Reporter) (source : SourceFile) (palette : Palette)
        (dumpScene verbose otherDumpScene otherVerbose : Bool),
      let dumping := (reporter.checkFile ⟨true, dumpScene, verbose, palette⟩ source).1.outcome
      let quiet :=
        (reporter.checkFile ⟨false, otherDumpScene, otherVerbose, palette⟩ source).1.outcome
      (∀ checked, dumping = .ok checked ↔ quiet = .ok checked) ∧
        ∀ error other, dumping = .error error → quiet = .error other →
          (error = other ∨ other.stage = .parsing ∧
            ∃ fault, (TokenStream.ofSource source.text).tokens = .error fault ∧
              error = .lexical fault) ∧
          (other.stage = .lexing → error = other)) ∧
    (∀ (reporter : Reporter) (settings : Settings) (source : SourceFile),
      let checked := reporter.checkFile settings source
      (∀ error, checked.1.outcome = .error error →
        checked.2.reported = reporter.reported + 1) ∧
      ∀ result, checked.1.outcome = .ok result →
        checked.2.reported = reporter.reported + result.findings.length) ∧
    ∀ (folder : Folder) (arguments : List String) (options : Command.Options),
      Command.request arguments = .check options →
        let clean := ∃ text, folder.read options.input = .ok text ∧
          CleanText options.settings.palette text
        ((Command.run folder arguments).exitCode = 0 ↔ clean) ∧
          ((Command.run folder arguments).exitCode = 1 ↔ ¬ clean) := by
  refine ⟨?_, ?_, ?_⟩
  · intro reporter source palette dumpScene verbose otherDumpScene otherVerbose dumping quiet
    refine ⟨fun checked => ?_, fun error other failed otherFailed => ?_⟩
    · have isQuiet : quiet = Scene.checked palette source.text := checkSource_outcome_of_quiet rfl
      rw [isQuiet]
      exact checkSource_ok_iff
    · exact checkSource_errors_agree rfl rfl failed otherFailed
  · intro reporter settings source checked
    have counted := reporter.reported_checkFile settings source
    constructor
    · intro error ended
      rw [counted, ended]
      rfl
    · intro result ended
      rw [counted, ended, problemsOf, List.length_map]
  · intro folder arguments options checks clean
    rcases Command.run_exitCode folder checks with ⟨code, isClean⟩ | ⟨code, unclean⟩
    · rw [code]
      exact ⟨⟨fun _ => isClean, fun _ => rfl⟩, nofun, fun unclean => (unclean isClean).elim⟩
    · rw [code]
      exact ⟨⟨nofun, fun isClean => (unclean isClean).elim⟩, fun _ => unclean, fun _ => rfl⟩

/-- A fault behind a syntax error is shown by the dump only; a clean scene ends with 0. -/
theorem verdict_independent_of_flags_fault :
    let source : SourceFile := ⟨"a.shape", "shape 5 @"⟩
    let dumping := Reporter.empty.checkFile ⟨true, false, false, .standard⟩ source
    let quiet := Reporter.empty.checkFile ⟨false, false, false, .standard⟩ source
    let text := "shape a\x7bpencil blue;axiom\x7b\x7d\x7ddraw a;"
    let folder := Folder.ofList [("a.shape", .file text.toUTF8)]
    dumping.1.outcome = .error (.lexical ⟨"@", ⟨8, 9⟩⟩) ∧
      quiet.1.outcome = .error (.unexpected .identifier ⟨.integer "5", ⟨6, 7⟩⟩) ∧
      (∃ fault, (TokenStream.ofSource source.text).tokens = .error fault) ∧
      dumping.2.reported = 1 ∧ quiet.2.reported = 1 ∧
      Command.request ["a.shape", "--dump-tokens"] = .check ⟨"a.shape", [], [.dumpTokens]⟩ ∧
      (Command.run folder ["a.shape", "--dump-tokens"]).exitCode = 0 := by
  intro source dumping quiet text folder
  obtain ⟨ends, counts, exits⟩ := verdict_independent_of_flags
  have shown : dumping.1.outcome = .error (.lexical ⟨"@", ⟨8, 9⟩⟩) := by
    simp only [dumping, source]
    decide +kernel
  have told : quiet.1.outcome = .error (.unexpected .identifier ⟨.integer "5", ⟨6, 7⟩⟩) := by
    simp only [quiet, source]
    decide +kernel
  have asked : Command.request ["a.shape", "--dump-tokens"] =
      .check ⟨"a.shape", [], [.dumpTokens]⟩ := by
    decide +kernel
  have parsed : Scene.parse text = .ok ⟨[⟨⟨"a", "blue", ⟨15, 19⟩, [], ⟨[], ⟨20, 27⟩⟩, ⟨0, 28⟩⟩,
      ⟨.missing, ⟨34, 34⟩⟩, ⟨.missing, ⟨34, 34⟩⟩, ⟨28, 35⟩⟩]⟩ := by
    simp only [text]
    decide +kernel
  have clean : CleanText Palette.standard text := ⟨_, parsed, by decide +kernel⟩
  have found : folder.read "a.shape" = textOfBytes text.toUTF8 := rfl
  have apart := ((ends .empty source .standard false false false false).2 _ _ shown told).1
  have behind : ∃ fault, (TokenStream.ofSource source.text).tokens = .error fault := by
    rcases apart with same | ⟨_, fault, faulty, _⟩
    · cases same
    · exact ⟨fault, faulty⟩
  refine ⟨shown, told, behind, (counts _ _ _).1 _ shown, (counts _ _ _).1 _ told, asked, ?_⟩
  exact (exits folder _ _ asked).1.mpr ⟨text, found.trans (textOfBytes_toUTF8 text), clean⟩

end TurtleScene
