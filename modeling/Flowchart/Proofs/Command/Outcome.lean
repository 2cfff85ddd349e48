import Flowchart.Proofs.Agreement
import Flowchart.Proofs.Editor.Coherence
import Flowchart.Proofs.Fix.Summary

/-!
# How commands end

A command is refused, or it emits a text.  Where it is refused it ends with one, has printed
nothing but an error, and leaves the directory as it was; this happens before anything is
written.  Where it emits a text it has decided before how it will end, and then at most one
file is written, at the path that is named for it.

So, once logging is set up, a report ends with zero just where the file is there, a format was
given and the text has no issues, and a fix just where the file is there and the candidate is
one of those that are listed; and whether logging is set up or not, at all paths that do not
lead to the output stands what stood there.

Main statement: `commands_atomic`.
-/

namespace Flowchart

/-! ## What can be seen of an outcome -/

namespace Outcome

/-- The code with which the program ends, unless it goes on serving. -/
def exit? : Outcome → Option Nat
  | usage exit => some exit
  | failed _ => some 1
  | finished exit _ _ _ => some exit
  | serving _ => none

/-- What a command prints on the standard output. -/
def output : Outcome → Text
  | finished _ output _ _ => output
  | _ => []

/-- The directory when the program has ended, which was `before` when it began. -/
def directoryAfter (before : Directory) : Outcome → Directory
  | finished _ _ _ after => after
  | _ => before

/-- The exit code tells whether something holds: it is zero if so, else one. -/
def Tells (outcome : Outcome) (holds : Prop) : Prop :=
  (outcome.exit? = some 0 ↔ holds) ∧ (outcome.exit? = some 1 ↔ ¬ holds)

/-- The command failed, or has said why it ends with one. -/
def Refused (directory : Directory) (outcome : Outcome) : Prop :=
  (∃ error, outcome = .failed error) ∨ ∃ errors, outcome = .finished 1 [] errors directory

end Outcome

/-- The arguments ask for a command, and not for the version. -/
def Asks (settings : Settings) (arguments : List Text) (command : Command) : Prop :=
  Invocation.read settings arguments = .ok { command := some command }

/-- The path of the file that a command may write, or nothing. -/
def Command.output : Command → Text
  | lint options => options.output
  | fix options => options.output
  | _ => []

namespace Directory

/-- There is a file at the path, which is read as the text. -/
def Reads (directory : Directory) (path source : Text) : Prop :=
  ∃ content, directory.entryAt path = .ok (.file content) ∧ Utf8.decode content = source

/-- No path is named, or one at which a file can be written. -/
def Writable (directory : Directory) (path : Text) : Prop :=
  path = [] ∨ ∀ content, ∃ after, directory.write path content = .ok after

/-- At all paths that do not lead where one path leads, stands what stood there. -/
def SameBut (after directory : Directory) (path : Text) : Prop :=
  ∀ other, directory.locate other ≠ directory.locate path →
    after.entryAt other = directory.entryAt other

end Directory

/-- The file that is asked for is there, and its text has no issues. -/
def LintOptions.Clean (options : LintOptions) (limits : Limits) (directory : Directory) : Prop :=
  ∃ source, directory.Reads options.file source ∧ analyze limits source = []

/-- The fix is the candidate that is asked for, of the issue that is asked for: their places are
no less than zero, and in the lists. -/
def FixOptions.Chooses (options : FixOptions) (limits : Limits) (source : Text) (fix : Fix) :
    Prop :=
  ∃ place candidate : Nat, options.issue = some (place : Int) ∧
    options.candidate = some (candidate : Int) ∧
    candidateOf? (orderedIssues limits options.sorted source) place candidate = some fix

/-- The text is printed, and nothing is written; or it stands in the file that is named for
it, of which is told. -/
def FixOptions.Emits (options : FixOptions) (directory : Directory) (text : Text)
    (outcome : Outcome) : Prop :=
  (options.output = [] → outcome = .finished 0 (printed text) [] directory) ∧
    (options.output ≠ [] → ∃ after,
      outcome = .finished 0 (printed ("Fixed source saved to: ".toList ++ options.output)) []
          after ∧
        after.entryAt options.output = .ok (.file (Utf8.encode text)))

/-- What comes of a fix. -/
structure FixOptions.Settled (options : FixOptions) (settings : Settings) (directory : Directory)
    (outcome : Outcome) : Prop where
  /-- It ends with zero if the file is there and a candidate is chosen, else with one. -/
  tells : settings.CanLog options.quiet → directory.Writable options.output → outcome.Tells
    (∃ source fix, directory.Reads options.file source ∧
      options.Chooses settings.limits source fix)
  /-- The candidate that is chosen is applied to the text of the file. -/
  emits : settings.CanLog options.quiet → directory.Writable options.output →
    ∀ source fix, directory.Reads options.file source →
      options.Chooses settings.limits source fix →
        options.Emits directory (fix.apply source) outcome
  /-- Where it ends with one nothing is written, and nothing is printed on the standard
  output. -/
  atomic : outcome.exit? = some 1 →
    outcome.directoryAfter directory = directory ∧ outcome.output = []

/-! ## Refusals -/

namespace Outcome.Refused

variable {directory : Directory} {outcome : Outcome}

/-- What is refused ends with one. -/
theorem exit?_eq (h : Refused directory outcome) : outcome.exit? = some 1 := by
  obtain ⟨_, rfl⟩ | ⟨_, rfl⟩ := h <;> rfl

/-- What is refused prints nothing on the standard output. -/
theorem output_eq (h : Refused directory outcome) : outcome.output = [] := by
  obtain ⟨_, rfl⟩ | ⟨_, rfl⟩ := h <;> rfl

/-- What is refused leaves the directory as it was. -/
theorem directoryAfter_eq (h : Refused directory outcome) :
    outcome.directoryAfter directory = directory := by
  obtain ⟨_, rfl⟩ | ⟨_, rfl⟩ := h <;> rfl

end Outcome.Refused

/-- The exit code tells what it was decided by. -/
theorem Outcome.tells_of_exit? {outcome : Outcome} {holds : Prop} {exit : Nat}
    (h : outcome.exit? = some exit) (hzero : exit = 0 ↔ holds) (hone : exit = 1 ↔ ¬ holds) :
    outcome.Tells holds := by
  rw [Tells, h, Option.some.injEq, Option.some.injEq]
  exact ⟨hzero, hone⟩

section Steps

open Outcome

variable {directory : Directory} {path : Text} {outcome : Outcome}

/-- A file is read as one text. -/
theorem Directory.Reads.source_eq {source other : Text} (h : directory.Reads path source)
    (hother : directory.Reads path other) : source = other := by
  obtain ⟨content, hentry, rfl⟩ := h
  obtain ⟨found, hfound, rfl⟩ := hother
  rw [hentry] at hfound
  cases hfound
  rfl

/-- A command goes on with the text of a file that is there. -/
theorem withSource_cases {go : Text → Outcome} (h : withSource directory path go = outcome) :
    (∃ source, directory.Reads path source ∧ go source = outcome) ∨
      (¬ ∃ source, directory.Reads path source) ∧ Refused directory outcome := by
  have hmissing : (∀ content, directory.entryAt path ≠ .ok (.file content)) →
      ¬ ∃ source, directory.Reads path source := by
    intro hnone hsource
    obtain ⟨_, content, hentry, _⟩ := hsource
    exact hnone content hentry
  unfold withSource at h
  subst h
  cases hentry : directory.entryAt path with
  | error error => exact Or.inr ⟨hmissing (by simp [hentry]), Or.inl ⟨_, rfl⟩⟩
  | ok entry =>
      cases entry with
      | file content => exact Or.inl ⟨_, ⟨content, hentry, rfl⟩, rfl⟩
      | directory => exact Or.inr ⟨hmissing (by simp [hentry]), Or.inl ⟨_, rfl⟩⟩
      | nothing => exact Or.inr ⟨hmissing (by simp [hentry]), Or.inr ⟨_, rfl⟩⟩

/-- A command goes on with the item at a place of a list, if it refuses to go on with none, of
which there is none at a place below zero either. -/
theorem withItem_cases {α : Type} {items : List α} {place : Option Int}
    {go : Int → Option α → Outcome} (h : withItem items place go = outcome)
    (hgo : ∀ place, Refused directory (go place none)) :
    (∃ (n : Nat) (item : α), place = some (n : Int) ∧ items[n]? = some item ∧
        go n (some item) = outcome) ∨
      (¬ ∃ (n : Nat) (item : α), place = some (n : Int) ∧ items[n]? = some item) ∧
        Refused directory outcome := by
  unfold withItem at h
  subst h
  cases place with
  | none => exact Or.inr ⟨by simp, Or.inl ⟨_, rfl⟩⟩
  | some place =>
      cases hitem : itemAt? items place with
      | some item =>
          obtain ⟨n, rfl, hn⟩ := itemAt?_eq_some.mp hitem
          exact Or.inl ⟨n, item, rfl, hn, congrArg (go n) hitem.symm⟩
      | none =>
          refine Or.inr ⟨?_, by simpa only [hitem] using hgo place⟩
          intro hlisted
          obtain ⟨n, item, hplace, hn⟩ := hlisted
          rw [itemAt?_eq_some.mpr ⟨n, Option.some.inj hplace, hn⟩] at hitem
          cases hitem

/-- A text is printed, or written where it can be. -/
theorem emit_cases {text saved : Text} {exit : Nat}
    (h : emit directory path text saved exit = outcome) :
    path = [] ∧ outcome = .finished exit (printed text) [] directory ∨
      (path ≠ [] ∧ ∃ after, directory.write path (Utf8.encode text) = .ok after ∧
        outcome = .finished exit (printed (saved ++ path)) [] after) ∨
      ¬ directory.Writable path ∧ Refused directory outcome := by
  unfold emit at h
  by_cases hpath : path = []
  · rw [if_pos (by rw [hpath]; rfl)] at h
    exact Or.inl ⟨hpath, h.symm⟩
  · rw [if_neg (by simpa using hpath)] at h
    cases hwrite : directory.write path (Utf8.encode text) with
    | ok after =>
        rw [hwrite] at h
        exact Or.inr (Or.inl ⟨hpath, after, rfl, h.symm⟩)
    | error error =>
        rw [hwrite] at h
        refine Or.inr (Or.inr ⟨?_, Or.inl ⟨_, h.symm⟩⟩)
        intro hwritable
        obtain hnone | hall := hwritable
        · exact hpath hnone
        · obtain ⟨after, hafter⟩ := hall (Utf8.encode text)
          rw [hwrite] at hafter
          cases hafter

/-- Where a text can be emitted, the command ends as it has decided. -/
theorem exit?_emit (hwritable : directory.Writable path) (text saved : Text) (exit : Nat) :
    (emit directory path text saved exit).exit? = some exit := by
  generalize h : emit directory path text saved exit = outcome
  obtain ⟨_, rfl⟩ | ⟨_, _, _, rfl⟩ | ⟨hnot, _⟩ := emit_cases h
  · rfl
  · rfl
  · exact absurd hwritable hnot

end Steps

/-! ## The commands -/

section Execution

open Outcome

variable {limits : Limits} {run : Run} {directory : Directory} {outcome : Outcome}

/-- A report is refused, or emits a text and ends as the issues say. -/
theorem LintOptions.execute_cases {options : LintOptions}
    (h : options.execute limits run directory = outcome) :
    (∃ source text, directory.Reads options.file source ∧ options.format ≠ none ∧
        emit directory options.output text "Report saved to: ".toList
          (if analyze limits source = [] then 0 else 1) = outcome) ∨
      ¬ (options.format ≠ none ∧ options.Clean limits directory) ∧
        Refused directory outcome := by
  obtain ⟨source, hsource, hgo⟩ | ⟨hnone, hrefused⟩ := withSource_cases h
  · cases hformat : options.format with
    | none =>
        simp only [hformat, Report.exportIn] at hgo
        exact Or.inr ⟨by simp, Or.inl ⟨_, hgo.symm⟩⟩
    | some format =>
        have hissues : (lint limits run options.sorted options.file source).issues.isEmpty = true ↔
            analyze limits source = [] := by
          rw [List.isEmpty_iff_length_eq_zero, ← List.length_eq_zero_iff]
          exact (orderedIssues_perm limits options.sorted source).length_eq.congr_left
        simp only [hformat, Report.exportIn, hissues] at hgo
        exact Or.inl ⟨source, _, hsource, by simp, hgo⟩
  · refine Or.inr ⟨?_, hrefused⟩
    intro hclean
    obtain ⟨_, source, hsource, _⟩ := hclean
    exact hnone ⟨source, hsource⟩

/-- Once the issue is found that is asked for, its candidates decide what is chosen. -/
theorem FixOptions.chooses_iff {options : FixOptions} {source : Text} {fix : Fix} {place : Nat}
    {issue : Issue} (hplace : options.issue = some (place : Int))
    (hissue : (orderedIssues limits options.sorted source)[place]? = some issue) :
    options.Chooses limits source fix ↔
      ∃ candidate : Nat, options.candidate = some (candidate : Int) ∧
        issue.candidates[candidate]? = some fix := by
  constructor
  · intro hchosen
    obtain ⟨n, candidate, hn, hcandidate, hfix⟩ := hchosen
    obtain rfl : place = n := Int.ofNat_inj.mp (Option.some.inj (hplace.symm.trans hn))
    obtain ⟨found, hfound, hlisted⟩ := Option.bind_eq_some_iff.mp hfix
    obtain rfl := Option.some.inj (hissue.symm.trans hfound)
    exact ⟨candidate, hcandidate, hlisted⟩
  · intro hlisted
    obtain ⟨candidate, hcandidate, hfix⟩ := hlisted
    exact ⟨place, candidate, hplace, hcandidate, Option.bind_eq_some_iff.mpr ⟨issue, hissue, hfix⟩⟩

/-- A fix is refused, or emits the text with the candidate that is chosen. -/
theorem FixOptions.execute_cases {options : FixOptions}
    (h : options.execute limits directory = outcome) :
    (∃ source fix, directory.Reads options.file source ∧ options.Chooses limits source fix ∧
        emit directory options.output (fix.apply source) "Fixed source saved to: ".toList 0
          = outcome) ∨
      (¬ ∃ source fix, directory.Reads options.file source ∧ options.Chooses limits source fix) ∧
        Refused directory outcome := by
  obtain ⟨source, hsource, hgo⟩ | ⟨hnone, hrefused⟩ := withSource_cases h
  · have hread : (¬ ∃ fix, options.Chooses limits source fix) →
        ¬ ∃ other fix, directory.Reads options.file other ∧ options.Chooses limits other fix := by
      intro hnone hchosen
      obtain ⟨other, fix, hother, hfix⟩ := hchosen
      obtain rfl := hsource.source_eq hother
      exact hnone ⟨fix, hfix⟩
    obtain ⟨place, issue, hplace, hissue, hissued⟩ | ⟨hnone, hrefused⟩ :=
      withItem_cases hgo fun _ => Or.inr ⟨_, rfl⟩
    · obtain ⟨candidate, fix, hcandidate, hfix, hemit⟩ | ⟨hnone, hrefused⟩ :=
        withItem_cases hissued fun _ => Or.inr ⟨_, rfl⟩
      · have hchosen : options.Chooses limits source fix :=
          (chooses_iff hplace hissue).mpr ⟨candidate, hcandidate, hfix⟩
        exact Or.inl ⟨source, fix, hsource, hchosen, hemit⟩
      · refine Or.inr ⟨hread ?_, hrefused⟩
        intro hchosen
        obtain ⟨fix, hfix⟩ := hchosen
        obtain ⟨candidate, hcandidate, hlisted⟩ := (chooses_iff hplace hissue).mp hfix
        exact hnone ⟨candidate, fix, hcandidate, hlisted⟩
    · refine Or.inr ⟨hread ?_, hrefused⟩
      intro hchosen
      obtain ⟨fix, n, candidate, hn, _, hfix⟩ := hchosen
      obtain ⟨found, hfound, _⟩ := Option.bind_eq_some_iff.mp hfix
      exact hnone ⟨n, found, hn, hfound⟩
  · refine Or.inr ⟨?_, hrefused⟩
    intro hchosen
    obtain ⟨source, _, hsource, _⟩ := hchosen
    exact hnone ⟨source, hsource⟩

/-- A file is printed, or refused. -/
theorem Command.sanitize_cases {file : Text}
    (h : (Command.sanitize file).execute limits run directory = outcome) :
    (∃ source, outcome = .finished 0 (printed (Flowchart.sanitize source)) [] directory) ∨
      Refused directory outcome := by
  rw [Command.execute] at h
  obtain ⟨source, _, hgo⟩ | ⟨_, hrefused⟩ := withSource_cases h
  · exact Or.inl ⟨source, hgo.symm⟩
  · exact Or.inr hrefused

/-! ## Exit codes -/

/-- A report ends with zero just where the file is there, its text has no issues, and a format
was given. -/
theorem LintOptions.tells {options : LintOptions} (hwritable : directory.Writable options.output) :
    (options.execute limits run directory).Tells
      (options.format ≠ none ∧ options.Clean limits directory) := by
  generalize h : options.execute limits run directory = outcome
  obtain ⟨source, text, hsource, hformat, hemit⟩ | ⟨hnot, hrefused⟩ := LintOptions.execute_cases h
  · have hclean : options.Clean limits directory ↔ analyze limits source = [] := by
      constructor
      · intro hclean
        obtain ⟨other, hother, hissues⟩ := hclean
        rwa [hsource.source_eq hother]
      · intro hissues
        exact ⟨source, hsource, hissues⟩
    have hexit := exit?_emit hwritable text "Report saved to: ".toList
      (if analyze limits source = [] then 0 else 1)
    rw [hemit] at hexit
    refine tells_of_exit? hexit ?_ ?_ <;> simp [hformat, hclean]
  · exact tells_of_exit? hrefused.exit?_eq (by simpa using hnot) (by simpa using hnot)

/-- A fix ends with zero just where the file is there and a candidate of it is chosen. -/
theorem FixOptions.tells {options : FixOptions} (hwritable : directory.Writable options.output) :
    (options.execute limits directory).Tells
      (∃ source fix, directory.Reads options.file source ∧ options.Chooses limits source fix) := by
  generalize h : options.execute limits directory = outcome
  obtain ⟨source, fix, hsource, hchosen, hemit⟩ | ⟨hnone, hrefused⟩ := FixOptions.execute_cases h
  · have hexit := exit?_emit hwritable (fix.apply source) "Fixed source saved to: ".toList 0
    rw [hemit] at hexit
    exact tells_of_exit? hexit (by simpa using ⟨source, hsource, fix, hchosen⟩)
      (by simpa using ⟨source, hsource, fix, hchosen⟩)
  · exact tells_of_exit? hrefused.exit?_eq (by simpa using hnone) (by simpa using hnone)

/-! ## What is written -/

/-- One candidate is chosen at most. -/
theorem FixOptions.Chooses.fix_eq {options : FixOptions} {source : Text} {fix other : Fix}
    (h : options.Chooses limits source fix) (hother : options.Chooses limits source other) :
    fix = other := by
  obtain ⟨place, candidate, hplace, hcandidate, hfix⟩ := h
  obtain ⟨n, m, hn, hm, hlisted⟩ := hother
  obtain rfl : place = n := Int.ofNat_inj.mp (Option.some.inj (hplace.symm.trans hn))
  obtain rfl : candidate = m := Int.ofNat_inj.mp (Option.some.inj (hcandidate.symm.trans hm))
  exact Option.some.inj (hfix.symm.trans hlisted)

/-- A candidate that is chosen is applied, and the text is emitted. -/
theorem FixOptions.emits {options : FixOptions} (hwritable : directory.Writable options.output)
    {source : Text} {fix : Fix} (hsource : directory.Reads options.file source)
    (hchosen : options.Chooses limits source fix) :
    options.Emits directory (fix.apply source) (options.execute limits directory) := by
  generalize h : options.execute limits directory = outcome
  obtain ⟨other, found, hother, hfound, hemit⟩ | ⟨hnone, _⟩ := FixOptions.execute_cases h
  · obtain rfl := hsource.source_eq hother
    obtain rfl := hchosen.fix_eq hfound
    obtain ⟨hpath, houtcome⟩ | ⟨hpath, after, hwrite, houtcome⟩ | ⟨hnot, _⟩ := emit_cases hemit
    · refine ⟨?_, absurd hpath⟩
      intro _
      exact houtcome
    · refine ⟨fun hnone => absurd hnone hpath, ?_⟩
      intro _
      exact ⟨after, houtcome, Directory.entryAt_of_write hwrite⟩
    · exact absurd hwritable hnot
  · exact absurd ⟨source, fix, hsource, hchosen⟩ hnone

/-- A fix that ends with one was refused. -/
theorem FixOptions.refused {options : FixOptions}
    (h : options.execute limits directory = outcome) (hexit : outcome.exit? = some 1) :
    Refused directory outcome := by
  obtain ⟨_, _, _, _, hemit⟩ | ⟨_, hrefused⟩ := FixOptions.execute_cases h
  · obtain ⟨_, rfl⟩ | ⟨_, _, _, rfl⟩ | ⟨_, hrefused⟩ := emit_cases hemit
    · cases hexit
    · cases hexit
    · exact hrefused
  · exact hrefused

/-- Nothing is written, or at most the file at the path is changed. -/
def Outcome.Frames (directory : Directory) (path : Text) (outcome : Outcome) : Prop :=
  outcome.directoryAfter directory = directory ∨
    path ≠ [] ∧ (outcome.directoryAfter directory).SameBut directory path

/-- To emit a text changes at most the file at the path. -/
theorem frames_emit {path text saved : Text} {exit : Nat}
    (h : emit directory path text saved exit = outcome) : outcome.Frames directory path := by
  obtain ⟨_, rfl⟩ | ⟨hpath, after, hwrite, rfl⟩ | ⟨_, hrefused⟩ := emit_cases h
  · exact Or.inl rfl
  · refine Or.inr ⟨hpath, ?_⟩
    intro other hne
    exact Directory.entryAt_of_write_of_ne hwrite hne
  · exact Or.inl hrefused.directoryAfter_eq

/-- A command writes the file that is named for its output, and no other. -/
theorem Command.frames (command : Command) :
    (command.execute limits run directory).Frames directory command.output := by
  generalize h : command.execute limits run directory = outcome
  cases command with
  | lint options =>
      obtain ⟨_, _, _, _, hemit⟩ | ⟨_, hrefused⟩ := LintOptions.execute_cases h
      · exact frames_emit hemit
      · exact Or.inl hrefused.directoryAfter_eq
  | fix options =>
      obtain ⟨_, _, _, _, hemit⟩ | ⟨_, hrefused⟩ := FixOptions.execute_cases h
      · exact frames_emit hemit
      · exact Or.inl hrefused.directoryAfter_eq
  | sanitize file =>
      obtain ⟨_, rfl⟩ | hrefused := Command.sanitize_cases h
      · exact Or.inl rfl
      · exact Or.inl hrefused.directoryAfter_eq
  | serve options =>
      subst h
      exact Or.inl rfl

end Execution

/-- Where no command is begun, nothing is written. -/
theorem execute_cases (settings : Settings) (run : Run) (directory : Directory)
    (arguments : List Text) :
    (∃ command, Asks settings arguments command ∧ settings.CanLog command.quiet) ∨
      (execute settings run directory arguments).directoryAfter directory = directory := by
  cases hread : Invocation.read settings arguments with
  | error refusal =>
      rw [execute, hread]
      cases refusal with
      | help => exact Or.inr rfl
      | misuse => exact Or.inr rfl
  | ok invocation =>
      obtain ⟨showVersion, command⟩ := invocation
      cases showVersion with
      | true =>
          rw [execute, hread]
          exact Or.inr rfl
      | false =>
          cases command with
          | none =>
              rw [execute, hread]
              simp only [Bool.false_eq_true, if_false]
              cases settings.logging _ with
              | error error => exact Or.inr rfl
              | ok logging => exact Or.inr rfl
          | some command =>
              by_cases hlog : settings.CanLog command.quiet
              · exact Or.inl ⟨command, hread, hlog⟩
              · obtain ⟨error, hfailed⟩ := execute_of_not_canLog hread hlog run directory
                rw [hfailed]
                exact Or.inr rfl

/-- **Commands are atomic, and their exit codes tell the truth.** With logging set up, a report
ends with zero exactly if the file is there and its text has no issues, provided a format was
given, and else with one.  A fix ends with zero exactly if the file is there and both places are
in their lists, and then the text with that candidate is its output.  Whether logging is set up
or not, where a fix ends with one nothing is written, and nothing is printed but an error; and
whatever a command line asks for, no file is changed but the one that is named for the output. -/
theorem commands_atomic (settings : Settings) (run : Run) (directory : Directory)
    (arguments : List Text) :
    (∀ options, Asks settings arguments (.lint options) → settings.CanLog options.quiet →
        directory.Writable options.output →
          (execute settings run directory arguments).Tells
            (options.format ≠ none ∧ options.Clean settings.limits directory)) ∧
      (∀ options, Asks settings arguments (.fix options) →
        options.Settled settings directory (execute settings run directory arguments)) ∧
      ((execute settings run directory arguments).directoryAfter directory = directory ∨
        ∃ command, Asks settings arguments command ∧ command.output ≠ [] ∧
          ((execute settings run directory arguments).directoryAfter directory).SameBut directory
            command.output) := by
  refine ⟨?_, ?_, ?_⟩
  · intro options hasks hlog hwritable
    rw [execute_of_read hasks hlog]
    exact LintOptions.tells hwritable
  · intro options hasks
    have hbegun : ∀ hlog : settings.CanLog options.quiet,
        execute settings run directory arguments = options.execute settings.limits directory :=
      fun hlog => execute_of_read hasks hlog run directory
    refine ⟨?_, ?_, ?_⟩
    · intro hlog hwritable
      rw [hbegun hlog]
      exact FixOptions.tells hwritable
    · intro hlog hwritable source fix hsource hchosen
      rw [hbegun hlog]
      exact FixOptions.emits hwritable hsource hchosen
    · intro hexit
      have hrefused : (execute settings run directory arguments).Refused directory := by
        by_cases hlog : settings.CanLog options.quiet
        · exact FixOptions.refused (hbegun hlog).symm hexit
        · exact Or.inl (execute_of_not_canLog hasks hlog run directory)
      exact ⟨hrefused.directoryAfter_eq, hrefused.output_eq⟩
  · obtain ⟨command, hasks, hlog⟩ | hsame := execute_cases settings run directory arguments
    · have hframes : (command.execute settings.limits run directory).Frames directory
          command.output := command.frames
      rw [execute_of_read hasks hlog]
      obtain hsame | ⟨houtput, hothers⟩ := hframes
      · exact Or.inl hsame
      · exact Or.inr ⟨command, hasks, houtput, hothers⟩
    · exact Or.inl hsame

section Examples

/-- A file that is there is read as the text that it was made from. -/
theorem reads_ofList (source : Text) :
    (Directory.ofList [("flow.mmd".toList, Utf8.encode source)]).Reads
      "flow.mmd".toList source := by
  have hentry : ∀ content, (Directory.ofList [("flow.mmd".toList, content)]).entryAt
      "flow.mmd".toList = .ok (.file content) := by
    intro content
    cbv
  exact ⟨_, hentry _, Utf8.decode_encode source⟩

/-- A second file can be written beside it. -/
theorem writable_ofList (source : Text) :
    (Directory.ofList [("flow.mmd".toList, Utf8.encode source)]).Writable "new.mmd".toList := by
  have hwrite : ∀ old content, (Directory.ofList [("flow.mmd".toList, old)]).write
      "new.mmd".toList content
        = .ok ((Directory.ofList [("flow.mmd".toList, old)]).put ["new.mmd".toList] content) := by
    intro old content
    cbv
  exact Or.inr fun content => ⟨_, hwrite _ content⟩

/-- With a stray header and a stray reference in the one file, a fix of the header goes to
another file and leaves the first alone, a report ends with one, and a fix of the issue before
the first leaves everything as it was. -/
theorem commands_atomic_stray :
    ∃ after,
      execute {} strayRun strayDirectory
          ["fix".toList, "flow.mmd".toList, "--sorted".toList, "--issue".toList, "1".toList,
            "--candidate=2".toList, "-o".toList, "new.mmd".toList]
        = .finished 0 "Fixed source saved to: new.mmd\n".toList [] after ∧
      after.entryAt "new.mmd".toList = .ok (.file (Utf8.encode (strayFix.apply strayText))) ∧
      after.entryAt "flow.mmd".toList = strayDirectory.entryAt "flow.mmd".toList ∧
      (execute {} strayRun strayDirectory ["lint".toList, "flow.mmd".toList]).exit? = some 1 ∧
      (execute {} strayRun strayDirectory
          ["fix".toList, "flow.mmd".toList, "--issue=-1".toList]).directoryAfter strayDirectory
        = strayDirectory := by
  have hreads : strayDirectory.Reads "flow.mmd".toList strayText := reads_ofList strayText
  have hwritable : strayDirectory.Writable "new.mmd".toList := writable_ofList strayText
  have hfix : Asks {} ["fix".toList, "flow.mmd".toList, "--sorted".toList, "--issue".toList,
      "1".toList, "--candidate=2".toList, "-o".toList, "new.mmd".toList]
      (.fix { file := "flow.mmd".toList, issue := some 1, sorted := true, candidate := some 2,
              output := "new.mmd".toList }) :=
    read_eq_ok (by decide +kernel)
  have hlint : Asks {} ["lint".toList, "flow.mmd".toList] (.lint { file := "flow.mmd".toList }) :=
    read_eq_ok (by decide +kernel)
  have hnegative : Asks {} ["fix".toList, "flow.mmd".toList, "--issue=-1".toList]
      (.fix { file := "flow.mmd".toList, issue := some (-1) }) :=
    read_eq_ok (by decide +kernel)
  obtain ⟨_, hfixed, hframe⟩ := commands_atomic {} strayRun strayDirectory
    ["fix".toList, "flow.mmd".toList, "--sorted".toList, "--issue".toList, "1".toList,
      "--candidate=2".toList, "-o".toList, "new.mmd".toList]
  obtain ⟨hlinted, _, _⟩ := commands_atomic {} strayRun strayDirectory
    ["lint".toList, "flow.mmd".toList]
  obtain ⟨_, hrefused, _⟩ := commands_atomic {} strayRun strayDirectory
    ["fix".toList, "flow.mmd".toList, "--issue=-1".toList]
  have hlog : ∀ quiet, ({} : Settings).CanLog quiet := canLog_default
  obtain ⟨after, houtcome, hwritten⟩ := ((hfixed _ hfix).emits (hlog _) hwritable strayText
    strayFix hreads ⟨1, 2, rfl, rfl, candidateOf?_stray⟩).2 (by decide)
  refine ⟨after, houtcome, hwritten, ?_, ?_, ?_⟩
  · rw [houtcome] at hframe
    obtain hsame | ⟨command, hasks, _, hother⟩ := hframe
    · exact congrArg (Directory.entryAt · "flow.mmd".toList) hsame
    · have hcommand := Except.ok.inj (hasks.symm.trans hfix)
      obtain rfl := Option.some.inj (Invocation.mk.inj hcommand).2
      have hflow : strayDirectory.locate "flow.mmd".toList = .ok ["flow.mmd".toList] := rfl
      have hnew : strayDirectory.locate "new.mmd".toList = .ok ["new.mmd".toList] := rfl
      refine hother "flow.mmd".toList ?_
      show strayDirectory.locate "flow.mmd".toList ≠ strayDirectory.locate "new.mmd".toList
      rw [hflow, hnew]
      decide
  · refine (hlinted _ hlint (hlog _) (Or.inl rfl)).2.mpr ?_
    intro hclean
    obtain ⟨_, source, hsource, hissues⟩ := hclean
    have hlength : (analyze {} strayText).length = 2 := by decide
    rw [hreads.source_eq hsource, hissues] at hlength
    cases hlength
  · have hnone : (execute {} strayRun strayDirectory
        ["fix".toList, "flow.mmd".toList, "--issue=-1".toList]).exit? = some 1 := by
      refine ((hrefused _ hnegative).tells (hlog _) (Or.inl rfl)).2.mpr ?_
      intro hchosen
      obtain ⟨_, _, _, place, _, hplace, _⟩ := hchosen
      have hnatural : (-1 : Int) = place := Option.some.inj hplace
      omega
    exact ((hrefused _ hnegative).atomic hnone).1

/-- A directory with one file, which has no issues. -/
def cleanDirectory : Directory :=
  .ofList [("flow.mmd".toList, Utf8.encode "graph TD".toList)]

/-- Settings with a level that has no name. -/
def verboseSettings : Settings :=
  { logLevel := "verbose".toList }

/-- Three command lines for a report do not end as the issues say: without a format, to which the
two hyphens amount, the report on a clean file is refused; so it is where the level of log lines
has no name, unless all is quiet; and where the version is asked for, a file that is not there is
not missed. -/
theorem lint_exit?_strange :
    (∃ options,
      Invocation.read {} ["lint".toList, "flow.mmd".toList, "--format=--".toList]
        = .ok { command := some (.lint options) } ∧
      cleanDirectory.Writable options.output ∧ options.Clean {} cleanDirectory ∧
      (execute {} strayRun cleanDirectory
        ["lint".toList, "flow.mmd".toList, "--format=--".toList]).exit? = some 1) ∧
    (∃ options,
      Invocation.read verboseSettings ["lint".toList, "flow.mmd".toList]
        = .ok { command := some (.lint options) } ∧
      cleanDirectory.Writable options.output ∧ options.Clean {} cleanDirectory ∧
      (execute verboseSettings strayRun cleanDirectory
        ["lint".toList, "flow.mmd".toList]).exit? = some 1 ∧
      (execute verboseSettings strayRun cleanDirectory
        ["lint".toList, "flow.mmd".toList, "-q".toList]).exit? = some 0) ∧
    ∃ options,
      Invocation.read {} ["--version".toList, "lint".toList, "gone.mmd".toList]
        = .ok { showVersion := true, command := some (.lint options) } ∧
      cleanDirectory.Writable options.output ∧ ¬ options.Clean {} cleanDirectory ∧
      (execute {} strayRun cleanDirectory
        ["--version".toList, "lint".toList, "gone.mmd".toList]).exit? = some 0 := by
  have hclean : analyze {} "graph TD".toList = [] := by decide
  have hreads : cleanDirectory.Reads "flow.mmd".toList "graph TD".toList := reads_ofList _
  have hformat : Invocation.read {} ["lint".toList, "flow.mmd".toList, "--format=--".toList]
      = .ok { command := some (.lint { file := "flow.mmd".toList, format := none }) } :=
    read_eq_ok (by decide +kernel)
  have hloud : Invocation.read verboseSettings ["lint".toList, "flow.mmd".toList]
      = .ok { command := some (.lint { file := "flow.mmd".toList }) } :=
    read_eq_ok (by decide +kernel)
  have hquiet : Invocation.read verboseSettings ["lint".toList, "flow.mmd".toList, "-q".toList]
      = .ok { command := some (.lint { file := "flow.mmd".toList, quiet := true }) } :=
    read_eq_ok (by decide +kernel)
  have hversion : Invocation.read {} ["--version".toList, "lint".toList, "gone.mmd".toList]
      = .ok { showVersion := true, command := some (.lint { file := "gone.mmd".toList }) } :=
    read_eq_ok (by decide +kernel)
  refine ⟨⟨_, hformat, Or.inl rfl, ⟨_, hreads, hclean⟩, ?_⟩,
    ⟨_, hloud, Or.inl rfl, ⟨_, hreads, hclean⟩, ?_, ?_⟩, ⟨_, hversion, Or.inl rfl, ?_, ?_⟩⟩
  · have htells : (LintOptions.execute { file := "flow.mmd".toList, format := none } {} strayRun
        cleanDirectory).Tells _ := LintOptions.tells (Or.inl rfl)
    rw [execute_of_read hformat (canLog_default _)]
    exact htells.2.mpr fun hgiven => hgiven.1 rfl
  · rw [execute, hloud]
    rfl
  · have htells : (LintOptions.execute { file := "flow.mmd".toList, quiet := true } {} strayRun
        cleanDirectory).Tells _ := LintOptions.tells (Or.inl rfl)
    rw [execute_of_read hquiet (Or.inl rfl)]
    exact htells.1.mpr ⟨by decide, _, hreads, hclean⟩
  · intro hthere
    obtain ⟨source, ⟨content, hentry, _⟩, _⟩ := hthere
    have hgone : ∀ old, (Directory.ofList [("flow.mmd".toList, old)]).entryAt "gone.mmd".toList
        = .ok .nothing := by
      intro old
      cbv
    rw [cleanDirectory, hgone] at hentry
    cases hentry
  · rw [execute, hversion]
    rfl

end Examples

end Flowchart
