import Conch.Front.Shell
import Conch.Proofs.Capture
import Conch.Proofs.Flattening
import Conch.Proofs.Interrupts

/-!
Scripts and startup files. Both are evaluated line by line; a script ends with the first line that
fails or ends the shell, and a startup file with the first that ends the shell.

* `mem_scriptLines_iff`: which lines of a file are evaluated, with their numbers.
* `runScriptLines_eq`, `runStartupLines_eq`: what is evaluated is the course of a script and of a
  startup file.
* `script_and_startup`: both, side by side.
-/

namespace Conch.Front

/-! ### Lines -/

/-- A segment of a text between two newlines, or an end of the text, with the number of newlines
before it. -/
def IsSegment (content : Text) (index : Nat) (segment : Text) : Prop :=
  ∃ before after, content = before ++ segment ++ after ∧ '\n' ∉ segment ∧
    (before = [] ∨ before.getLast? = some '\n') ∧ (after = [] ∨ after.head? = some '\n') ∧
    before.count '\n' = index

/-- A segment goes as far as the first newline. -/
theorem takeWhile_segment {segment after : Text} (hsegment : '\n' ∉ segment)
    (hafter : after = [] ∨ after.head? = some '\n') :
    (segment ++ after).takeWhile (· != '\n') = segment := by
  have hall : ∀ c ∈ segment, (c != '\n') = true := by
    intro c hc
    have hne : c ≠ '\n' := fun heq => hsegment (heq ▸ hc)
    simpa using hne
  have hnone : after.takeWhile (· != '\n') = [] := by
    rcases hafter with rfl | hhead
    · rfl
    · obtain ⟨rest, rfl⟩ := List.head?_eq_some_iff.mp hhead
      rfl
  rw [List.takeWhile_append_of_pos hall, hnone, List.append_nil]

/-- The only segment of a line is the line. -/
theorem isSegment_line_iff {line segment : Text} {index : Nat} (h : '\n' ∉ line) :
    IsSegment line index segment ↔ index = 0 ∧ segment = line := by
  constructor
  · rintro ⟨before, after, rfl, -, hbefore, hafter, rfl⟩
    simp only [List.mem_append, not_or] at h
    have hempty : before = [] := hbefore.resolve_right fun hlast =>
      h.1.1 (List.mem_of_mem_getLast? hlast)
    have hrest : after = [] := hafter.resolve_right fun hhead =>
      h.2 (List.mem_of_mem_head? hhead)
    subst hempty hrest
    exact ⟨rfl, by simp⟩
  · rintro ⟨rfl, rfl⟩
    exact ⟨[], [], by simp, h, .inl rfl, .inl rfl, rfl⟩

/-- The first segment of a text with a newline is its first line. -/
theorem isSegment_zero_iff {line rest segment : Text} (h : '\n' ∉ line) :
    IsSegment (line ++ '\n' :: rest) 0 segment ↔ segment = line := by
  constructor
  · rintro ⟨before, after, hcontent, hsegment, hbefore, hafter, hcount⟩
    have hempty : before = [] := hbefore.resolve_right fun hlast =>
      List.count_eq_zero.mp hcount (List.mem_of_mem_getLast? hlast)
    subst hempty
    rw [← takeWhile_segment h (.inr rfl : '\n' :: rest = [] ∨ _), hcontent]
    exact (takeWhile_segment hsegment hafter).symm
  · rintro rfl
    exact ⟨[], '\n' :: rest, rfl, h, .inl rfl, .inr rfl, rfl⟩

/-- The other segments are those of the text behind the first line. -/
theorem isSegment_succ_iff {line rest segment : Text} {index : Nat} (h : '\n' ∉ line) :
    IsSegment (line ++ '\n' :: rest) (index + 1) segment ↔ IsSegment rest index segment := by
  constructor
  · rintro ⟨before, after, hcontent, hsegment, hbefore, hafter, hcount⟩
    have hmem : '\n' ∈ before := List.count_pos_iff.mp (by omega)
    obtain ⟨first, more, rfl, hfirst⟩ := List.eq_append_cons_of_mem hmem
    have hline : line = first := by
      rw [← takeWhile_segment h (.inr rfl : '\n' :: rest = [] ∨ _), hcontent, List.append_assoc,
        List.append_assoc]
      exact takeWhile_segment hfirst (.inr rfl)
    subst hline
    simp only [List.append_assoc, List.cons_append, List.append_cancel_left_eq,
      List.cons.injEq, true_and] at hcontent
    refine ⟨more, after, by rw [hcontent, List.append_assoc], hsegment, ?_, hafter, ?_⟩
    · refine or_iff_not_imp_left.mpr fun hmore => ?_
      have hlast := hbefore.resolve_left (by simp)
      rwa [List.getLast?_append_of_ne_nil _ (List.cons_ne_nil _ _),
        List.getLast?_cons_of_ne_nil hmore] at hlast
    · simpa [List.count_eq_zero.mpr hfirst] using hcount
  · rintro ⟨before, after, rfl, hsegment, hbefore, hafter, rfl⟩
    refine ⟨line ++ '\n' :: before, after, by simp, hsegment, .inr ?_, hafter, ?_⟩
    · rcases hbefore with rfl | hlast
      · simp
      · simp [List.getLast?_cons, hlast]
    · simp [List.count_eq_zero.mpr h]

/-- **Newlines cut a text into its segments.** -/
theorem getElem?_splitOnP_newline {content segment : Text} {index : Nat} :
    (content.splitOnP (· == '\n'))[index]? = some segment ↔ IsSegment content index segment := by
  induction index generalizing content with
  | zero =>
      by_cases hmem : '\n' ∈ content
      · obtain ⟨line, rest, rfl, hline⟩ := List.eq_append_cons_of_mem hmem
        rw [Text.splitOnP_append_mark hline, isSegment_zero_iff hline]
        simp [eq_comm]
      · rw [Text.splitOnP_of_not_mem hmem, isSegment_line_iff hmem]
        simp [eq_comm]
  | succ index ih =>
      by_cases hmem : '\n' ∈ content
      · obtain ⟨line, rest, rfl, hline⟩ := List.eq_append_cons_of_mem hmem
        rw [Text.splitOnP_append_mark hline, isSegment_succ_iff hline, ← ih]
        rfl
      · rw [Text.splitOnP_of_not_mem hmem, isSegment_line_iff hmem]
        simp

/-- A line that is evaluated: not blank, and no comment. -/
def isCommandLine (line : Text) : Bool := !line.isEmpty && line.head? != some '#'

theorem trim_withoutReturn (line : Text) :
    Text.trim (Text.withoutReturn line) = Text.trim line := by
  rcases Text.withoutReturn_cases line with hline | hline
  · rw [← hline]
  · have hpads : Text.Pads line (Text.withoutReturn line) := by
      refine ⟨[], ['\r'], nofun, ?_, hline⟩
      simp [Text.isBlank, Text.blankRanges]
    exact hpads.trim_eq.symm

theorem lines_of_splitOnP {content last : Text} {ended : List Text}
    (h : content.splitOnP (· == '\n') = ended ++ [last]) :
    Text.lines content =
      ended.map Text.withoutReturn ++ if last.isEmpty then [] else [last] := by
  rw [Text.lines, h, List.reverse_append, List.reverse_singleton, List.singleton_append]
  simp only [List.reverse_reverse]
  split_ifs
  · rw [List.append_nil]
    rfl
  · rfl

theorem mapIdx_map {α β γ : Type} (f : Nat → β → γ) (g : α → β) (list : List α) :
    (list.map g).mapIdx f = list.mapIdx fun index item => f index (g item) := by
  refine List.ext_getElem? fun index => ?_
  rw [List.getElem?_mapIdx, List.getElem?_mapIdx, List.getElem?_map, Option.map_map]
  rfl

/-- The lines that are evaluated, by the newlines alone: a carriage return is trimmed like other
blanks, and so is an empty end of the text left out. -/
theorem scriptLines_eq (content : Text) :
    scriptLines content =
      ((content.splitOnP (· == '\n')).mapIdx fun index segment =>
        (index + 1, Text.trim segment)).filter (isCommandLine ·.2) := by
  have hparts := (List.dropLast_append_getLast (List.splitOnP_ne_nil (· == '\n') content)).symm
  generalize hended : (content.splitOnP (· == '\n')).dropLast = ended at hparts
  generalize hlast : (content.splitOnP (· == '\n')).getLast _ = last at hparts
  have hkeep : (fun entry : Nat × Text => !entry.2.isEmpty && entry.2.head? != some '#') =
      (isCommandLine ·.2) := rfl
  have hended : (ended.map Text.withoutReturn).mapIdx
      (fun index line => (index + 1, Text.trim line)) =
      ended.mapIdx fun index line => (index + 1, Text.trim line) := by
    rw [mapIdx_map]
    simp only [trim_withoutReturn]
  rw [scriptLines, lines_of_splitOnP hparts, hparts, List.mapIdx_append, List.mapIdx_append, hended,
    List.filter_append, List.filter_append]
  congr 1
  split_ifs with hempty
  · rw [List.isEmpty_iff.mp hempty]
    rfl
  · rw [List.length_map]
    rfl

/-- **The lines that are evaluated** are the segments that are neither blank nor comments, trimmed,
and their numbers count the newlines before them. -/
theorem mem_scriptLines_iff {content line : Text} {number : Nat} :
    (number, line) ∈ scriptLines content ↔
      ∃ index segment, IsSegment content index segment ∧ number = index + 1 ∧
        line = Text.trim segment ∧ line ≠ [] ∧ line.head? ≠ some '#' := by
  have hcommand : isCommandLine line = true ↔ line ≠ [] ∧ line.head? ≠ some '#' := by
    simp [isCommandLine]
  rw [scriptLines_eq, List.mem_filter, hcommand, List.mem_iff_getElem?]
  simp only [List.getElem?_mapIdx, Option.map_eq_some_iff, getElem?_splitOnP_newline,
    Prod.mk.injEq]
  constructor
  · rintro ⟨⟨index, segment, hsegment, hnumber, hline⟩, hkept⟩
    exact ⟨index, segment, hsegment, hnumber.symm, hline.symm, hkept⟩
  · rintro ⟨index, segment, hsegment, hnumber, hline, hkept⟩
    exact ⟨⟨index, segment, hsegment, hnumber.symm, hline.symm⟩, hkept⟩

theorem ascending_scriptLines (content : Text) :
    (scriptLines content).Pairwise fun a b => a.1 < b.1 := by
  rw [scriptLines_eq]
  refine List.Pairwise.filter _ (List.pairwise_iff_getElem.mpr fun i j _ _ hless => ?_)
  simpa using hless

/-! ### Courses -/

/-- A line that has been evaluated, with its number. -/
structure Evaluated where
  number : Nat
  line : Text
  run : Finished (Except ShellError Flow)

namespace Evaluated

/-- What was evaluated. -/
def entry (e : Evaluated) : Nat × Text := (e.number, e.line)

/-- The line failed. -/
def fails (e : Evaluated) : Bool :=
  match e.run.outcome with
  | .done (.error _) => true
  | _ => false

/-- The line ended the shell. -/
def exits (e : Evaluated) : Bool :=
  match e.run.outcome with
  | .done (.ok .exit) => true
  | _ => false

/-- The line is not finished within the depth to which the shell nests evaluations. -/
def isUnfinished (e : Evaluated) : Bool :=
  match e.run.outcome with
  | .unfinished => true
  | _ => false

/-- Nothing is evaluated behind the line in a script. -/
def stopsScript (e : Evaluated) : Bool := e.fails || e.exits || e.isUnfinished

/-- Nothing is evaluated behind the line in a startup file. -/
def stopsStartup (e : Evaluated) : Bool := e.exits || e.isUnfinished

/-- What is written about a line that failed, which names the file and the line. -/
def report (label path : Text) (e : Evaluated) : Trace :=
  match e.run.outcome with
  | .done (.error error) =>
    [.shown 2 (Text.utf8 (label ++ ": " ++ path ++ " line " ++ Text.ofNat e.number ++ ": " ++
      error.message) ++ [10])]
  | _ => []

end Evaluated

/-- Lines evaluated one after another: each begins in the session in which the one before it
ended. -/
def IsCourse : Session → List Evaluated → Prop
  | _, [] => True
  | s, e :: rest => e.run = evaluateLine e.line s ∧ IsCourse e.run.session rest

/-- Where a course ends. -/
def endOf (s : Session) (course : List Evaluated) : Session :=
  (course.getLast?.map (·.run.session)).getD s

/-- What a course leaves in the trace, with a report behind each line that failed. -/
def reported (label path : Text) (course : List Evaluated) : Trace :=
  course.flatMap fun e => e.run.trace ++ e.report label path

/-- Lines evaluated from the first on, up to and including the first that stops. -/
structure RunsUpTo (stops : Evaluated → Bool) (s : Session) (lines : List (Nat × Text))
    (course : List Evaluated) : Prop where
  isCourse : IsCourse s course
  isStart : course.map Evaluated.entry <+: lines
  goesOn : ∀ e ∈ course.dropLast, stops e = false
  ends : course.map Evaluated.entry = lines ∨ ∃ e ∈ course.getLast?, stops e = true

/-- The course of lines up to the first that stops. -/
def courseUpTo (stops : Evaluated → Bool) : List (Nat × Text) → Session → List Evaluated
  | [], _ => []
  | (number, line) :: rest, s =>
    let e : Evaluated := ⟨number, line, evaluateLine line s⟩
    e :: if stops e then [] else courseUpTo stops rest e.run.session

theorem runsUpTo_courseUpTo (stops : Evaluated → Bool) (lines : List (Nat × Text)) (s : Session) :
    RunsUpTo stops s lines (courseUpTo stops lines s) := by
  induction lines generalizing s with
  | nil => exact ⟨trivial, List.prefix_rfl, nofun, .inl rfl⟩
  | cons first rest ih =>
      obtain ⟨number, line⟩ := first
      rw [courseUpTo]
      cases hstops : stops ⟨number, line, evaluateLine line s⟩ with
      | true =>
          rw [if_pos rfl]
          refine ⟨⟨rfl, trivial⟩, ?_, nofun, .inr ⟨_, rfl, hstops⟩⟩
          exact List.cons_prefix_cons.mpr ⟨rfl, List.nil_prefix⟩
      | false =>
          rw [if_neg nofun]
          have hrest := ih (evaluateLine line s).session
          generalize courseUpTo stops rest (evaluateLine line s).session = course at hrest ⊢
          refine ⟨⟨rfl, hrest.isCourse⟩, List.cons_prefix_cons.mpr ⟨rfl, hrest.isStart⟩, ?_, ?_⟩
          · cases course with
            | nil => exact nofun
            | cons next course => exact List.forall_mem_cons.mpr ⟨hstops, hrest.goesOn⟩
          · refine hrest.ends.imp (congrArg (List.cons _)) ?_
            rintro ⟨e, he, hstop⟩
            exact ⟨e, List.mem_getLast?_cons he, hstop⟩

theorem courseUpTo_prefix {stops stops' : Evaluated → Bool}
    (h : ∀ e, stops' e = true → stops e = true) (lines : List (Nat × Text)) (s : Session) :
    courseUpTo stops lines s <+: courseUpTo stops' lines s := by
  induction lines generalizing s with
  | nil => exact List.prefix_rfl
  | cons first rest ih =>
      obtain ⟨number, line⟩ := first
      rw [courseUpTo, courseUpTo]
      refine List.cons_prefix_cons.mpr ⟨rfl, ?_⟩
      cases hstops : stops ⟨number, line, evaluateLine line s⟩ with
      | true =>
          rw [if_pos rfl]
          exact List.nil_prefix
      | false =>
          have hgoes : stops' ⟨number, line, evaluateLine line s⟩ = false :=
            Bool.eq_false_iff.mpr fun hstop => by rw [h _ hstop] at hstops; cases hstops
          rw [if_neg nofun, hgoes, if_neg nofun]
          exact ih _

/-! ### Runs -/

/-- How a script ends, by its course. -/
def scriptOutcome (course : List Evaluated) : Outcome ExitCode :=
  if course.any Evaluated.fails then .done .failure
  else if course.any Evaluated.isUnfinished then .unfinished
  else .done .success

/-- How a startup file ends, by its course. -/
def startupOutcome (course : List Evaluated) : Outcome Flow :=
  if course.any Evaluated.exits then .done .exit
  else if course.any Evaluated.isUnfinished then .unfinished
  else .done .proceed

/-- A line is evaluated to a result, which may be a failure, or is not finished. -/
theorem evaluateLine_cases (line : Text) (s : Session) :
    (∃ t trace, evaluateLine line s = ⟨.unfinished, t, trace⟩) ∨
      ∃ result t trace, evaluateLine line s = ⟨.done result, t, trace⟩ := by
  obtain ⟨-, hunfinished | ⟨result, hdone⟩⟩ :=
    Action.attempt_eq (Eval.eval (.ofShell s.world.tokens.made) line) (lineSession s)
  · exact .inl ⟨_, _, (evaluateLine_eq line s).trans (Action.bind_of_unfinished hunfinished)⟩
  · exact .inr ⟨result, _, _, (evaluateLine_eq line s).trans (Action.bind_of_done hdone)⟩

theorem endOf_cons (s : Session) (e : Evaluated) (course : List Evaluated) :
    endOf s (e :: course) = endOf e.run.session course := by
  cases course with
  | nil => rfl
  | cons next course =>
      rw [endOf, endOf, List.getLast?_cons_cons, List.getLast?_cons]
      rfl

theorem reported_cons (label path : Text) (e : Evaluated) (course : List Evaluated) :
    reported label path (e :: course) =
      e.run.trace ++ (e.report label path ++ reported label path course) := by
  rw [reported, List.flatMap_cons, List.append_assoc]
  rfl

/-- **A script evaluates its course.** -/
theorem runScriptLines_eq (path : Text) (lines : List (Nat × Text)) (s : Session) :
    runScriptLines path lines s =
      ⟨scriptOutcome (courseUpTo Evaluated.stopsScript lines s),
        endOf s (courseUpTo Evaluated.stopsScript lines s),
        reported "Error" path (courseUpTo Evaluated.stopsScript lines s)⟩ := by
  induction lines generalizing s with
  | nil => rfl
  | cons first rest ih =>
      obtain ⟨number, line⟩ := first
      rw [courseUpTo, endOf_cons, reported_cons, runScriptLines]
      rcases evaluateLine_cases line s with ⟨t, trace, hrun⟩ | ⟨result, t, trace, hrun⟩
      · have hunfinished := congrArg Finished.outcome hrun
        rw [Action.bind_of_unfinished hunfinished, hrun]
        exact congrArg (Finished.mk _ _) (List.append_nil trace).symm
      · have hdone := congrArg Finished.outcome hrun
        rw [Action.bind_of_done hdone, hrun]
        cases result with
        | error error => rfl
        | ok flow =>
            cases flow with
            | exit => rfl
            | proceed =>
                simp only [ih]
                rfl

/-- **A startup file evaluates its course.** -/
theorem runStartupLines_eq (path : Text) (lines : List (Nat × Text)) (s : Session) :
    runStartupLines path lines s =
      ⟨startupOutcome (courseUpTo Evaluated.stopsStartup lines s),
        endOf s (courseUpTo Evaluated.stopsStartup lines s),
        reported "Warning" path (courseUpTo Evaluated.stopsStartup lines s)⟩ := by
  induction lines generalizing s with
  | nil => rfl
  | cons first rest ih =>
      obtain ⟨number, line⟩ := first
      rw [courseUpTo, endOf_cons, reported_cons, runStartupLines]
      rcases evaluateLine_cases line s with ⟨t, trace, hrun⟩ | ⟨result, t, trace, hrun⟩
      · have hunfinished := congrArg Finished.outcome hrun
        rw [Action.bind_of_unfinished hunfinished, hrun]
        exact congrArg (Finished.mk _ _) (List.append_nil trace).symm
      · have hdone := congrArg Finished.outcome hrun
        rw [Action.bind_of_done hdone, hrun]
        cases result with
        | error error =>
            have hcomplain : ∀ text, (complain text t).outcome = .done () := fun _ => rfl
            simp only [Action.bind_of_done (hcomplain _)]
            rw [show ∀ text, (complain text t).session = t from fun _ => rfl, ih]
            rfl
        | ok flow =>
            cases flow with
            | exit => rfl
            | proceed =>
                simp only [ih]
                rfl

/-! ### Side by side -/

/-- Courses that stop at the same lines are the same. -/
theorem courseUpTo_eq {stops stops' : Evaluated → Bool} (lines : List (Nat × Text)) (s : Session)
    (h : ∀ e ∈ courseUpTo stops lines s, stops e = stops' e) :
    courseUpTo stops lines s = courseUpTo stops' lines s := by
  induction lines generalizing s with
  | nil => rfl
  | cons first rest ih =>
      obtain ⟨number, line⟩ := first
      rw [courseUpTo] at h
      rw [courseUpTo, courseUpTo]
      obtain ⟨hfirst, hrest⟩ := List.forall_mem_cons.mp h
      rw [← hfirst]
      cases hstops : stops ⟨number, line, evaluateLine line s⟩ with
      | true => rfl
      | false =>
          rw [hstops] at hrest
          rw [if_neg nofun, if_neg nofun, ih _ hrest]

theorem Evaluated.report_of_not_fails {e : Evaluated} (h : e.fails = false) (label path : Text) :
    e.report label path = [] := by
  obtain ⟨number, line, outcome, session, trace⟩ := e
  cases outcome with
  | done result =>
      cases result with
      | error error => cases h
      | ok flow => rfl
  | failed error => rfl
  | unfinished => rfl

/-- Without failures nothing is reported, under whatever name. -/
theorem reported_of_not_fails {course : List Evaluated} (h : ∀ e ∈ course, e.fails = false)
    (label path : Text) : reported label path course = course.flatMap (·.run.trace) := by
  induction course with
  | nil => rfl
  | cons e course ih =>
      obtain ⟨he, hcourse⟩ := List.forall_mem_cons.mp h
      rw [reported_cons, e.report_of_not_fails he, ih hcourse, List.flatMap_cons]
      rfl

theorem toText?_utf8 (content : Text) : Bytes.toText? content.utf8 = some content := by
  rw [Bytes.toText?]
  simp only [Bytes.shown_utf8, if_true]

theorem readText_of_readFile {w : World} {path content : Text}
    (h : w.readFile path = .ok content.utf8) : readText w path = .ok content := by
  unfold readText
  rw [h]
  simp only [bind, Except.bind, toText?_utf8]
  rfl

theorem runScript_of_read {path content : Text} {s : Session}
    (h : readText s.world path = .ok content) :
    runScript path s = runScriptLines path (scriptLines content) s := by
  have hworld : (Action.world s).outcome = .done s.world := rfl
  rw [runScript, Action.bind_of_done hworld]
  simp only [h]
  rfl

theorem runStartup_of_read {path content : Text} {config : Config} {s : Session}
    (hconfig : config.startupPath = some path) (h : readText s.world path = .ok content) :
    runStartup config s = runStartupLines path (scriptLines content) s := by
  have hworld : (Action.world s).outcome = .done s.world := rfl
  unfold runStartup
  rw [hconfig]
  simp only [Action.bind_of_done hworld, h]
  rfl

/-- **Scripts and startup files run the same lines.** Let a script and a startup file have the same
content. Of both the same lines are evaluated: those that are neither blank nor comments, trimmed,
in order and with the numbers that they have in the file. A script evaluates them up to the first
that fails, ends the shell or does not finish; a startup file goes on behind lines that fail. Each
failure is reported with the number of its line, and a script then ends as a failure. So what a
script evaluates is where the startup file begins, and without failures both are the same, in what
they leave and in what they write. -/
theorem script_and_startup {content script startup : Text} {config : Config} {s : Session}
    (hscript : s.world.readFile script = .ok content.utf8)
    (hstartup : s.world.readFile startup = .ok content.utf8)
    (hconfig : config.startupPath = some startup) :
    (∀ number line, (number, line) ∈ scriptLines content ↔
      ∃ index segment, IsSegment content index segment ∧ number = index + 1 ∧
        line = Text.trim segment ∧ line ≠ [] ∧ line.head? ≠ some '#') ∧
    (scriptLines content).Pairwise (fun a b => a.1 < b.1) ∧
    ∃ ran loaded,
      RunsUpTo Evaluated.stopsScript s (scriptLines content) ran ∧
      runScript script s = ⟨scriptOutcome ran, endOf s ran, reported "Error" script ran⟩ ∧
      RunsUpTo Evaluated.stopsStartup s (scriptLines content) loaded ∧
      runStartup config s =
        ⟨startupOutcome loaded, endOf s loaded, reported "Warning" startup loaded⟩ ∧
      ran <+: loaded ∧
      ((∀ e ∈ ran, e.fails = false) →
        ran = loaded ∧ (runScript script s).session = (runStartup config s).session ∧
          (runScript script s).trace = (runStartup config s).trace) := by
  have hran := runScriptLines_eq script (scriptLines content) s
  have hloaded := runStartupLines_eq startup (scriptLines content) s
  rw [← runScript_of_read (readText_of_readFile hscript)] at hran
  rw [← runStartup_of_read hconfig (readText_of_readFile hstartup)] at hloaded
  refine ⟨fun number line => mem_scriptLines_iff, ascending_scriptLines content, _, _,
    runsUpTo_courseUpTo _ _ _, hran, runsUpTo_courseUpTo _ _ _, hloaded, ?_, fun hfails => ?_⟩
  · refine courseUpTo_prefix (fun e hstops => ?_) _ _
    rw [Evaluated.stopsScript, Bool.or_assoc, Bool.or_eq_true]
    exact .inr hstops
  · have hsame : courseUpTo Evaluated.stopsScript (scriptLines content) s =
        courseUpTo Evaluated.stopsStartup (scriptLines content) s := by
      refine courseUpTo_eq _ _ fun e he => ?_
      rw [Evaluated.stopsScript, Evaluated.stopsStartup, hfails e he, Bool.false_or]
    refine ⟨hsame, ?_, ?_⟩
    · rw [hran, hloaded, hsame]
    · rw [hran, hloaded, reported_of_not_fails hfails, ← hsame, reported_of_not_fails hfails]

/-- Lines of which the second that is evaluated fails and the third ends the shell. -/
def failingLines : Text := "l-var x 1\r\n\n # a\n  l-fn f\nl-exit\nl-echo b"

/-- A session with these lines in a file. -/
def withFailingLines : Session :=
  ⟨{ aliasDepth := 64 }, { volume := ⟨[(["f"], .file failingLines.utf8)]⟩ }⟩

theorem script_and_startup_failing :
    let config := { Config.ofVariables [] (fun _ => none) with startupPath := some "f" }
    (∃ ran loaded,
      RunsUpTo Evaluated.stopsScript withFailingLines (scriptLines failingLines) ran ∧
      RunsUpTo Evaluated.stopsStartup withFailingLines (scriptLines failingLines) loaded ∧
      ran <+: loaded ∧ scriptOutcome ran = .done .failure ∧
      startupOutcome loaded = .done .exit) ∧
    Trace.display 2 (runScript "f" withFailingLines).trace =
      Text.utf8 ("Error: f line 4: internal exec error: l-fn: expected 2 argument(s), got 1; " ++
        "usage: l-fn name \x7bbody\x7d\n") ∧
    Trace.display 2 (runStartup config withFailingLines).trace =
      Text.utf8 ("Warning: f line 4: internal exec error: l-fn: expected 2 argument(s), got 1; " ++
        "usage: l-fn name \x7bbody\x7d\n") := by
  intro config
  have hread : withFailingLines.world.readFile "f" = .ok failingLines.utf8 := by decide +kernel
  -- Each run is evaluated once, for its outcome and its trace.
  have hran : (runScript "f" withFailingLines).outcome.value? = some .failure ∧
      Trace.display 2 (runScript "f" withFailingLines).trace = Text.utf8
        ("Error: f line 4: internal exec error: l-fn: expected 2 argument(s), got 1; " ++
          "usage: l-fn name \x7bbody\x7d\n") := by decide +kernel
  have hloaded : (runStartup config withFailingLines).outcome.value? = some .exit ∧
      Trace.display 2 (runStartup config withFailingLines).trace = Text.utf8
        ("Warning: f line 4: internal exec error: l-fn: expected 2 argument(s), got 1; " ++
          "usage: l-fn name \x7bbody\x7d\n") := by decide +kernel
  obtain ⟨-, -, ran, loaded, hrunsTo, hscript, hloadsTo, hstartup, hbegins, -⟩ :=
    script_and_startup hread hread (rfl : config.startupPath = some "f")
  have hfailure := Outcome.eq_done hran.1
  have hexit := Outcome.eq_done hloaded.1
  rw [hscript] at hfailure
  rw [hstartup] at hexit
  exact ⟨⟨ran, loaded, hrunsTo, hloadsTo, hbegins, hfailure, hexit⟩, hran.2, hloaded.2⟩

end Conch.Front
