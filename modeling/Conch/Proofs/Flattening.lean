import Conch.Text.Captured
import Conch.Proofs.Lengths
import Conch.Proofs.Piping
import Conch.Proofs.Settings

/-!
Output as one argument. What a substitution captures is cut into lines, of which those that are not
empty are joined. That replaces every run of line ends by one space (`Text.foldEnds`), up to blanks
at the two ends, which are trimmed anyway.

* `Text.foldEnds_pads`: joining the lines of a text is folding its line ends.
* `Bytes.shown_utf8`: the bytes of a text show the text.
* `argument_flattened`: the argument has no newline and no blanks at its ends, and is the argument
  that its own line makes, so that echoing it in another substitution does not change it.
-/

namespace Conch.Text

/-! ### Trimming -/

/-- The first text is the second with blanks around it. -/
def Pads (s t : Text) : Prop :=
  ∃ before after, (∀ c ∈ before, isBlank c = true) ∧ (∀ c ∈ after, isBlank c = true) ∧
    s = before ++ t ++ after

theorem isBlank_of_mem_space : ∀ c ∈ [' '], isBlank c = true := by
  simp [isBlank, blankRanges]

/-- Trimming cuts off blanks only. -/
theorem pads_trim (s : Text) : Pads s (trim s) := by
  refine ⟨s.takeWhile isBlank, (s.dropWhile isBlank).rtakeWhile isBlank,
    fun c hc => List.mem_takeWhile_imp hc, fun c hc => List.mem_rtakeWhile_imp hc, ?_⟩
  have hmiddle : trim s ++ (s.dropWhile isBlank).rtakeWhile isBlank = s.dropWhile isBlank :=
    List.rdropWhile_append_rtakeWhile
  rw [List.append_assoc, hmiddle, List.takeWhile_append_dropWhile]

/-- Blanks around a text are trimmed. -/
theorem Pads.trim_eq {s t : Text} (h : Pads s t) : trim s = trim t := by
  obtain ⟨before, after, hbefore, hafter, rfl⟩ := h
  obtain ⟨front, back, hfront, hback, ht⟩ := pads_trim t
  have hwhole : before ++ t ++ after = (before ++ front) ++ trim t ++ (back ++ after) := by
    conv_lhs => rw [ht]
    simp
  rw [hwhole]
  exact trim_pad (List.forall_mem_append.mpr ⟨hbefore, hfront⟩)
    (List.forall_mem_append.mpr ⟨hback, hafter⟩) (trim_eq_nil_or_tight t)

/-! ### Marks -/

/-- A text without a mark is one part. -/
theorem splitOnP_of_not_mem {mark : Char} {part : Text} (h : mark ∉ part) :
    part.splitOnP (· == mark) = [part] := by
  refine List.splitOnP_eq_singleton fun c hc => ?_
  have hne : c ≠ mark := fun heq => h (heq ▸ hc)
  simpa using hne

/-- The first part goes up to the first mark. -/
theorem splitOnP_append_mark {mark : Char} {part : Text} (h : mark ∉ part) (rest : Text) :
    (part ++ mark :: rest).splitOnP (· == mark) = part :: rest.splitOnP (· == mark) := by
  rw [List.splitOnP_append_cons (p := (· == mark)) _ _ (beq_self_eq_true mark),
    splitOnP_of_not_mem h]
  rfl

/-! ### Line ends -/

/-- What follows the line ends at the front. A line end is a newline, with or without one carriage
return before it. -/
def afterEnds : Text → Text
  | '\n' :: rest => afterEnds rest
  | '\r' :: '\n' :: rest => afterEnds rest
  | s => s

theorem length_afterEnds_le (s : Text) : (afterEnds s).length ≤ s.length := by
  fun_induction afterEnds s with
  | case1 rest ih =>
      rw [List.length_cons]
      omega
  | case2 rest ih =>
      rw [List.length_cons, List.length_cons]
      omega
  | case3 s _ _ => exact le_rfl

/-- The text with one space in place of every run of line ends. A run goes as far as there are
line ends. -/
def foldEnds : Text → Text
  | [] => []
  | '\n' :: rest => ' ' :: foldEnds (afterEnds rest)
  | '\r' :: '\n' :: rest => ' ' :: foldEnds (afterEnds rest)
  | c :: rest => c :: foldEnds rest
termination_by s => s.length
decreasing_by
  · have := length_afterEnds_le rest
    rw [List.length_cons]
    omega
  · have := length_afterEnds_le rest
    rw [List.length_cons, List.length_cons]
    omega
  · rw [List.length_cons]
    omega

/-- A line without the carriage return at its end. -/
def withoutReturn (line : Text) : Text := (beforeEnd? ['\r'] line).getD line

/-- The lines that are not empty, without the carriage returns at their ends. -/
def filledLines (s : Text) : List Text :=
  ((s.splitOnP (· == '\n')).map withoutReturn).filter (!·.isEmpty)

/-! ### Lines -/

theorem withoutReturn_snoc (s : Text) : withoutReturn (s ++ ['\r']) = s := by
  rw [withoutReturn, beforeEnd?_append]
  rfl

theorem withoutReturn_of_last {s : Text} (h : s.getLast? ≠ some '\r') : withoutReturn s = s := by
  have hsuffix : ¬ ['\r'] <:+ s := by
    rintro ⟨front, rfl⟩
    exact h List.getLast?_concat
  rw [withoutReturn, beforeEnd?, if_neg (by simpa using hsuffix)]
  rfl

/-- A line is what is left of it without its carriage return, or has that behind it. -/
theorem withoutReturn_cases (s : Text) : s = withoutReturn s ∨ s = withoutReturn s ++ ['\r'] := by
  by_cases h : s.getLast? = some '\r'
  · obtain ⟨front, rfl⟩ := List.getLast?_eq_some_iff.mp h
    exact .inr (by rw [withoutReturn_snoc])
  · exact .inl (withoutReturn_of_last h).symm

theorem withoutReturn_cons (c : Char) {s : Text} (h : s ≠ []) :
    withoutReturn (c :: s) = c :: withoutReturn s := by
  by_cases hlast : s.getLast? = some '\r'
  · obtain ⟨front, rfl⟩ := List.getLast?_eq_some_iff.mp hlast
    rw [← List.cons_append, withoutReturn_snoc, withoutReturn_snoc]
  · rw [withoutReturn_of_last hlast, withoutReturn_of_last]
    rwa [List.getLast?_cons_of_ne_nil h]

theorem filledLines_append (s t : Text) :
    filledLines (s ++ '\n' :: t) = filledLines s ++ filledLines t := by
  unfold filledLines
  rw [List.splitOnP_append_cons _ _ rfl, List.map_append, List.filter_append]

theorem filledLines_line {s : Text} (h : '\n' ∉ s) :
    filledLines s = if withoutReturn s = [] then [] else [withoutReturn s] := by
  unfold filledLines
  have hline : ∀ c ∈ s, (c == '\n') = false := by
    intro c hc
    have hne : c ≠ '\n' := fun heq => h (heq ▸ hc)
    simpa using hne
  rw [List.splitOnP_eq_singleton hline]
  split_ifs with hempty <;> simp [hempty]

/-- Empty lines at the front do not count. -/
theorem filledLines_afterEnds (s : Text) : filledLines (afterEnds s) = filledLines s := by
  fun_induction afterEnds s with
  | case1 rest ih =>
      rw [ih]
      exact (filledLines_append [] rest).symm
  | case2 rest ih =>
      rw [ih]
      exact (filledLines_append ['\r'] rest).symm
  | case3 s _ _ => rfl

/-! ### Folding line ends -/

theorem foldEnds_line {s : Text} (h : '\n' ∉ s) : foldEnds s = s := by
  fun_induction foldEnds s with
  | case1 => rfl
  | case2 rest ih => exact absurd List.mem_cons_self h
  | case3 rest ih => simp at h
  | case4 c rest _ _ ih => rw [ih fun hmem => h (List.mem_cons_of_mem c hmem)]

theorem foldEnds_cons {c : Char} {rest : Text} (hc : c ≠ '\n')
    (hend : c = '\r' → rest.head? ≠ some '\n') : foldEnds (c :: rest) = c :: foldEnds rest := by
  rw [foldEnds]
  · exact hc
  · rintro more hreturn rfl
    exact hend hreturn rfl

/-- The first line, and what follows the run of line ends behind it. -/
theorem foldEnds_append {s : Text} (h : '\n' ∉ s) (t : Text) :
    foldEnds (s ++ '\n' :: t) = withoutReturn s ++ ' ' :: foldEnds (afterEnds t) := by
  induction s with
  | nil =>
      rw [List.nil_append, foldEnds]
      rfl
  | cons c s ih =>
      obtain ⟨hc, hs⟩ : '\n' ≠ c ∧ '\n' ∉ s := by simpa using h
      cases s with
      | nil =>
          by_cases hreturn : c = '\r'
          · subst hreturn
            rw [List.singleton_append, foldEnds]
            rfl
          · have hlast : withoutReturn [c] = [c] :=
              withoutReturn_of_last (by simpa using hreturn)
            rw [List.singleton_append, foldEnds_cons hc.symm (fun heq => absurd heq hreturn),
              hlast, foldEnds]
            rfl
      | cons e s =>
          have he : (e :: s ++ '\n' :: t).head? ≠ some '\n' := by
            have hne : '\n' ≠ e := fun heq => hs (heq ▸ List.mem_cons_self)
            simpa using hne.symm
          rw [List.cons_append, foldEnds_cons hc.symm fun _ => he, ih hs,
            withoutReturn_cons c (List.cons_ne_nil e s)]
          rfl

/-- Behind the line ends at the front there are no more of them. -/
theorem afterEnds_afterEnds (s : Text) : afterEnds (afterEnds s) = afterEnds s := by
  fun_induction afterEnds s with
  | case1 rest ih => exact ih
  | case2 rest ih => exact ih
  | case3 s hnewline hreturn =>
      rw [afterEnds]
      · exact hnewline
      · exact hreturn

/-- A text that does not begin with a line end has a first line that is not empty. -/
theorem withoutReturn_ne_nil {s t : Text} (h : afterEnds (s ++ '\n' :: t) = s ++ '\n' :: t) :
    withoutReturn s ≠ [] := by
  intro hempty
  have hshort := length_afterEnds_le t
  rcases withoutReturn_cases s with hs | hs
  · rw [hs, hempty, List.nil_append, afterEnds] at h
    rw [h, List.length_cons] at hshort
    omega
  · rw [hs, hempty, List.nil_append, List.singleton_append, afterEnds] at h
    rw [h, List.length_cons, List.length_cons] at hshort
    omega

/-- **Joining lines is folding line ends**, where there are none at the front: only blanks at the
end make a difference. -/
theorem foldEnds_eq_join {s : Text} (h : afterEnds s = s) :
    ∃ blanks, (∀ c ∈ blanks, isBlank c = true) ∧
      foldEnds s = join " " (filledLines s) ++ blanks := by
  -- line by line: what follows the line ends behind a line is shorter
  induction hlength : s.length using Nat.strong_induction_on generalizing s with
  | _ length ih =>
      by_cases hline : '\n' ∈ s
      · obtain ⟨line, rest, rfl, hfree⟩ := List.eq_append_cons_of_mem hline
        have hfilled := withoutReturn_ne_nil h
        have hshort : (afterEnds rest).length < length := by
          have := length_afterEnds_le rest
          rw [← hlength, List.length_append, List.length_cons]
          omega
        obtain ⟨blanks, hblanks, hrest⟩ := ih _ hshort (afterEnds_afterEnds rest) rfl
        rw [filledLines_afterEnds] at hrest
        rw [foldEnds_append hfree, filledLines_append, filledLines_line hfree, if_neg hfilled,
          hrest, List.singleton_append]
        cases hlines : filledLines rest with
        | nil =>
            refine ⟨' ' :: blanks, List.forall_mem_cons.mpr ⟨by decide, hblanks⟩, ?_⟩
            rw [join_singleton]
            rfl
        | cons next more =>
            refine ⟨blanks, hblanks, ?_⟩
            rw [join_cons_cons]
            simp
      · rw [foldEnds_line hline, filledLines_line hline]
        have hjoin : join " " (if withoutReturn s = [] then [] else [withoutReturn s]) =
            withoutReturn s := by
          split_ifs with hempty
          · exact hempty.symm
          · exact join_singleton _ _
        rw [hjoin]
        rcases withoutReturn_cases s with hs | hs
        · exact ⟨[], fun _ hmem => absurd hmem List.not_mem_nil, by rw [List.append_nil, ← hs]⟩
        · exact ⟨['\r'], List.forall_mem_singleton.mpr (by decide), hs⟩

/-- Joining lines is folding line ends: only blanks at the two ends make a difference. -/
theorem foldEnds_pads (s : Text) : Pads (foldEnds s) (join " " (filledLines s)) := by
  have hbehind : ∀ {s rest}, filledLines s = filledLines rest →
      foldEnds s = ' ' :: foldEnds (afterEnds rest) →
      Pads (foldEnds s) (join " " (filledLines s)) := by
    intro s rest hlines hfold
    obtain ⟨blanks, hblanks, hjoin⟩ := foldEnds_eq_join (afterEnds_afterEnds rest)
    rw [filledLines_afterEnds, ← hlines] at hjoin
    exact ⟨[' '], blanks, isBlank_of_mem_space, hblanks, by rw [hfold, hjoin]; rfl⟩
  fun_cases afterEnds s with
  | case1 rest => exact hbehind (filledLines_append [] rest) (by rw [foldEnds])
  | case2 rest => exact hbehind (filledLines_append ['\r'] rest) (by rw [foldEnds])
  | case3 s hnewline hreturn =>
      have hfront : afterEnds s = s := by
        rw [afterEnds]
        · exact hnewline
        · exact hreturn
      obtain ⟨blanks, hblanks, hjoin⟩ := foldEnds_eq_join hfront
      exact ⟨[], blanks, fun _ hmem => absurd hmem List.not_mem_nil, hblanks, hjoin⟩

theorem newline_not_mem_foldEnds (s : Text) : '\n' ∉ foldEnds s := by
  fun_induction foldEnds s with
  | case1 => exact List.not_mem_nil
  | case2 rest ih => simpa using ih
  | case3 rest ih => simpa using ih
  | case4 c rest hc _ ih => simpa using ⟨Ne.symm hc, ih⟩

end Conch.Text

/-! ### Bytes of a text -/

namespace Conch.Bytes

/-- The bytes of a character behind its first belong to it. -/
theorem decodeFrom_skip (done : Text) (skipped rest : Bytes) :
    decodeFrom done skipped.length (skipped ++ rest) = decodeFrom done 0 rest := by
  induction skipped with
  | nil => rfl
  | cons b skipped ih => exact ih

theorem nextChar_utf8 (c : Char) (rest : Bytes) :
    nextChar (String.utf8EncodeChar c ++ rest) = (c, c.utf8Size) := by
  have hlength : (String.utf8EncodeChar c).length ≤ 4 := by
    rw [String.length_utf8EncodeChar]
    exact c.utf8Size_le_four
  have hfirst : firstChar? (String.utf8EncodeChar c ++ rest) = some c := by
    rw [firstChar?, List.take_append, List.take_of_length_le hlength, List.toByteArray_append,
      ByteArray.utf8DecodeChar?_utf8EncodeChar_append]
  rw [nextChar, hfirst]

theorem decodeFrom_char (done : Text) (c : Char) (rest : Bytes) :
    decodeFrom done 0 (String.utf8EncodeChar c ++ rest) = decodeFrom (c :: done) 0 rest := by
  have hnext := nextChar_utf8 c rest
  have hlength := String.length_utf8EncodeChar c
  cases hbytes : String.utf8EncodeChar c with
  | nil =>
      rw [hbytes] at hlength
      exact absurd hlength.symm c.utf8Size_pos.ne'
  | cons b more =>
      rw [hbytes] at hnext hlength
      rw [List.cons_append] at hnext ⊢
      have hmore : c.utf8Size - 1 = more.length := by
        rw [← hlength, List.length_cons, Nat.add_sub_cancel]
      rw [decodeFrom, hnext]
      dsimp only
      rw [hmore, decodeFrom_skip]

theorem decodeFrom_utf8 (done s : Text) : decodeFrom done 0 s.utf8 = done.reverse ++ s := by
  induction s generalizing done with
  | nil =>
      rw [List.append_nil]
      rfl
  | cons c s ih =>
      have hutf8 : Text.utf8 (c :: s) = String.utf8EncodeChar c ++ Text.utf8 s := List.flatMap_cons
      rw [hutf8, decodeFrom_char, ih, List.reverse_cons, List.append_assoc]
      rfl

/-- **The bytes of a text show the text.** -/
theorem shown_utf8 (s : Text) : shown s.utf8 = s := decodeFrom_utf8 [] s

theorem shown_line (s : Text) : shown (s.utf8 ++ [10]) = s ++ ['\n'] := by
  have hutf8 : s.utf8 ++ [10] = Text.utf8 (s ++ ['\n']) := by
    rw [Text.utf8, Text.utf8, List.flatMap_append]
    rfl
  rw [hutf8, shown_utf8]

/-! ### Output as an argument -/

theorem asArgument_eq_trim (bytes : Bytes) :
    asArgument bytes = Text.trim (Text.foldEnds (shown bytes)) := by
  rw [(Text.foldEnds_pads (shown bytes)).trim_eq]
  rfl

theorem newline_not_mem_asArgument (bytes : Bytes) : '\n' ∉ asArgument bytes := by
  rw [asArgument_eq_trim]
  intro hmem
  exact Text.newline_not_mem_foldEnds _ ((Text.trim_sublist _).subset hmem)

/-- A text without newlines and without blanks at its ends is the argument that its line makes. -/
theorem asArgument_line {s : Text} (hline : '\n' ∉ s) (hs : s = [] ∨ Text.Tight s) :
    asArgument (s.utf8 ++ [10]) = s := by
  have hlast : s.getLast? ≠ some '\r' := by
    rcases hs with rfl | hs
    · nofun
    · intro hreturn
      have hblank := hs.last _ hreturn
      cases hblank
  rw [asArgument_eq_trim, shown_line, Text.foldEnds_append hline, Text.withoutReturn_of_last hlast]
  show Text.trim (s ++ ' ' :: Text.foldEnds []) = s
  rw [Text.foldEnds]
  have hpads : Text.Pads (s ++ [' ']) s :=
    ⟨[], [' '], fun _ hmem => absurd hmem List.not_mem_nil, Text.isBlank_of_mem_space, rfl⟩
  rw [hpads.trim_eq]
  rcases hs with rfl | hs
  · rfl
  · exact hs.trim_eq

end Conch.Bytes

/-! ### Echoing an argument -/

namespace Conch.Eval

/-- An echo of what another expression writes. With a mark, that is not read as a flag. -/
def echoTokens (marked : Bool) (body : Text) : List Token :=
  .word "l-echo" :: (if marked then [.word "--", .substitution body] else [.substitution body])

/-- The arguments of the echo. -/
def echoArgs (marked : Bool) (value : Text) : List Text := if marked then ["--", value] else [value]

theorem ofName?_echo : Builtin.ofName? "l-echo" = some .echo := Builtin.ofName?_name .echo

variable {launcher : Process.Launcher} {ctx : Context} {s after : Session} {body value : Text}
  {trace : Trace}

theorem ends_echoArgs {marked : Bool}
    (h : marked = false → value = "-" ∨ value.head? ≠ some '-') :
    Flags.Ends [value] (echoArgs marked value) := by
  cases marked with
  | true => exact .marked
  | false =>
      refine .plain ?_
      rintro _ ⟨⟩
      exact h rfl

/-- An echo writes the line of its argument. -/
theorem runEcho_line (ctx : Context) (name : Text) {args : List Text}
    (h : Flags.Ends [value] args) :
    Builtin.runEcho ctx name args = (do
      Action.writeLine ctx.stdout value
      return .proceed) := by
  have hread : Flags.parse name Builtin.echo.usage [("fd", .valued)] args = .ok ⟨[], [value]⟩ := by
    rw [Flags.parse, Flags.read_ending _ h]
    rfl
  unfold Builtin.runEcho
  rw [hread]
  show (do Action.writeLine ctx.stdout (Text.join " " [value]); return Flow.proceed) = _
  rw [Text.join_singleton]

theorem arguments_echoTokens {nested : TokenEvaluator} {marked : Bool}
    (h : substitution nested ctx body s = ⟨.done (value, .proceed), after, trace⟩) :
    arguments nested ctx (echoTokens marked body) s =
      ⟨.done (some ("l-echo" :: echoArgs marked value)), after, trace⟩ := by
  have hlast : arguments nested ctx [.substitution body] s =
      ⟨.done (some [value]), after, trace⟩ := by
    show Action.bind (substitution nested ctx body) _ s = _
    unfold Action.bind
    rw [h]
    exact congrArg (Finished.mk _ _) (List.append_nil trace)
  have hword : ∀ {word rest args}, arguments nested ctx rest s = ⟨.done (some args), after, trace⟩ →
      arguments nested ctx (.word word :: rest) s =
        ⟨.done (some (word :: args)), after, trace⟩ := by
    intro word rest args hrest
    show Action.bind (arguments nested ctx rest) _ s = _
    unfold Action.bind
    rw [hrest]
    exact congrArg (Finished.mk _ _) (List.append_nil trace)
  cases marked with
  | true => exact hword (hword hlast)
  | false => exact hword hlast

theorem statements_echoTokens (marked : Bool) (body : Text) :
    Token.statements (echoTokens marked body) = [echoTokens marked body] := by
  cases marked <;> rfl

/-- An echo of an argument, where what is written on descriptor 1 is captured. -/
theorem text_echo {depth : Nat} {expr : Text} {marked : Bool}
    (hparse : Token.parse expr = .ok (echoTokens marked body)) (hstdout : ctx.stdout = .outlet 1)
    (hrunning : s.world.tokens.isCancelled ctx.cancel = false)
    (hbody : substitution (tokens (dispatch launcher) depth) ctx body s =
      ⟨.done (value, .proceed), after, trace⟩)
    (hecho : after.scope.aliases.get? "l-echo" = none)
    (hflags : Flags.Ends [value] (echoArgs marked value)) :
    text (tokens (dispatch launcher) (depth + 1)) ctx expr s =
      ⟨.done .proceed, after, trace ++
        [.started "l-echo" (echoArgs marked value), .wrote 1 (value.utf8 ++ [10])]⟩ := by
  have hline : dispatch launcher (text (tokens (dispatch launcher) depth)) ctx "l-echo"
        (echoArgs marked value) after =
      ⟨.done .proceed, after,
        [.started "l-echo" (echoArgs marked value), .wrote 1 (value.utf8 ++ [10])]⟩ := by
    have hrun := runEcho_line ctx "l-echo" hflags
    rw [dispatch_of_builtin ofName?_echo, Builtin.run, hrun, hstdout]
    rfl
  rw [text_of_parse hparse]
  show statements _ _ _ (Token.statements (echoTokens marked body)) s = _
  rw [statements_echoTokens, statements_cons, statements, andThen_proceed,
    checkCancelled_bind hrunning, statement_of_arguments (arguments_echoTokens hbody),
    command_of_none (by decide) hecho, hline]

/-- Echoing an argument in another substitution writes its line there. -/
theorem substitution_echo {depth : Nat} {expr : Text} {marked : Bool}
    (hparse : Token.parse expr = .ok (echoTokens marked body))
    (hrunning : s.world.tokens.isCancelled ctx.cancel = false)
    (hbody : substitution (tokens (dispatch launcher) depth) ctx body s =
      ⟨.done (value, .proceed), after, trace⟩)
    (hecho : after.scope.aliases.get? "l-echo" = none)
    (hflags : Flags.Ends [value] (echoArgs marked value)) :
    substitution (tokens (dispatch launcher) (depth + 1)) ctx expr s =
      ⟨.done (Bytes.asArgument (value.utf8 ++ [10]), .proceed), after,
        trace ++ [.started "l-echo" (echoArgs marked value)]⟩ := by
  -- what is echoed is captured by a substitution of its own
  have hquiet : trace = Trace.without 1
      (text (tokens (dispatch launcher) depth) { ctx with stdout := .outlet 1 } body s).trace := by
    rw [substitution_eq _ _ _ _ rfl] at hbody
    exact (congrArg Finished.trace hbody).symm
  have hline : Trace.output 1
      [.started "l-echo" (echoArgs marked value), .wrote 1 (value.utf8 ++ [10])] =
        value.utf8 ++ [10] := List.append_nil _
  rw [substitution_eq _ _ _ _ (text_echo hparse rfl hrunning hbody hecho hflags),
    Trace.output_append, Trace.without_append, hline, hquiet, Trace.output_without_self,
    Trace.without_without]
  rfl

theorem exists_asArgument {nested : TokenEvaluator} {flow : Flow}
    (h : substitution nested ctx body s = ⟨.done (value, flow), after, trace⟩) :
    ∃ bytes : Bytes, bytes.asArgument = value := by
  rw [substitution_eq _ _ _ _ rfl] at h
  have houtcome := congrArg Finished.outcome h
  cases hrun : (text nested { ctx with stdout := .outlet 1 } body s).outcome with
  | done inner =>
      simp only [hrun, Outcome.bimap, Outcome.done.injEq, Prod.mk.injEq] at houtcome
      exact ⟨_, houtcome.1⟩
  | failed error =>
      simp only [hrun, Outcome.bimap] at houtcome
      cases houtcome
  | unfinished =>
      simp only [hrun, Outcome.bimap] at houtcome
      cases houtcome

/-- **The argument that output makes.** It is the text that the bytes show, with one space in place
of every run of line ends and without the blanks at its two ends. It has no newline and no blank at
an end, and its own line makes the same argument. So an echo of a substitution, in a substitution
of its own, makes the same argument: it only starts the command. The argument must not be read as a
flag; the mark in front of it sees to that, whatever the argument is. -/
theorem argument_flattened :
    (∀ bytes : Bytes,
      bytes.asArgument = Text.trim (Text.foldEnds bytes.shown) ∧
      '\n' ∉ bytes.asArgument ∧
      (bytes.asArgument = [] ∨ Text.Tight bytes.asArgument) ∧
      Bytes.asArgument (bytes.asArgument.utf8 ++ [10]) = bytes.asArgument) ∧
    ∀ launcher depth ctx body (s after : Session) value trace,
      substitution (tokens (dispatch launcher) depth) ctx body s =
        ⟨.done (value, .proceed), after, trace⟩ →
      s.world.tokens.isCancelled ctx.cancel = false →
      after.scope.aliases.get? "l-echo" = none →
      ∀ marked expr, Token.parse expr = .ok (echoTokens marked body) →
      (marked = false → value = "-" ∨ value.head? ≠ some '-') →
      substitution (tokens (dispatch launcher) (depth + 1)) ctx expr s =
        ⟨.done (value, .proceed), after,
          trace ++ [.started "l-echo" (echoArgs marked value)]⟩ := by
  have hargument : ∀ bytes : Bytes, bytes.asArgument = [] ∨ Text.Tight bytes.asArgument := by
    intro bytes
    rw [Bytes.asArgument_eq_trim]
    exact Text.trim_eq_nil_or_tight _
  have hline : ∀ bytes : Bytes,
      Bytes.asArgument (bytes.asArgument.utf8 ++ [10]) = bytes.asArgument := fun bytes =>
    Bytes.asArgument_line (Bytes.newline_not_mem_asArgument bytes) (hargument bytes)
  constructor
  · intro bytes
    exact ⟨bytes.asArgument_eq_trim, bytes.newline_not_mem_asArgument, hargument bytes,
      hline bytes⟩
  · intro launcher depth ctx body s after value trace hbody hrunning hecho marked expr hparse hdash
    obtain ⟨bytes, rfl⟩ := exists_asArgument hbody
    rw [substitution_echo hparse hrunning hbody hecho (ends_echoArgs hdash), hline]

/-- Two lines, the first of which ends with a carriage return, with an empty one between them. -/
def brokenLines : Text := "l-echo -- \"-a\r\"; l-echo; l-echo \"b  c\""

theorem argument_flattened_lines :
    ∃ after trace,
      substitution (tokens (dispatch Process.start) 1) {} brokenLines ⟨{ aliasDepth := 64 }, {}⟩ =
        ⟨.done ("-a b  c", .proceed), after, trace⟩ ∧
      substitution (tokens (dispatch Process.start) 2) {} ("l-echo -- (" ++ brokenLines ++ ")")
          ⟨{ aliasDepth := 64 }, {}⟩ =
        ⟨.done ("-a b  c", .proceed), after, trace ++ [.started "l-echo" ["--", "-a b  c"]]⟩ := by
  have hparse : Token.parse ("l-echo -- (" ++ brokenLines ++ ")") =
      .ok (echoTokens true brokenLines) := by decide +kernel
  have hvalue : (substitution (tokens (dispatch Process.start) 1) {} brokenLines
      ⟨{ aliasDepth := 64 }, {}⟩).outcome.value? = some (("-a b  c" : Text), Flow.proceed) := by
    decide +kernel
  have hecho : (substitution (tokens (dispatch Process.start) 1) {} brokenLines
      ⟨{ aliasDepth := 64 }, {}⟩).session.scope.aliases.get? "l-echo" = none := by decide +kernel
  have hbody := Finished.eq_done hvalue
  exact ⟨_, _, hbody, argument_flattened.2 Process.start 1 {} brokenLines _ _ _ _ hbody rfl hecho
    true _ hparse nofun⟩

end Conch.Eval
