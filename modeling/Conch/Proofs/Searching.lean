import Conch.Proofs.Commands
import Conch.Proofs.Occurrences
import Conch.Proofs.Routes

/-!
The utilities that search a text. Splitting, joining, counting, replacing and looking for places are
all about the same pieces, those that a text is cut into at the occurrences of a pattern.

* `Builtin.Prints`, `Builtin.Refuses`: what the call of a command comes to.
* `Builtin.prints_utility`: the commands without flags.
* `Builtin.prints_join`, `Builtin.prints_replace`: the two with flags, called with arguments in
  which the flags end where they should.
* `Builtin.search_utilities_agree`: what all of them print, by the pieces.

A text that begins with a dash is taken for a flag if nothing marks the end of the flags, and a
number of replacements has 64 bits: `Builtin.search_utilities_refuse` has calls that fail for
this.
-/

namespace Conch

/-! ### Integers -/

/-- An integer of 64 bits in two's complement. -/
def Text.FitsInt (n : Int) : Prop := -(Text.largestInt + 1 : Nat) ≤ n ∧ n ≤ Text.largestInt

instance (n : Int) : Decidable (Text.FitsInt n) := inferInstanceAs (Decidable (_ ∧ _))

/-- The decimal digits of an integer are read as the integer if it fits. -/
theorem Text.toInt?_ofInt (n : Int) :
    Text.toInt? (Text.ofInt n) = if Text.FitsInt n then some n else none := by
  cases n with
  | ofNat n =>
      have hfits : Text.FitsInt (.ofNat n) ↔ n ≤ Text.largestInt := by
        rw [Text.FitsInt, Int.ofNat_eq_natCast]
        omega
      simp only [Text.ofInt, Text.toInt?, Text.afterStart?_ofNat (rfl : '-'.isDigit = false),
        Text.afterStart?_ofNat (rfl : '+'.isDigit = false), Option.getD_none,
        Text.digitsValue?_ofNat, hfits, Option.filter_some, decide_eq_true_eq]
      split <;> rfl
  | negSucc n =>
      have hfits : Text.FitsInt (.negSucc n) ↔ n + 1 ≤ Text.largestInt + 1 := by
        rw [Text.FitsInt]
        omega
      simp only [Text.ofInt, Text.toInt?, Text.afterStart?_cons_self, Text.digitsValue?_ofNat,
        hfits, Option.filter_some, decide_eq_true_eq]
      split <;> rfl

/-! ### Flags -/

/-- One flag with a value, and where flags end behind it. -/
theorem Flags.read_value {known : List (Text × Flags.Kind)} {name : Text}
    (hname : Flags.IsName name) (hknown : known.lookup name = some .valued) (dashes : Flags.Dashes)
    (value : Text) {rest ending : List Text} (h : Flags.Ends rest ending) :
    Flags.read known ((dashes.text ++ name) :: value :: ending) =
      .ok ⟨[(name, .value value)], rest⟩ := by
  have hread := Flags.read_written (w := ⟨dashes, name, .separate value⟩) hname hknown ending
  rw [Flags.read_ending known h] at hread
  have hargs : Flags.Written.args ⟨dashes, name, .separate value⟩ = [dashes.text ++ name, value] :=
    congrArg (fun body => [dashes.text ++ body, value]) (List.append_nil name)
  rw [hargs] at hread
  exact hread

/-- Arguments that are all left do not begin with a flag. -/
theorem Flags.beginsPlainly_of_read {known : List (Text × Flags.Kind)} {args : List Text}
    {flags : Flags} (h : Flags.read known args = .ok flags)
    (hlength : flags.rest.length = args.length) : Flags.BeginsPlainly args := by
  obtain ⟨written, -, -, ending, hends, hargs⟩ := Flags.exists_written h
  have hle : ending.length ≤ args.length := by
    rw [hargs, List.length_append]
    exact Nat.le_add_left _ _
  cases hends with
  | marked =>
      rw [List.length_cons] at hle
      omega
  | plain hplain =>
      have hsuffix : flags.rest <:+ args := ⟨_, hargs.symm⟩
      rwa [← hsuffix.eq_of_length hlength]

namespace Builtin

/-! ### Calls -/

/-- Called by a name with arguments, a command writes lines to its output and does nothing else. -/
def Prints (name : Text) (args lines : List Text) : Prop :=
  ∀ launcher evaluate ctx, Eval.dispatch launcher evaluate ctx name args = (do
    Action.emit (.started name args)
    Action.mapError (.inBuiltin name) do
      writeLines ctx.stdout lines
      return .proceed)

/-- Called by a name with arguments, a command fails for the way it is used and does nothing
else. -/
def Refuses (name : Text) (args : List Text) : Prop :=
  ∃ error, ∀ launcher evaluate ctx s, Eval.dispatch launcher evaluate ctx name args s =
    ⟨.failed (.builtin name (.usage error)), s, [.started name args, .failed]⟩

section Calls

variable {name : Text} {builtin : Builtin} {args lines : List Text}

theorem prints_of_run (hname : ofName? name = some builtin)
    (hrun : ∀ evaluate ctx, builtin.run evaluate ctx name args = (do
      writeLines ctx.stdout lines
      return .proceed)) : Prints name args lines := by
  intro launcher evaluate ctx
  unfold Eval.dispatch
  rw [hname]
  simp only [hrun]

theorem refuses_of_run (hname : ofName? name = some builtin) (error : UsageError)
    (hrun : ∀ evaluate ctx, builtin.run evaluate ctx name args = Action.fail (.usage error)) :
    Refuses name args := by
  refine ⟨error, fun launcher evaluate ctx s => ?_⟩
  rw [Eval.dispatch_of_builtin hname, hrun]
  rfl

theorem writeLines_singleton (endpoint : Endpoint) (line : Text) :
    writeLines endpoint [line] = Action.writeLine endpoint line := by
  simp [writeLines]

/-- A utility prints what it makes of its arguments. -/
theorem prints_utility (u : Utility) (h : args.length = u.arity) :
    Prints u.name args (u.apply args) := by
  refine prints_of_run (ofName?_name (.utility u)) fun evaluate ctx => ?_
  have hchecked : checkArguments u.usage args u.arity = .ok () := if_pos h
  change runUtility u ctx args = _
  rw [runUtility, hchecked, Action.liftM_ok_bind]

end Calls

/-! ### Splitting, counting and looking -/

section Pieces

variable {p : Text}

theorem prints_split (hp : p ≠ []) (s : Text) : Prints "s-split" [s, p] (Text.pieces p s) := by
  have hprints : Prints "s-split" [s, p] (Utility.lines .split s p []) :=
    prints_utility .split rfl
  rwa [Utility.lines, if_neg (by simpa using hp)] at hprints

theorem prints_count (hp : p ≠ []) (s : Text) :
    Prints "s-count" [s, p] [Text.ofNat (Text.occurrences p s)] := by
  have hprints : Prints "s-count" [s, p] (Utility.lines .count s p []) :=
    prints_utility .count rfl
  rwa [Utility.lines, if_neg (by simpa using hp)] at hprints

theorem prints_contains (hp : p ≠ []) (s : Text) :
    Prints "s-contains" [s, p] [if 0 < Text.occurrences p s then "true" else "false"] := by
  have hprints : Prints "s-contains" [s, p] (Utility.truth (Text.occursIn p s)) :=
    prints_utility .contains rfl
  have hiff : Text.occursIn p s = true ↔ 0 < Text.occurrences p s := by
    rw [Text.occursIn_eq_true_iff hp, ← (Text.cut_pieces hp s).one_lt_length_iff,
      Text.one_lt_length_pieces_iff]
  rwa [Utility.truth, if_congr hiff rfl rfl] at hprints

end Pieces

/-! ### Joining -/

/-- Arguments are joined by the separator that is asked for. -/
theorem prints_join (sep : Text) {rest ending : List Text} (h : Flags.Ends rest ending) :
    Prints "s-join" ("--sep" :: sep :: ending) [Text.join sep rest] := by
  refine prints_of_run (ofName?_name .join) fun evaluate ctx => ?_
  have hread : Flags.read [("sep", .valued)] ("--sep" :: sep :: ending) =
      .ok ⟨[("sep", .value sep)], rest⟩ :=
    Flags.read_value ⟨by decide, by decide, by decide⟩ rfl .two sep h
  unfold run runJoin
  rw [(Flags.parse_eq_ok_iff _ _).mpr hread, Action.liftM_ok_bind, writeLines_singleton]
  rfl

/-! ### Replacing -/

section Replacing

variable {args : List Text} {flags : Flags} {s p r : Text}

theorem prints_replace (hread : Flags.read [("n", .valued)] args = .ok flags)
    (hrest : flags.rest = [s, p, r]) {count : Int} {line : Text}
    (hcount : flags.number Text.toInt? "n" (-1) = .ok count)
    (hfirst : ∀ n : Nat, count = n → Text.replaceFirst n p r s = line)
    (hall : count < 0 → Text.replaceAll p r s = line) : Prints "s-replace" args [line] := by
  refine prints_of_run (ofName?_name .replace) fun evaluate ctx => ?_
  have hchecked : checkArguments replace.usage flags.rest 3 = .ok () := by
    rw [hrest]
    rfl
  unfold run runReplace
  rw [(Flags.parse_eq_ok_iff _ _).mpr hread, Action.liftM_ok_bind, hchecked, Action.liftM_ok_bind,
    hcount, Action.liftM_ok_bind, hrest, writeLines_singleton]
  cases count with
  | ofNat n => rw [← hfirst n rfl]; rfl
  | negSucc n => rw [← hall (Int.negSucc_lt_zero n)]; rfl

/-- Without a number, all occurrences are replaced. -/
theorem prints_replace_all (h : Flags.Ends [s, p, r] args) :
    Prints "s-replace" args [Text.replaceAll p r s] :=
  prints_replace (Flags.read_ending _ h) rfl rfl nofun fun _ => rfl

theorem read_number (count : Int) (h : Flags.Ends [s, p, r] args) :
    Flags.read [("n", .valued)] ("-n" :: Text.ofInt count :: args) =
      .ok ⟨[("n", .value (Text.ofInt count))], [s, p, r]⟩ :=
  Flags.read_value ⟨by decide, by decide, by decide⟩ rfl .one _ h

theorem number_ofInt (count : Int) (rest : List Text) :
    Flags.number ⟨[("n", .value (Text.ofInt count))], rest⟩ Text.toInt? "n" (-1) =
      if Text.FitsInt count then .ok count
      else .error (.usage (.flagValue "n" (Text.ofInt count))) := by
  have hvalue : Flags.value? ⟨[("n", .value (Text.ofInt count))], rest⟩ "n" =
      some (Text.ofInt count) := rfl
  by_cases hfits : Text.FitsInt count <;>
    simp only [Flags.number, hvalue, Text.toInt?_ofInt, hfits, if_true, if_false]

/-- With a number, so many occurrences are replaced, or all of them if it is negative. -/
theorem prints_replace_number {count : Int} (hfits : Text.FitsInt count)
    (h : Flags.Ends [s, p, r] args) {line : Text}
    (hfirst : ∀ n : Nat, count = n → Text.replaceFirst n p r s = line)
    (hall : count < 0 → Text.replaceAll p r s = line) :
    Prints "s-replace" ("-n" :: Text.ofInt count :: args) [line] :=
  prints_replace (read_number count h) rfl (by rw [number_ofInt, if_pos hfits]) hfirst hall

/-- A number that does not fit is refused. -/
theorem refuses_number {count : Int} (hfits : ¬ Text.FitsInt count)
    (h : Flags.Ends [s, p, r] args) :
    Refuses "s-replace" ("-n" :: Text.ofInt count :: args) := by
  have hchecked : checkArguments replace.usage [s, p, r] 3 = .ok () := rfl
  refine refuses_of_run (ofName?_name .replace) (.flagValue "n" (Text.ofInt count))
    fun evaluate ctx => ?_
  unfold run runReplace
  rw [(Flags.parse_eq_ok_iff _ _).mpr (read_number count h), Action.liftM_ok_bind, hchecked,
    Action.liftM_ok_bind, number_ofInt, if_neg hfits, Action.liftM_error_bind]

/-- Three arguments of which the first looks like a flag are refused: whatever it is read as, it is
not one of the three. -/
theorem refuses_unmarked (h : ¬ Flags.BeginsPlainly [s]) : Refuses "s-replace" [s, p, r] := by
  cases hread : Flags.read [("n", .valued)] [s, p, r] with
  | error fault =>
      refine refuses_of_run (ofName?_name .replace) (.badFlag "s-replace" fault replace.usage)
        fun evaluate ctx => ?_
      unfold run runReplace
      rw [Flags.parse, hread, Except.mapError, Action.liftM_error_bind]
  | ok flags =>
      have hlength : flags.rest.length ≠ 3 := by
        intro hlength
        have hplain : Flags.BeginsPlainly [s, p, r] := Flags.beginsPlainly_of_read hread hlength
        exact h hplain
      refine refuses_of_run (ofName?_name .replace)
        (.argumentCount 3 flags.rest.length replace.usage) fun evaluate ctx => ?_
      unfold run runReplace
      rw [(Flags.parse_eq_ok_iff _ _).mpr hread, Action.liftM_ok_bind, checkArguments,
        if_neg hlength, Action.liftM_error_bind]

end Replacing

/-! ### Places -/

theorem ofNat_ne_minus_one (n : Nat) : Text.ofNat n ≠ "-1" := by
  intro h
  have hdigit : '-'.isDigit = true :=
    Text.isDigit_of_mem_ofNat (n := n) (by rw [h]; exact List.mem_cons_self)
  exact absurd hdigit (by decide)

/-- Where the first and the last occurrence are, if there is one. -/
theorem exists_places {p s first : Text} (hp : p ≠ []) {pieces : List Text}
    (hcut : Text.Cut p s pieces) (hfirst : pieces.head? = some first) :
    ∃ index last, Utility.position (Text.index? p s) = [index] ∧
      Utility.position (Text.lastIndex? p s) = [last] ∧ (1 < pieces.length ↔ index ≠ "-1") ∧
      (1 < pieces.length → index = Text.ofNat (Text.byteLength first) ∧
        ∃ before after, s = before ++ p ++ after ∧ last = Text.ofNat (Text.byteLength before) ∧
          Text.byteLength first ≤ Text.byteLength before ∧
          ∀ x y, s = x ++ p ++ y → x.length ≤ before.length) := by
  cases hcut with
  | last hnone =>
      refine ⟨"-1", "-1", by rw [Text.index?_of_absent hp hnone]; rfl,
        by rw [Text.lastIndex?_of_absent hp hnone]; rfl, ?_, ?_⟩
      · exact ⟨fun h => absurd h (Nat.lt_irrefl 1), fun h => absurd rfl h⟩
      · exact fun h => absurd h (Nat.lt_irrefl 1)
  | @cons _ piece rest found hat hrest =>
      obtain rfl : piece = first := Option.some.inj hfirst
      obtain ⟨before, after, hs, hlast, hmost⟩ := Text.exists_lastIndex? hp hat.occurs
      refine ⟨Text.ofNat (Text.byteLength piece), Text.ofNat (Text.byteLength before),
        by rw [hat.index?_eq hp]; rfl, by rw [hlast]; rfl, ?_, ?_⟩
      · have hmore : 1 < (piece :: found).length :=
          (Text.Cut.one_lt_length_iff (.cons hat hrest)).mpr hat.occurs
        exact ⟨fun _ => ofNat_ne_minus_one _, fun _ => hmore⟩
      · exact fun _ => ⟨rfl, before, after, hs, rfl, hat.byteLength_le hs, hmost⟩

/-! ### Agreement -/

/-- **The utilities that search agree.** Let a text be cut at the occurrences of a pattern that is
not empty, from the left and without overlaps. Splitting prints the pieces, none of which has the
pattern in it, and joining them by the pattern prints the text again. Counting prints how many
occurrences there are, one less than pieces. Replacing all of them prints the pieces joined by the
replacement, and so does replacing without a number, with a negative one and with one that is not
below the count. A number below it replaces so many of the first separators and leaves the others.
Looking for the pattern finds it exactly if the count is positive, and exactly then the first place
is not `-1`. It is then as many bytes from the start as the first piece has, and not behind the last
place.

The commands with flags are called with a mark behind the flags, or with a first argument that is no
flag. Otherwise replacing fails, and so it does for numbers that do not have 64 bits. -/
theorem search_utilities_agree {p : Text} (hp : p ≠ []) (s r : Text) :
    ∃ (pieces : List Text) (count : Nat) (first : Text),
      Text.Cut p s pieces ∧ pieces.length = count + 1 ∧ pieces.head? = some first ∧
      Prints "s-split" [s, p] pieces ∧ (∀ piece ∈ pieces, ¬ p <:+: piece) ∧
      (∀ args, Flags.Ends pieces args → Prints "s-join" ("--sep" :: p :: args) [s]) ∧
      Prints "s-count" [s, p] [Text.ofNat count] ∧
      Prints "s-replace-all" [s, p, r] [Text.join r pieces] ∧
      (∀ args, Flags.Ends [s, p, r] args →
        Prints "s-replace" args [Text.join r pieces] ∧
        (∀ n : Int, Text.FitsInt n → n < 0 ∨ count ≤ n →
          Prints "s-replace" ("-n" :: Text.ofInt n :: args) [Text.join r pieces]) ∧
        (∀ n : Nat, Text.FitsInt n → n < count →
          Prints "s-replace" ("-n" :: Text.ofInt n :: args)
            [Text.weave pieces (List.replicate n r ++ List.replicate (count - n) p)]) ∧
        ∀ n : Int, ¬ Text.FitsInt n → Refuses "s-replace" ("-n" :: Text.ofInt n :: args)) ∧
      (¬ Flags.BeginsPlainly [s] → Refuses "s-replace" [s, p, r]) ∧
      Prints "s-contains" [s, p] [if 0 < count then "true" else "false"] ∧
      ∃ index last, Prints "s-index" [s, p] [index] ∧ Prints "s-last-index" [s, p] [last] ∧
        (0 < count ↔ index ≠ "-1") ∧
        (0 < count → index = Text.ofNat (Text.byteLength first) ∧
          ∃ before after, s = before ++ p ++ after ∧ last = Text.ofNat (Text.byteLength before) ∧
            Text.byteLength first ≤ Text.byteLength before ∧
            ∀ x y, s = x ++ p ++ y → x.length ≤ before.length) := by
  have hcut := Text.cut_pieces hp s
  obtain ⟨first, found, hpieces⟩ := List.exists_cons_of_ne_nil hcut.ne_nil
  have hfirst : (Text.pieces p s).head? = some first := by
    rw [hpieces]
    rfl
  have hlength : (Text.pieces p s).length = Text.occurrences p s + 1 := by
    rw [Text.occurrences, hpieces]
    rfl
  obtain ⟨index, last, hindex, hlast, hnone, hplace⟩ :=
    exists_places hp hcut hfirst
  rw [Text.one_lt_length_pieces_iff] at hnone hplace
  refine ⟨Text.pieces p s, Text.occurrences p s, first, hcut, hlength, hfirst, prints_split hp s,
    hcut.absent hp, fun args hends => ?_, prints_count hp s, prints_utility .replaceAll rfl,
    fun args hends => ⟨prints_replace_all hends, ?_, ?_, ?_⟩, refuses_unmarked,
    prints_contains hp s, index, last, ?_, ?_, hnone, hplace⟩
  · have hjoin := prints_join p hends
    rwa [hcut.join_eq] at hjoin
  · intro n hfits hn
    refine prints_replace_number hfits hends (fun k hk => ?_) fun _ => rfl
    exact Text.replaceFirst_of_le p r s (by omega)
  · intro n hfits hn
    refine prints_replace_number hfits hends (fun k hk => ?_) (by omega)
    obtain rfl : n = k := Int.ofNat.inj hk
    exact Text.replaceFirst_eq_weave p r s hn
  · exact fun n hfits => refuses_number hfits hends
  · rw [← hindex]
    exact prints_utility .index rfl
  · rw [← hlast]
    exact prints_utility .lastIndex rfl

/-- A pattern that overlaps itself, behind a dash and a character of two bytes. -/
theorem search_utilities_agree_overlapping :
    Prints "s-split" ["-éaaaaa", "aa"] ["-é", "", "a"] ∧
      Prints "s-join" ["--sep", "aa", "--", "-é", "", "a"] ["-éaaaaa"] ∧
      Prints "s-count" ["-éaaaaa", "aa"] ["2"] ∧
      Prints "s-replace" ["-n", "-3", "--", "-éaaaaa", "aa", "b"] ["-ébba"] ∧
      Prints "s-replace" ["-n", "1", "--", "-éaaaaa", "aa", "b"] ["-ébaaa"] ∧
      Refuses "s-replace" ["-éaaaaa", "aa", "b"] ∧
      Prints "s-index" ["-éaaaaa", "aa"] ["3"] := by
  have hp : ("aa" : Text) ≠ [] := by decide
  obtain ⟨pieces, count, first, hcut, hlength, hfirst, hsplit, -, hjoin, hcount, -, hreplace,
    hrefuses, -, index, last, hindex, -, -, hplace⟩ := search_utilities_agree hp "-éaaaaa" "b"
  let found : List Text := ["-é", "", "a"]
  have hfound : Text.pieces "aa" "-éaaaaa" = found := by decide
  obtain rfl := hfound.symm.trans (hcut.eq_pieces hp)
  obtain rfl : count = 2 := Nat.succ.inj hlength.symm
  obtain rfl : "-é" = first := Option.some.inj hfirst
  obtain ⟨-, hmany, hfew, -⟩ := hreplace _ .marked
  have hall := hmany (-3) (by decide) (.inl (by decide))
  have hone := hfew 1 (by decide) (by decide)
  obtain ⟨rfl, -⟩ := hplace (by decide)
  have hjoined : Text.join "b" found = "-ébba" := by decide
  have hwoven : Text.weave found (List.replicate 1 ("b" : Text) ++ List.replicate 1 ("aa" : Text)) =
      "-ébaaa" := by decide
  rw [(by decide : Text.ofNat 2 = "2")] at hcount
  rw [(by decide : Text.ofInt (-3) = "-3"), hjoined] at hall
  rw [(by decide : Text.ofInt (1 : Nat) = "1"), hwoven] at hone
  rw [(by decide : Text.ofNat (Text.byteLength "-é") = "3")] at hindex
  exact ⟨hsplit, hjoin _ .marked, hcount, hall, hone, hrefuses (by decide), hindex⟩

/-- A text and a first piece that are taken for flags, and a number that does not fit. -/
theorem search_utilities_refuse :
    (Text.pieces "x" "-x" = ["-", ""] ∧ Refuses "s-replace" ["-x", "x", "y"]) ∧
      (Text.pieces "," "-a,b" = ["-a", "b"] ∧ Refuses "s-join" ["--sep", ",", "-a", "b"]) ∧
      Text.occurrences "a" "a" = 1 ∧
        Refuses "s-replace" ["-n", "9223372036854775808", "a", "a", "b"] := by
  refine ⟨⟨by decide, refuses_unmarked (by decide)⟩, ⟨by decide, ?_⟩, by decide, ?_⟩
  · exact refuses_of_run (ofName?_name .join) (.badFlag "s-join" (.notDefined "a") join.usage)
      fun evaluate ctx => rfl
  · have hfits : ¬ Text.FitsInt 9223372036854775808 := by decide
    have hnumeral : Text.ofInt 9223372036854775808 = "9223372036854775808" := by decide
    rw [← hnumeral]
    exact refuses_number hfits (.plain (by decide))

end Builtin

end Conch
