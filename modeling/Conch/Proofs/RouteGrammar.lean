import Mathlib.Data.List.Forall2
import Mathlib.Data.Nat.Digits.Defs
import Conch.Proofs.Bindings
import Conch.Proofs.Flattening
import Conch.Proofs.Routes

/-!
The grammar of routes. What is read as routes is said here without the reader: numerals with blanks
around them, one or two to a route, with a comma between routes (`Numeral`, `IsDescriptor`,
`Spells`, `SpellsAll`).

* `Text.toNat?_eq_some_iff`, `Route.ofPart_eq_ok_iff`, `Route.parse_eq_ok_iff`: the reader accepts
  exactly the grammar, from numbers up to lists of routes.
* `Builtin.runRoutesBy_eq`: what a pipe does with the routes that were read does not depend on what
  would be done with a left descriptor 0, nor on how a descriptor below 3 would be bound.
-/

namespace Conch

/-! ### Numerals -/

namespace Text

/-- The value of decimal digits: the last one counts once, and each other ten times as much as the
next. -/
def decimal (digits : Text) : Nat :=
  Nat.ofDigits 10 (digits.reverse.map fun c => c.toNat - '0'.toNat)

/-- A number below 2^64 as it may be written: one or more decimal digits, perhaps with a plus sign
in front. -/
inductive Numeral : Text → Nat → Prop
  | intro {sign digits : Text} : sign = [] ∨ sign = ['+'] → digits ≠ [] →
      (∀ c ∈ digits, c.isDigit = true) → decimal digits < 2 ^ 64 →
      Numeral (sign ++ digits) (decimal digits)

theorem decimal_concat (digits : Text) (c : Char) :
    decimal (digits ++ [c]) = 10 * decimal digits + (c.toNat - '0'.toNat) := by
  simp only [decimal, List.reverse_append, List.reverse_singleton, List.singleton_append,
    List.map_cons, Nat.ofDigits_cons]
  omega

/-- Reading digits from the left gives the value of their places. -/
theorem foldl_digits (digits : Text) :
    digits.foldl (fun n c => 10 * n + (c.toNat - '0'.toNat)) 0 = decimal digits := by
  induction digits using List.reverseRecOn with
  | nil => rfl
  | append_singleton digits c ih => rw [List.foldl_append, ih, decimal_concat]; rfl

theorem digitsValue?_eq_some_iff {s : Text} {n : Nat} :
    digitsValue? s = some n ↔ s ≠ [] ∧ (∀ c ∈ s, c.isDigit = true) ∧ decimal s = n := by
  rw [digitsValue?, foldl_digits]
  by_cases h : s ≠ [] ∧ s.all Char.isDigit = true
  · have hdigits : ∀ c ∈ s, c.isDigit = true := List.all_eq_true.mp h.2
    rw [if_pos h, Option.some_inj]
    exact ⟨fun hvalue => ⟨h.1, hdigits, hvalue⟩, fun hs => hs.2.2⟩
  · rw [if_neg h]
    constructor
    · intro hnone
      cases hnone
    · intro hs
      exact absurd ⟨hs.1, List.all_eq_true.mpr hs.2.1⟩ h

/-- A text is a plus sign with digits behind it, or is all that the sign could stand before. -/
theorem sign_cases (s : Text) :
    ∃ sign, (sign = [] ∨ sign = ['+']) ∧ s = sign ++ (afterStart? ['+'] s).getD s := by
  by_cases h : s.head? = some '+'
  · obtain ⟨rest, rfl⟩ := List.head?_eq_some_iff.mp h
    exact ⟨['+'], .inr rfl, by rw [afterStart?_cons_self]; rfl⟩
  · exact ⟨[], .inl rfl, by rw [afterStart?_of_head h]; rfl⟩

theorem unsigned_append {sign digits : Text} (hsign : sign = [] ∨ sign = ['+'])
    (hdigits : ∀ c ∈ digits, c.isDigit = true) :
    (afterStart? ['+'] (sign ++ digits)).getD (sign ++ digits) = digits := by
  rcases hsign with rfl | rfl
  · have hhead : digits.head? ≠ some '+' := by
      intro hplus
      have hdigit := hdigits '+' (List.mem_of_mem_head? hplus)
      cases hdigit
    rw [List.nil_append, afterStart?_of_head hhead]
    rfl
  · rw [List.singleton_append, afterStart?_cons_self]
    rfl

/-- **A number is read exactly from its numerals.** -/
theorem toNat?_eq_some_iff {s : Text} {n : Nat} : toNat? s = some n ↔ Numeral s n := by
  have hlargest : ∀ m, m ≤ largestNat ↔ m < 2 ^ 64 := by
    intro m
    rw [largestNat]
    omega
  rw [toNat?, Option.filter_eq_some_iff, decide_eq_true_eq, digitsValue?_eq_some_iff, hlargest]
  constructor
  · rintro ⟨⟨hnonempty, hdigits, rfl⟩, hvalue⟩
    obtain ⟨sign, hsign, hs⟩ := sign_cases s
    have hnumeral := Numeral.intro hsign hnonempty hdigits hvalue
    rwa [← hs] at hnumeral
  · rintro ⟨hsign, hnonempty, hdigits, hvalue⟩
    rw [unsigned_append hsign hdigits]
    exact ⟨⟨hnonempty, hdigits, rfl⟩, hvalue⟩

theorem Numeral.mem {s : Text} {n : Nat} (h : Numeral s n) :
    ∀ c ∈ s, c = '+' ∨ c.isDigit = true := by
  obtain ⟨hsign, -, hdigits, -⟩ := h
  intro c hc
  rcases List.mem_append.mp hc with hc | hc
  · rcases hsign with rfl | rfl
    · cases hc
    · exact .inl (List.mem_singleton.mp hc)
  · exact .inr (hdigits c hc)

theorem Numeral.ne_nil {s : Text} {n : Nat} (h : Numeral s n) : s ≠ [] := by
  obtain ⟨-, hnonempty, -, -⟩ := h
  exact fun hnil => hnonempty (List.append_eq_nil_iff.mp hnil).2

theorem Numeral.lt {s : Text} {n : Nat} (h : Numeral s n) : n < 2 ^ 64 := by
  obtain ⟨-, -, -, hvalue⟩ := h
  exact hvalue

/-- A numeral has no blanks. -/
theorem Numeral.not_blank {s : Text} {n : Nat} (h : Numeral s n) :
    ∀ c ∈ s, isBlank c = false := by
  intro c hc
  rcases h.mem c hc with rfl | hdigit
  · decide
  · exact Route.not_blank_of_isWritten (by rw [Route.isWritten, hdigit]; rfl)

theorem Numeral.tight {s : Text} {n : Nat} (h : Numeral s n) : Tight s where
  nonempty := h.ne_nil
  head := fun c hc => h.not_blank c (List.mem_of_mem_head? hc)
  last := fun c hc => h.not_blank c (List.mem_of_mem_getLast? hc)

end Text

/-! ### Routes -/

namespace Route

/-- A descriptor as it may be written: a numeral with blanks around it. -/
def IsDescriptor (part : Text) (fd : Nat) : Prop :=
  ∃ numeral, Text.Pads part numeral ∧ Text.Numeral numeral fd

/-- A route as it may be written: the left descriptor, which is not 0, and perhaps behind a colon
the right one, which is neither 1 nor 2. A right descriptor that is not written is 0. -/
inductive Spells : Text → Route → Prop
  | left {part : Text} {source : Nat} : IsDescriptor part source → source ≠ 0 →
      Spells part ⟨source, 0⟩
  | both {first second : Text} {source target : Nat} : IsDescriptor first source →
      IsDescriptor second target → source ≠ 0 → target ≠ 1 ∧ target ≠ 2 →
      Spells (first ++ ':' :: second) ⟨source, target⟩

/-- One or more routes as they may be written, with a comma between two of them. -/
inductive SpellsAll : Text → List Route → Prop
  | last {part : Text} {route : Route} : Spells part route → SpellsAll part [route]
  | cons {part rest : Text} {route : Route} {routes : List Route} : Spells part route →
      SpellsAll rest routes → SpellsAll (part ++ ',' :: rest) (route :: routes)

theorem descriptor_eq_ok_iff {part : Text} {fd : Nat} :
    descriptor part = .ok fd ↔ IsDescriptor part fd := by
  have hread : descriptor part = .ok fd ↔ Text.toNat? (Text.trim part) = some fd := by
    rw [descriptor]
    cases Text.toNat? (Text.trim part) with
    | none => simp
    | some found => rw [Except.ok.injEq, Option.some_inj]
  rw [hread, Text.toNat?_eq_some_iff]
  constructor
  · exact fun h => ⟨_, Text.pads_trim part, h⟩
  · rintro ⟨numeral, hpads, hnumeral⟩
    rwa [hpads.trim_eq, hnumeral.tight.trim_eq]

/-- A written descriptor holds neither of the two marks that stand between descriptors. -/
theorem IsDescriptor.not_mem {part : Text} {fd : Nat} (h : IsDescriptor part fd) {mark : Char}
    (hmark : mark = ':' ∨ mark = ',') : mark ∉ part := by
  obtain ⟨numeral, ⟨before, after, hbefore, hafter, rfl⟩, hnumeral⟩ := h
  have hblank : Text.isBlank mark = false := by rcases hmark with rfl | rfl <;> decide
  have hpad : ∀ pad : Text, (∀ c ∈ pad, Text.isBlank c = true) → mark ∉ pad := by
    intro pad hpad hmem
    rw [hpad mark hmem] at hblank
    cases hblank
  have hdigits : mark ∉ numeral := by
    intro hmem
    rcases hmark with rfl | rfl <;> rcases hnumeral.mem _ hmem with heq | hdigit <;> contradiction
  simp only [List.mem_append, not_or]
  exact ⟨⟨hpad before hbefore, hdigits⟩, hpad after hafter⟩

/-- A route is written with one side or with two. -/
theorem sides_cases (part : Text) :
    (':' ∉ part ∧ sides part = (part, none)) ∨
      ∃ first second, ':' ∉ first ∧ part = first ++ ':' :: second ∧
        sides part = (first, some second) := by
  by_cases h : ':' ∈ part
  · obtain ⟨first, second, rfl, hfirst⟩ := List.eq_append_cons_of_mem h
    exact .inr ⟨first, second, hfirst, rfl, by rw [sides, Flags.cut?_append hfirst]⟩
  · exact .inl ⟨h, by rw [sides, Flags.cut?_eq_none h]⟩

/-- What is asked of the two sides of a route. -/
theorem ofPart_eq_ok_iff_of_sides {part first : Text} {second : Option Text}
    (hsides : sides part = (first, second)) {route : Route} :
    ofPart part = .ok route ↔
      descriptor first = .ok route.source ∧
        (second.map descriptor).getD (.ok 0) = .ok route.target ∧
        route.source ≠ 0 ∧ route.target ≠ 1 ∧ route.target ≠ 2 := by
  obtain ⟨source, target⟩ := route
  unfold ofPart
  rw [hsides]
  cases hsource : descriptor first with
  | error fault => exact ⟨nofun, nofun⟩
  | ok found =>
      cases htarget : (second.map descriptor).getD (.ok 0) with
      | error fault => exact ⟨nofun, nofun⟩
      | ok other =>
          simp only [bind, Except.bind, Except.ok.injEq]
          by_cases hzero : found = 0
          · rw [if_pos hzero]
            refine ⟨nofun, ?_⟩
            rintro ⟨rfl, -, hsource, -⟩
            exact absurd hzero hsource
          · rw [if_neg hzero]
            by_cases hone : other = 1 ∨ other = 2
            · simp only [pure, Except.pure, if_pos hone]
              refine ⟨nofun, ?_⟩
              rintro ⟨-, rfl, -, htarget⟩
              exact absurd hone (not_or.mpr htarget)
            · simp only [pure, Except.pure, if_neg hone, Except.ok.injEq, Route.mk.injEq]
              refine ⟨?_, fun h => ⟨h.1, h.2.1⟩⟩
              rintro ⟨rfl, rfl⟩
              exact ⟨rfl, rfl, hzero, not_or.mp hone⟩

/-- **A route is read exactly from what spells it.** -/
theorem ofPart_eq_ok_iff {part : Text} {route : Route} :
    ofPart part = .ok route ↔ Spells part route := by
  constructor
  · intro h
    obtain ⟨source, target⟩ := route
    rcases sides_cases part with ⟨-, hsides⟩ | ⟨first, second, -, rfl, hsides⟩
    · obtain ⟨hsource, htarget, hzero, -⟩ := (ofPart_eq_ok_iff_of_sides hsides).mp h
      cases htarget
      exact .left (descriptor_eq_ok_iff.mp hsource) hzero
    · obtain ⟨hsource, htarget, hzero, hone⟩ := (ofPart_eq_ok_iff_of_sides hsides).mp h
      exact .both (descriptor_eq_ok_iff.mp hsource) (descriptor_eq_ok_iff.mp htarget) hzero hone
  · intro h
    cases h with
    | left hsource hzero =>
        have hsides : sides part = (part, none) := by
          rw [sides, Flags.cut?_eq_none (hsource.not_mem (.inl rfl))]
        refine (ofPart_eq_ok_iff_of_sides hsides).mpr ?_
        exact ⟨descriptor_eq_ok_iff.mpr hsource, rfl, hzero, Nat.zero_ne_one,
          (Nat.succ_ne_zero 1).symm⟩
    | @both first second source target hsource htarget hzero hone =>
        have hsides : sides (first ++ ':' :: second) = (first, some second) := by
          rw [sides, Flags.cut?_append (hsource.not_mem (.inl rfl))]
        refine (ofPart_eq_ok_iff_of_sides hsides).mpr ?_
        exact ⟨descriptor_eq_ok_iff.mpr hsource, descriptor_eq_ok_iff.mpr htarget, hzero, hone⟩

theorem Spells.comma_not_mem {part : Text} {route : Route} (h : Spells part route) :
    ',' ∉ part := by
  cases h with
  | left hsource _ => exact hsource.not_mem (.inr rfl)
  | both hsource htarget _ _ =>
      simp only [List.mem_append, List.mem_cons, not_or]
      exact ⟨hsource.not_mem (.inr rfl), by decide, htarget.not_mem (.inr rfl)⟩

theorem Spells.isValid {part : Text} {route : Route} (h : Spells part route) : route.IsValid := by
  have hle : ∀ {s : Text} {fd : Nat}, IsDescriptor s fd → fd ≤ Text.largestNat := by
    rintro s fd ⟨numeral, -, hnumeral⟩
    have hlt := hnumeral.lt
    rw [Text.largestNat]
    omega
  cases h with
  | left hsource hzero => exact ⟨hzero, hle hsource, ⟨nofun, nofun⟩, Nat.zero_le _⟩
  | both hsource htarget hzero hone => exact ⟨hzero, hle hsource, hone, hle htarget⟩

/-- The routes of a list of parts. -/
theorem mapM_ofPart_eq_ok_iff {parts : List Text} {routes : List Route} :
    parts.mapM ofPart = .ok routes ↔ List.Forall₂ Spells parts routes := by
  induction parts generalizing routes with
  | nil =>
      rw [List.forall₂_nil_left_iff]
      exact ⟨fun h => (Except.ok.inj h).symm, fun h => by rw [h]; rfl⟩
  | cons part parts ih =>
      simp only [List.mapM_cons, List.forall₂_cons_left_iff, ← ofPart_eq_ok_iff, ← ih]
      cases ofPart part with
      | error fault => simp [bind, Except.bind]
      | ok route =>
          cases parts.mapM ofPart with
          | error fault => simp [bind, Except.bind]
          | ok rest => simp [bind, Except.bind, pure, Except.pure, eq_comm]

/-- What is written for several routes is what is written for each, between the commas. -/
theorem spellsAll_iff {spec : Text} {routes : List Route} :
    SpellsAll spec routes ↔ List.Forall₂ Spells (spec.splitOnP (· == ',')) routes := by
  constructor
  · intro h
    induction h with
    | last hpart =>
        rw [Text.splitOnP_of_not_mem hpart.comma_not_mem]
        exact .cons hpart .nil
    | cons hpart _ ih =>
        rw [Text.splitOnP_append_mark hpart.comma_not_mem]
        exact .cons hpart ih
  · intro h
    generalize hparts : spec.splitOnP (· == ',') = parts at h
    induction h generalizing spec with
    | nil => exact absurd hparts (List.splitOnP_ne_nil _ _)
    | @cons part route parts routes hpart hrest ih =>
        by_cases hcomma : ',' ∈ spec
        · obtain ⟨first, rest, rfl, hfirst⟩ := List.eq_append_cons_of_mem hcomma
          rw [Text.splitOnP_append_mark hfirst, List.cons.injEq] at hparts
          obtain ⟨rfl, hparts⟩ := hparts
          exact .cons hpart (ih hparts)
        · rw [Text.splitOnP_of_not_mem hcomma, List.cons.injEq] at hparts
          obtain ⟨rfl, rfl⟩ := hparts
          cases hrest
          exact .last hpart

/-- **Routes are read exactly from what spells them.** -/
theorem parse_eq_ok_iff {spec : Text} {routes : List Route} :
    parse spec = .ok routes ↔ SpellsAll spec routes := by
  rw [spellsAll_iff, ← mapM_ofPart_eq_ok_iff, parse]
  cases (spec.splitOnP (· == ',')).mapM ofPart with
  | error fault => simp [Except.mapError]
  | ok found => rw [Except.mapError, Except.ok.injEq, Except.ok.injEq]

/-- Something is read exactly if every part between the commas spells a route. -/
theorem exists_parse_eq_ok_iff {spec : Text} :
    (∃ routes, parse spec = .ok routes) ↔
      ∀ part ∈ spec.splitOn ',', ∃ route, Spells part route := by
  simp only [parse_eq_ok_iff, spellsAll_iff]
  show (∃ routes, List.Forall₂ Spells (spec.splitOn ',') routes) ↔ _
  induction spec.splitOn ',' with
  | nil => exact ⟨fun _ => by simp, fun _ => ⟨[], .nil⟩⟩
  | cons part parts ih =>
      rw [List.forall_mem_cons, ← ih]
      constructor
      · rintro ⟨_, _ | ⟨hpart, hrest⟩⟩
        exact ⟨⟨_, hpart⟩, _, hrest⟩
      · rintro ⟨⟨route, hpart⟩, routes, hrest⟩
        exact ⟨route :: routes, .cons hpart hrest⟩

theorem SpellsAll.isValid {spec : Text} {routes : List Route} (h : SpellsAll spec routes) :
    ∀ route ∈ routes, route.IsValid := by
  induction h with
  | last hpart => exact List.forall_mem_singleton.mpr hpart.isValid
  | cons hpart _ ih => exact List.forall_mem_cons.mpr ⟨hpart.isValid, ih⟩

end Route

/-! ### Descriptors that are never bound -/

namespace Builtin

variable (onInput : Except ShellError Context) (bindExtra : Context → Nat → Endpoint → Context)

/-- An output descriptor bound to an endpoint, with other ways to treat descriptor 0 and to bind
the descriptors from 3 on. -/
def redirectBy (ctx : Context) (fd : Nat) (endpoint : Endpoint) : Except ShellError Context :=
  match fd with
  | 0 => onInput
  | 1 => .ok { ctx with stdout := endpoint }
  | 2 => .ok { ctx with stderr := endpoint }
  | fd => .ok (bindExtra ctx fd endpoint)

/-- One turn of a pipe with these other ways. -/
def runRouteBy (evaluate : Evaluator) (ctx : Context) (left right : Text) (route : Route) :
    Action Flow := do
  let leftContext ← redirectBy onInput bindExtra ctx route.source (.outlet route.source)
  let (flow, written) ← Action.capture route.source (evaluate leftContext left)
  match flow with
  | .exit => return .exit
  | .proceed =>
    let rightContext :=
      if route.target = 0 then { ctx with stdin := .channel 0 }
      else bindExtra ctx route.target (.channel route.target)
    Action.withChannel route.target (.pipe written) (evaluate rightContext right)

/-- All turns of a pipe with these other ways. -/
def runRoutesBy (evaluate : Evaluator) (ctx : Context) (left right : Text) :
    List Route → Action Flow
  | [] => pure .proceed
  | route :: routes => do
    match ← runRouteBy onInput bindExtra evaluate ctx left right route with
    | .exit => return .exit
    | .proceed => runRoutesBy evaluate ctx left right routes

variable {onInput bindExtra}
  (hbind : ∀ ctx fd endpoint, Context.firstExtra ≤ fd →
    bindExtra ctx fd endpoint = ctx.bind fd endpoint)

include hbind

theorem redirectBy_eq {fd : Nat} (h : fd ≠ 0) (ctx : Context) (endpoint : Endpoint) :
    redirectBy onInput bindExtra ctx fd endpoint = ctx.redirect fd endpoint := by
  rcases fd with _ | _ | _ | fd
  · exact absurd rfl h
  · rfl
  · rfl
  · exact congrArg Except.ok (hbind ctx (fd + 3) endpoint (Nat.le_add_left ..))

theorem runRouteBy_eq {route : Route} (h : route.IsValid) (evaluate : Evaluator) (ctx : Context)
    (left right : Text) :
    runRouteBy onInput bindExtra evaluate ctx left right route =
      runRoute evaluate ctx left right route := by
  have hright : (if route.target = 0 then { ctx with stdin := .channel 0 }
      else bindExtra ctx route.target (.channel route.target)) =
        rightContext ctx route.target := by
    rw [rightContext]
    by_cases hzero : route.target = 0
    · rw [if_pos hzero, if_pos hzero]
    · have hextra : Context.firstExtra ≤ route.target := by
        have hone := h.target_ne
        rw [Context.firstExtra]
        omega
      rw [if_neg hzero, if_neg hzero, hbind ctx _ _ hextra]
  unfold runRouteBy
  simp only [redirectBy_eq hbind h.source_pos, hright]
  rfl

/-- **The routes that are read bind what can be bound.** Neither is descriptor 0 piped from, nor is
a descriptor below 3 bound as one of the extra ones: whatever would be done then, the same is
done. -/
theorem runRoutesBy_eq {routes : List Route} (h : ∀ route ∈ routes, route.IsValid)
    (evaluate : Evaluator) (ctx : Context) (left right : Text) :
    runRoutesBy onInput bindExtra evaluate ctx left right routes =
      runRoutes evaluate ctx left right routes := by
  induction routes with
  | nil => rfl
  | cons route routes ih =>
      obtain ⟨hroute, hroutes⟩ := List.forall_mem_cons.mp h
      rw [runRoutesBy, runRouteBy_eq hbind hroute, ih hroutes]
      rfl

end Builtin

/-- **Exactly the grammar of routes is read.** A text is read as routes exactly if it spells them,
part by part between the commas. Every list of routes that can be written is what is read from its
written form. All routes that are read can be written, and so a pipe neither gets to the failure for
a left descriptor 0 nor binds a descriptor below 3 among the extra ones. -/
theorem routes_accepted_exactly (spec : Text) :
    (∀ routes, Route.parse spec = .ok routes ↔ Route.SpellsAll spec routes) ∧
    ((∃ routes, Route.parse spec = .ok routes) ↔
      ∀ part ∈ spec.splitOn ',', ∃ route, Route.Spells part route) ∧
    (∀ routes, routes ≠ [] → (∀ route ∈ routes, route.IsValid) →
      Route.parse (Route.print routes) = .ok routes) ∧
    ∀ routes, Route.parse spec = .ok routes →
      (∀ route ∈ routes, route.IsValid) ∧
      ∀ onInput bindExtra,
        (∀ ctx fd endpoint, Context.firstExtra ≤ fd →
          bindExtra ctx fd endpoint = ctx.bind fd endpoint) →
        ∀ evaluate ctx left right,
          Builtin.runRoutesBy onInput bindExtra evaluate ctx left right routes =
            Builtin.runRoutes evaluate ctx left right routes := by
  refine ⟨fun routes => Route.parse_eq_ok_iff, Route.exists_parse_eq_ok_iff,
    fun routes hnonempty hvalid => Route.parse_print hnonempty hvalid, fun routes hparse => ?_⟩
  have hvalid := (Route.parse_eq_ok_iff.mp hparse).isValid
  exact ⟨hvalid, fun onInput bindExtra hbind evaluate ctx left right =>
    Builtin.runRoutesBy_eq hbind hvalid evaluate ctx left right⟩

theorem routes_accepted_exactly_blanks :
    Route.SpellsAll " +1 :003,\t18446744073709551615" [⟨1, 3⟩, ⟨18446744073709551615, 0⟩] ∧
      (¬ ∃ routes, Route.parse "1,18446744073709551616" = .ok routes) ∧
      Route.parse (Route.print [⟨2, 5⟩, ⟨7, 0⟩]) = .ok [⟨2, 5⟩, ⟨7, 0⟩] ∧
      ∀ evaluate ctx left right,
        Builtin.runRoutesBy (.error .cancelled)
          (fun ctx fd endpoint => if fd < 3 then {} else ctx.bind fd endpoint)
          evaluate ctx left right [⟨1, 3⟩, ⟨18446744073709551615, 0⟩] =
        Builtin.runRoutes evaluate ctx left right [⟨1, 3⟩, ⟨18446744073709551615, 0⟩] := by
  have hread : Route.parse " +1 :003,\t18446744073709551615" =
      .ok [⟨1, 3⟩, ⟨18446744073709551615, 0⟩] := by decide +kernel
  have hexact := routes_accepted_exactly " +1 :003,\t18446744073709551615"
  refine ⟨(hexact.1 _).mp hread, ?_, hexact.2.2.1 _ (by decide) ?_, ?_⟩
  · rintro ⟨routes, hroutes⟩
    have hrefused : (Route.parse "1,18446744073709551616").toOption = none := by decide +kernel
    rw [hroutes] at hrefused
    cases hrefused
  · simp only [List.forall_mem_cons]
    exact ⟨⟨by decide, by decide, by decide, by decide⟩,
      ⟨by decide, by decide, by decide, by decide⟩, fun _ hmem => absurd hmem List.not_mem_nil⟩
  · refine (hexact.2.2.2 _ hread).2 _ _ fun ctx fd endpoint hfd => if_neg ?_
    exact Nat.not_lt.mpr hfd

end Conch
