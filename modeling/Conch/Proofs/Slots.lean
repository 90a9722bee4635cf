import Conch.Proofs.RouteGrammar

/-!
Extra descriptors as an array with gaps. Calls bind descriptors of a context one after another, in
any order and again and again. What an extra descriptor is bound to then, and how many places the
list of them has, is told from the calls alone.

* `Binding`: a call that binds a descriptor. Only an extra descriptor can be bound as one.
* `Context.Keeps`: the list of a context keeps what was bound, with gaps up to the highest place.
* `Context.Keeps.apply`: one call keeps that up, so any calls do (`Context.keeps_foldl`).
* `Binding.reader_apply_iff`, `Binding.writer_apply_iff`: a call changes one descriptor only.
* `extra_descriptors_sparse`: all of it together, for the calls that pipes make as well.
-/

namespace Conch

/-- A call that binds a descriptor of a context to an endpoint. -/
inductive Binding where
  /-- Binds an extra descriptor. -/
  | extra (fd : Nat) (isExtra : Context.firstExtra ≤ fd) (endpoint : Endpoint)
  /-- Redirects an output descriptor, which may be an extra one. -/
  | redirect (fd : Nat) (endpoint : Endpoint)

namespace Binding

/-- The descriptor that a call is about. -/
def fd : Binding → Nat
  | .extra fd _ _ => fd
  | .redirect fd _ => fd

/-- What a call binds the descriptor to. -/
def endpoint : Binding → Endpoint
  | .extra _ _ endpoint => endpoint
  | .redirect _ endpoint => endpoint

/-- The context after a call. A call that is refused leaves it as it was. -/
def apply (ctx : Context) : Binding → Context
  | .extra fd _ endpoint => ctx.bind fd endpoint
  | .redirect fd endpoint => (ctx.redirect fd endpoint).toOption.getD ctx

/-- The extra descriptor that a call binds, with what it is bound to. -/
def slot? (binding : Binding) : Option (Nat × Endpoint) :=
  if Context.firstExtra ≤ binding.fd then some (binding.fd, binding.endpoint) else none

/-- What calls have bound extra descriptors to, the latest first. -/
def latestFirst (bindings : List Binding) : List (Nat × Endpoint) :=
  bindings.reverse.filterMap slot?

end Binding

/-- The number of places up to the highest of some extra descriptors. -/
def slotCount (bound : List (Nat × Endpoint)) : Nat :=
  (bound.map Prod.fst).max?.elim 0 (· - 2)

theorem slotCount_cons (fd : Nat) (endpoint : Endpoint) (bound : List (Nat × Endpoint)) :
    slotCount ((fd, endpoint) :: bound) = max (fd - 2) (slotCount bound) := by
  unfold slotCount
  rw [List.map_cons, List.max?_cons]
  cases (bound.map Prod.fst).max? with
  | none => simp
  | some highest =>
      show max fd highest - 2 = max (fd - 2) (highest - 2)
      omega

namespace Context

variable {ctx : Context} {bound : List (Nat × Endpoint)}

/-! ### What the list of extra descriptors keeps -/

/-- The list of extra descriptors keeps what was bound, the latest for each descriptor, and reaches
up to the highest of them. -/
structure Keeps (ctx : Context) (bound : List (Nat × Endpoint)) : Prop where
  length : ctx.extra.length = slotCount bound
  lookup : ∀ fd, ctx.extraEndpoint? fd = bound.lookup fd

theorem keeps_nil (h : ctx.extra = []) : ctx.Keeps [] where
  length := by rw [h]; rfl
  lookup fd := by
    unfold extraEndpoint?
    rw [h]
    split_ifs <;> rfl

theorem length_bind {fd : Nat} (hfd : firstExtra ≤ fd) (ctx : Context) (endpoint : Endpoint) :
    (ctx.bind fd endpoint).extra.length = max (fd - 2) ctx.extra.length := by
  have hfirst : firstExtra = 3 := rfl
  unfold bind
  dsimp only
  split_ifs with hfits
  · rw [List.length_set]
    omega
  · rw [List.length_append, List.length_append, List.length_replicate, List.length_singleton]
    omega

theorem Keeps.bind (h : ctx.Keeps bound) {fd : Nat} (hfd : firstExtra ≤ fd) (endpoint : Endpoint) :
    (ctx.bind fd endpoint).Keeps ((fd, endpoint) :: bound) where
  length := by rw [length_bind hfd, slotCount_cons, h.length]
  lookup other := by
    rw [extraEndpoint?_bind hfd, List.lookup_cons, h.lookup]
    by_cases hother : other = fd
    · rw [if_pos hother, hother, beq_self_eq_true]
    · rw [if_neg hother, beq_false_of_ne hother]

/-- A call binds an extra descriptor, or the list of them stays as it is. -/
theorem Keeps.apply (h : ctx.Keeps bound) (binding : Binding) :
    (binding.apply ctx).Keeps (binding.slot?.toList ++ bound) := by
  cases binding with
  | extra fd isExtra endpoint =>
      have hslot : (Binding.extra fd isExtra endpoint).slot? = some (fd, endpoint) := if_pos isExtra
      rw [hslot]
      exact h.bind isExtra endpoint
  | redirect fd endpoint =>
      rcases fd with _ | _ | _ | fd
      · exact ⟨h.length, h.lookup⟩
      · exact ⟨h.length, h.lookup⟩
      · exact ⟨h.length, h.lookup⟩
      · exact h.bind (Nat.le_add_left ..) endpoint

/-- **After any calls the list keeps what they bound.** -/
theorem keeps_foldl (h : ctx.extra = []) (bindings : List Binding) :
    (bindings.foldl Binding.apply ctx).Keeps (Binding.latestFirst bindings) := by
  induction bindings using List.reverseRecOn with
  | nil => exact keeps_nil h
  | append_singleton before binding ih =>
      have hlatest : Binding.latestFirst (before ++ [binding]) =
          binding.slot?.toList ++ Binding.latestFirst before := by
        unfold Binding.latestFirst
        rw [List.reverse_append, List.reverse_singleton, List.singleton_append,
          List.filterMap_cons]
        cases binding.slot? <;> rfl
      rw [List.foldl_append, hlatest]
      exact ih.apply binding

theorem Keeps.extraEndpoint_eq (h : ctx.Keeps bound) (fd : Nat) :
    ctx.extraEndpoint fd =
      (bound.lookup fd).elim (.error (.notBound fd ctx.extra.length)) .ok := by
  unfold extraEndpoint
  cases hlookup : bound.lookup fd with
  | none => simp only [h.lookup, hlookup, Option.elim_none]
  | some endpoint => simp only [h.lookup, hlookup, Option.elim_some]

/-! ### Reading and writing -/

theorem reader_of_isExtra {fd : Nat} (h : firstExtra ≤ fd) :
    ctx.reader fd = ctx.extraEndpoint fd := by
  obtain ⟨place, rfl⟩ := Nat.exists_eq_add_of_le' h
  rfl

theorem writer_of_isExtra {fd : Nat} (h : firstExtra ≤ fd) :
    ctx.writer fd = ctx.extraEndpoint fd := by
  obtain ⟨place, rfl⟩ := Nat.exists_eq_add_of_le' h
  rfl

end Context

namespace Binding

variable {ctx : Context} {binding : Binding}

theorem apply_eq_rebind (h : binding.fd ≠ 0) :
    binding.apply ctx = ctx.rebind binding.fd binding.endpoint := by
  cases binding with
  | extra fd isExtra endpoint =>
      obtain ⟨place, rfl⟩ := Nat.exists_eq_add_of_le' isExtra
      rfl
  | redirect fd endpoint =>
      have hfd : fd ≠ 0 := h
      show (ctx.redirect fd endpoint).toOption.getD ctx = ctx.rebind fd endpoint
      rw [Context.redirect_eq_rebind hfd]
      rfl

/-- The input cannot be bound by a call. -/
theorem apply_of_fd_eq_zero (h : binding.fd = 0) : binding.apply ctx = ctx := by
  cases binding with
  | extra fd isExtra endpoint =>
      have hzero : fd = 0 := h
      exact absurd isExtra (by rw [hzero]; decide)
  | redirect fd endpoint =>
      have hzero : fd = 0 := h
      subst hzero
      rfl

/-- **A call binds its own descriptor and no other.** -/
theorem endpoint?_apply (other : Nat) :
    (binding.apply ctx).endpoint? other =
      if other = binding.fd ∧ binding.fd ≠ 0 then some binding.endpoint
      else ctx.endpoint? other := by
  by_cases hzero : binding.fd = 0
  · rw [apply_of_fd_eq_zero hzero, if_neg fun h => h.2 hzero]
  · rw [apply_eq_rebind hzero, Context.endpoint?_rebind]
    simp only [hzero, ne_eq, not_false_eq_true, and_true]

theorem reader_apply_iff {other : Nat} (h : other ≠ binding.fd) (endpoint : Endpoint) :
    (binding.apply ctx).reader other = .ok endpoint ↔ ctx.reader other = .ok endpoint := by
  rw [Context.reader_eq_ok_iff, Context.reader_eq_ok_iff, endpoint?_apply, if_neg fun hsame =>
    h hsame.1]

theorem writer_apply_iff {other : Nat} (h : other ≠ binding.fd) (endpoint : Endpoint) :
    (binding.apply ctx).writer other = .ok endpoint ↔ ctx.writer other = .ok endpoint := by
  rw [Context.writer_eq_ok_iff, Context.writer_eq_ok_iff, endpoint?_apply, if_neg fun hsame =>
    h hsame.1]

theorem writer_apply_self (h : binding.fd ≠ 0) :
    (binding.apply ctx).writer binding.fd = .ok binding.endpoint := by
  rw [Context.writer_eq_ok_iff, endpoint?_apply, if_pos ⟨rfl, h⟩]
  exact ⟨h, rfl⟩

end Binding

/-! ### The calls of pipes -/

/-- A route that a pipe can have: the standard one, or one that is read from a text. -/
def Route.IsUsed (route : Route) : Prop :=
  route ∈ Route.standard ∨ ∃ spec routes, Route.parse spec = .ok routes ∧ route ∈ routes

theorem Route.IsUsed.isValid {route : Route} (h : route.IsUsed) : route.IsValid := by
  rcases h with hstandard | ⟨spec, routes, hparse, hroute⟩
  · rw [Route.standard, List.mem_singleton] at hstandard
    subst hstandard
    exact ⟨by decide, by decide, by decide, by decide⟩
  · exact (Route.parse_eq_ok_iff.mp hparse).isValid route hroute

/-- The left side of a route is redirected by a call that is not refused. -/
theorem redirect_of_isUsed {route : Route} (h : route.IsUsed) (ctx : Context)
    (endpoint : Endpoint) :
    ctx.redirect route.source endpoint =
      .ok ((Binding.redirect route.source endpoint).apply ctx) := by
  have hfd : (Binding.redirect route.source endpoint).fd ≠ 0 := h.isValid.source_pos
  rw [Binding.apply_eq_rebind hfd]
  exact Context.redirect_eq_rebind hfd ctx endpoint

/-- The right side of a route reads the input or an extra descriptor. -/
theorem isExtra_of_isUsed {route : Route} (h : route.IsUsed) (htarget : route.target ≠ 0) :
    Context.firstExtra ≤ route.target := by
  have hfirst : Context.firstExtra = 3 := rfl
  obtain ⟨hone, htwo⟩ := h.isValid.target_ne
  omega

/-- **Extra descriptors are an array with gaps.** Take any calls that bind descriptors, from a
context without extra ones. The list of extra descriptors has as many places as the highest that was
ever bound needs. Each of them is bound to what it was bound to last; one that never was, and every
descriptor that is not an extra one, fails with its number and the number of places. Reading and
writing extra descriptors is that look-up. A call binds its own descriptor, unless it is refused,
which is so for the input only, and no other descriptor reads or writes anything else after it. The
calls that pipes make are of this kind. -/
theorem extra_descriptors_sparse {ctx : Context} (h : ctx.extra = []) (bindings : List Binding) :
    let reached := bindings.foldl Binding.apply ctx
    let bound := Binding.latestFirst bindings
    reached.extra.length = (bound.map Prod.fst).max?.elim 0 (· - 2) ∧
    (∀ fd, reached.extraEndpoint fd =
      (bound.lookup fd).elim (.error (.notBound fd reached.extra.length)) .ok) ∧
    (∀ fd, Context.firstExtra ≤ fd →
      reached.reader fd = reached.extraEndpoint fd ∧
      reached.writer fd = reached.extraEndpoint fd) ∧
    (∀ binding : Binding,
      (binding.fd = 0 → binding.apply reached = reached) ∧
      (binding.fd ≠ 0 → (binding.apply reached).writer binding.fd = .ok binding.endpoint) ∧
      ∀ other, other ≠ binding.fd → ∀ endpoint,
        ((binding.apply reached).reader other = .ok endpoint ↔
          reached.reader other = .ok endpoint) ∧
        ((binding.apply reached).writer other = .ok endpoint ↔
          reached.writer other = .ok endpoint)) ∧
    ∀ route : Route, route.IsUsed →
      (∀ endpoint, reached.redirect route.source endpoint =
        .ok ((Binding.redirect route.source endpoint).apply reached)) ∧
      (route.target ≠ 0 → ∃ isExtra, Builtin.rightContext reached route.target =
        (Binding.extra route.target isExtra (.channel route.target)).apply reached) := by
  intro reached bound
  have hkeeps : reached.Keeps bound := Context.keeps_foldl h bindings
  refine ⟨hkeeps.length, hkeeps.extraEndpoint_eq, ?_, ?_, ?_⟩
  · intro fd hfd
    exact ⟨Context.reader_of_isExtra hfd, Context.writer_of_isExtra hfd⟩
  · intro binding
    refine ⟨Binding.apply_of_fd_eq_zero, Binding.writer_apply_self, ?_⟩
    intro other hother endpoint
    exact ⟨Binding.reader_apply_iff hother endpoint, Binding.writer_apply_iff hother endpoint⟩
  · intro route hroute
    refine ⟨redirect_of_isUsed hroute reached, ?_⟩
    intro htarget
    exact ⟨isExtra_of_isUsed hroute htarget, if_neg htarget⟩

/-- Descriptor 6, then 4, then 6 again, with the output in between: a gap is left at 3 and at 5. -/
theorem extra_descriptors_sparse_rebound :
    let bindings : List Binding :=
      [.redirect 6 (.outlet 6), .extra 4 (by decide) (.channel 4), .redirect 1 (.channel 1),
        .extra 6 (by decide) (.channel 6), .redirect 0 (.outlet 0)]
    let reached := bindings.foldl Binding.apply {}
    ({} : Context).extra = [] ∧ reached.extra.length = 4 ∧
      reached.reader 6 = .ok (.channel 6) ∧ reached.extraEndpoint 4 = .ok (.channel 4) ∧
      reached.extraEndpoint 5 = .error (.notBound 5 4) ∧
      reached.extraEndpoint 1 = .error (.notBound 1 4) ∧
      Builtin.rightContext reached 5 = reached.bind 5 (.channel 5) := by
  intro bindings reached
  have hnone : ({} : Context).extra = [] := rfl
  obtain ⟨hlength, hlookup, hreads, -, hroutes⟩ := extra_descriptors_sparse hnone bindings
  have hcount : reached.extra.length = 4 := hlength
  have hused : Route.IsUsed ⟨2, 5⟩ := .inr ⟨"2:5", [⟨2, 5⟩], by decide, by decide⟩
  refine ⟨hnone, hcount, ?_, hlookup 4, ?_, ?_, ?_⟩
  · exact ((hreads 6 (by decide)).1).trans (hlookup 6)
  · rw [← hcount]
    exact hlookup 5
  · rw [← hcount]
    exact hlookup 1
  · obtain ⟨_, hright⟩ := (hroutes ⟨2, 5⟩ hused).2 (by decide)
    exact hright

end Conch
