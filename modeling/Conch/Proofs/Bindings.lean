import Conch.Builtin.Control
import Conch.Process.Launch

/-!
What descriptors are bound to. Descriptors 0, 1 and 2 have places of their own in a context and the
others share a list with gaps, but all are looked up and bound alike (`endpoint?`, `rebind`).

* `endpoint?_rebind`: binding a descriptor changes that descriptor only.
* `IsWired`: an endpoint is known by the number of the descriptor that it is bound to. So no two
  descriptors share an endpoint. All contexts that the shell makes are so.
-/

namespace Conch.Context

/-- What a descriptor is bound to. -/
def endpoint? (ctx : Context) : Nat → Option Endpoint
  | 0 => some ctx.stdin
  | 1 => some ctx.stdout
  | 2 => some ctx.stderr
  | fd => ctx.extraEndpoint? fd

/-- The context with a descriptor bound to an endpoint. -/
def rebind (ctx : Context) (fd : Nat) (endpoint : Endpoint) : Context :=
  match fd with
  | 0 => { ctx with stdin := endpoint }
  | 1 => { ctx with stdout := endpoint }
  | 2 => { ctx with stderr := endpoint }
  | fd => ctx.bind fd endpoint

/-! ### Looking up and binding -/

/-- A list with empty places behind it holds what it held. -/
theorem join_getElem?_append_none (list : List (Option Endpoint)) (count place : Nat) :
    ((list ++ List.replicate count none)[place]?).join = (list[place]?).join := by
  rw [List.getElem?_append]
  split
  · rfl
  · next hplace =>
    rw [List.getElem?_replicate, List.getElem?_eq_none (Nat.le_of_not_lt hplace)]
    split <;> rfl

/-- What is bound at a place of the list after one place of it has been filled. -/
theorem endpointAt_bind (ctx : Context) (fd : Nat) (endpoint : Endpoint) (place : Nat) :
    ((ctx.bind fd endpoint).extra[place]?).join =
      if place = fd - firstExtra then some endpoint else (ctx.extra[place]?).join := by
  have hextra : (ctx.bind fd endpoint).extra =
      if fd - firstExtra < ctx.extra.length then ctx.extra.set (fd - firstExtra) (some endpoint)
      else ctx.extra ++ List.replicate (fd - firstExtra - ctx.extra.length) none ++
        [some endpoint] := rfl
  rw [hextra]
  -- the place is there already, or the list grows up to it
  by_cases hfits : fd - firstExtra < ctx.extra.length
  · rw [if_pos hfits]
    by_cases hplace : place = fd - firstExtra
    · rw [if_pos hplace, hplace, List.getElem?_set_self hfits]
      rfl
    · rw [if_neg hplace, List.getElem?_set_ne (Ne.symm hplace)]
  · rw [if_neg hfits]
    generalize hempty : List.replicate (fd - firstExtra - ctx.extra.length) none = empty
    have hlength : (ctx.extra ++ empty).length = fd - firstExtra := by
      rw [← hempty, List.length_append, List.length_replicate]
      omega
    by_cases hplace : place = fd - firstExtra
    · rw [if_pos hplace, List.getElem?_append_right (by omega), hlength, hplace, Nat.sub_self]
      rfl
    · rw [if_neg hplace, ← join_getElem?_append_none ctx.extra _ place, hempty]
      by_cases hbelow : place < fd - firstExtra
      · rw [List.getElem?_append_left (by omega)]
      · have hwhole : (ctx.extra ++ empty ++ [some endpoint]).length ≤ place := by
          rw [List.length_append, hlength, List.length_singleton]
          omega
        rw [List.getElem?_eq_none hwhole, List.getElem?_eq_none (by omega)]

/-- Binding an extra descriptor changes that descriptor only. -/
theorem extraEndpoint?_bind {fd : Nat} (hfd : firstExtra ≤ fd) (ctx : Context)
    (endpoint : Endpoint) (other : Nat) :
    (ctx.bind fd endpoint).extraEndpoint? other =
      if other = fd then some endpoint else ctx.extraEndpoint? other := by
  unfold extraEndpoint?
  by_cases hother : other < firstExtra
  · rw [if_pos hother, if_pos hother, if_neg (by omega)]
  · rw [if_neg hother, if_neg hother, endpointAt_bind]
    have hplace : other - firstExtra = fd - firstExtra ↔ other = fd := by omega
    simp only [hplace]

/-- **Binding a descriptor changes that descriptor only.** -/
theorem endpoint?_rebind (ctx : Context) (fd : Nat) (endpoint : Endpoint) (other : Nat) :
    (ctx.rebind fd endpoint).endpoint? other =
      if other = fd then some endpoint else ctx.endpoint? other := by
  rcases fd with _ | _ | _ | fd
  · rcases other with _ | _ | _ | other <;> rfl
  · rcases other with _ | _ | _ | other <;> rfl
  · rcases other with _ | _ | _ | other <;> rfl
  · rcases other with _ | _ | _ | other
    · rfl
    · rfl
    · rfl
    · exact extraEndpoint?_bind (Nat.le_add_left ..) ctx endpoint (other + 3)

theorem stdout_rebind {fd : Nat} (h : fd ≠ 1) (ctx : Context) (endpoint : Endpoint) :
    (ctx.rebind fd endpoint).stdout = ctx.stdout := by
  have hbound := endpoint?_rebind ctx fd endpoint 1
  rw [if_neg (Ne.symm h)] at hbound
  exact Option.some.inj hbound

theorem cancel_rebind (ctx : Context) (fd : Nat) (endpoint : Endpoint) :
    (ctx.rebind fd endpoint).cancel = ctx.cancel := by
  rcases fd with _ | _ | _ | fd <;> rfl

theorem redirect_eq_rebind {fd : Nat} (h : fd ≠ 0) (ctx : Context) (endpoint : Endpoint) :
    ctx.redirect fd endpoint = .ok (ctx.rebind fd endpoint) := by
  rcases fd with _ | _ | _ | fd
  · exact absurd rfl h
  · rfl
  · rfl
  · rfl

/-- The right side of a route reads the channel with the number of its descriptor. -/
theorem rightContext_eq_rebind {fd : Nat} (h : fd ≠ 1 ∧ fd ≠ 2) (ctx : Context) :
    Builtin.rightContext ctx fd = ctx.rebind fd (.channel fd) := by
  rcases fd with _ | _ | _ | fd
  · rfl
  · exact absurd rfl h.1
  · exact absurd rfl h.2
  · rfl

theorem extraEndpoint_eq_ok_iff {ctx : Context} {fd : Nat} {endpoint : Endpoint} :
    ctx.extraEndpoint fd = .ok endpoint ↔ ctx.extraEndpoint? fd = some endpoint := by
  unfold extraEndpoint
  cases ctx.extraEndpoint? fd <;> simp

/-- A descriptor is read where it is bound, unless it is an output. -/
theorem reader_eq_ok_iff {ctx : Context} {fd : Nat} {endpoint : Endpoint} :
    ctx.reader fd = .ok endpoint ↔ (fd ≠ 1 ∧ fd ≠ 2) ∧ ctx.endpoint? fd = some endpoint := by
  rcases fd with _ | _ | _ | fd
  · simp [reader, endpoint?]
  · simp [reader]
  · simp [reader]
  · show ctx.extraEndpoint (fd + 3) = .ok endpoint ↔
      _ ∧ ctx.extraEndpoint? (fd + 3) = some endpoint
    rw [extraEndpoint_eq_ok_iff]
    simp

/-- A descriptor is written where it is bound, unless it is the input. -/
theorem writer_eq_ok_iff {ctx : Context} {fd : Nat} {endpoint : Endpoint} :
    ctx.writer fd = .ok endpoint ↔ fd ≠ 0 ∧ ctx.endpoint? fd = some endpoint := by
  rcases fd with _ | _ | _ | fd
  · simp [writer]
  · simp [writer, endpoint?]
  · simp [writer, endpoint?]
  · show ctx.extraEndpoint (fd + 3) = .ok endpoint ↔
      _ ∧ ctx.extraEndpoint? (fd + 3) = some endpoint
    rw [extraEndpoint_eq_ok_iff]
    simp

/-! ### Wiring -/

/-- Every endpoint is known by the number of the descriptor that is bound to it. -/
def IsWired (ctx : Context) : Prop :=
  ∀ fd endpoint, ctx.endpoint? fd = some endpoint → Process.endpointNumber endpoint = fd

/-- Descriptors stay wired if one is bound to an endpoint of its number. All contexts in which an
expression is evaluated inside another are made so. -/
theorem IsWired.rebind {ctx : Context} (h : ctx.IsWired) {fd : Nat} {endpoint : Endpoint}
    (hendpoint : Process.endpointNumber endpoint = fd) : (ctx.rebind fd endpoint).IsWired := by
  intro other bound hbound
  rw [endpoint?_rebind] at hbound
  by_cases hother : other = fd
  · rw [if_pos hother] at hbound
    cases hbound
    rw [hendpoint, hother]
  · rw [if_neg hother] at hbound
    exact h other bound hbound

/-- A context without extra descriptors is wired if the other three are. -/
theorem isWired_of_no_extra {ctx : Context} (hextra : ctx.extra = [])
    (hstdin : Process.endpointNumber ctx.stdin = 0)
    (hstdout : Process.endpointNumber ctx.stdout = 1)
    (hstderr : Process.endpointNumber ctx.stderr = 2) : ctx.IsWired := by
  intro fd endpoint hbound
  rcases fd with _ | _ | _ | fd
  · cases hbound
    exact hstdin
  · cases hbound
    exact hstdout
  · cases hbound
    exact hstderr
  · have hnone : ctx.endpoint? (fd + 3) = none := by
      show ctx.extraEndpoint? (fd + 3) = none
      rw [extraEndpoint?, hextra]
      rfl
    rw [hnone] at hbound
    cases hbound

/-- The context of a line that the shell itself evaluates is wired. -/
theorem isWired_ofShell (token : CancelToken) : (ofShell token).IsWired :=
  isWired_of_no_extra rfl rfl rfl rfl

end Conch.Context
