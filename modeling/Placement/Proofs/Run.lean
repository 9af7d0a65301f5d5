import Placement.Backend.Basic

/-!
# Placement.Proofs.Run — what a computation asks and gives

A computation `Yields` requests and a value when it issues exactly these
requests, in order, and ends with the value. The notices on the way are left
open. Each step of a computation has one rule: reading a line, noting, asking,
and going on (`Yields.bind`). In the other direction a computation that ends
with a value went through all its steps (`outcome_bind_eq_ok`).

A line that cannot be read stops a computation. `FaultsOnly` says which ones may, and
that nothing else does but a cancelled request, again with one rule for each step.

Going on is associative, also for computations that are stopped, so that the laws
of monads hold for them as a whole.
-/

namespace Placement

namespace Run

variable {α β γ : Type}

/-! ## Going on -/

/-- Going on is associative, also where a step is stopped. -/
theorem bind_bind (x : Run α) (f : α → Run β) (g : β → Run γ) :
    x >>= f >>= g = x >>= fun a => f a >>= g := by
  cases hx : x.outcome with
  | error stop => rw [bind_of_error hx, bind_of_error hx, bind_of_error rfl]
  | ok a =>
    rw [bind_of_ok hx, bind_of_ok hx]
    cases hf : (f a).outcome with
    | error stop => rw [bind_of_error rfl, bind_of_error hf]
    | ok b =>
      rw [bind_of_ok rfl, bind_of_ok hf]
      simp only [List.append_assoc]

/-- Giving back a value changes nothing. -/
theorem bind_pure_self (x : Run α) : x >>= pure = x := by
  cases hx : x.outcome with
  | error stop => rw [bind_of_error hx, ← hx]
  | ok a =>
    rw [bind_of_ok hx]
    simp [← hx]

theorem pure_bind_apply (a : α) (f : α → Run β) : (pure a : Run α) >>= f = f a := by
  rw [bind_of_ok rfl]
  rfl

instance : LawfulMonad Run := LawfulMonad.mk' Run bind_pure_self pure_bind_apply bind_bind

/-! ## Requests and values -/

/-- The computation issues these requests and ends with this value. -/
structure Yields (x : Run α) (requests : List Request) (a : α) : Prop where
  asks : x.requests = requests
  gives : x.outcome = .ok a

theorem Yields.pure (a : α) : Yields (pure a : Run α) [] a := ⟨rfl, rfl⟩

/-- Reading a line asks nothing. -/
theorem Yields.ofLine {x : Except LineFault α} {a : α} (h : x = .ok a) :
    Yields (ofLine x) [] a := by
  subst h
  exact ⟨rfl, rfl⟩

theorem Yields.ofLogged (x : Logged α) : Yields (ofLogged x) [] x.value := ⟨rfl, rfl⟩

theorem Yields.note (n : Notice) : Yields (note n) [] () := ⟨rfl, rfl⟩

/-- The requests of two steps are asked one after the other. -/
theorem Yields.bind {x : Run α} {f : α → Run β} {first second : List Request} {a : α} {b : β}
    (hx : Yields x first a) (hf : Yields (f a) second b) :
    Yields (x >>= f) (first ++ second) b := by
  rw [bind_of_ok hx.gives]
  exact ⟨by rw [hx.asks, hf.asks], hf.gives⟩

/-- A step that asks nothing leaves the requests to the rest. -/
theorem Yields.bind_silent {x : Run α} {f : α → Run β} {requests : List Request} {a : α} {b : β}
    (hx : Yields x [] a) (hf : Yields (f a) requests b) : Yields (x >>= f) requests b :=
  Yields.bind hx hf

/-- A last step that asks nothing leaves the requests as they are. -/
theorem Yields.bind_last {x : Run α} {f : α → Run β} {requests : List Request} {a : α} {b : β}
    (hx : Yields x requests a) (hf : Yields (f a) [] b) : Yields (x >>= f) requests b := by
  have h := Yields.bind hx hf
  rwa [List.append_nil] at h

/-- A request that is not cancelled. -/
theorem Yields.ask {backend : Backend} {limit : Number} {request : Request}
    {reply : Except QueryFailure Value}
    (h : (backend request).settle request.operation limit = some reply) :
    Yields (backend.ask limit request) [request] reply := by
  refine ⟨rfl, ?_⟩
  simp only [Backend.ask, h]

/-- The outcome of two steps is that of the second one, if the first one has a value. -/
theorem outcome_bind (x : Run α) (f : α → Run β) :
    (x >>= f).outcome = x.outcome.bind fun a => (f a).outcome := by
  cases h : x.outcome with
  | ok a => rw [bind_of_ok h]; rfl
  | error stop => rw [bind_of_error h]; rfl

/-- A computation that ends with a value went through all its steps. -/
theorem outcome_bind_eq_ok {x : Run α} {f : α → Run β} {b : β} :
    (x >>= f).outcome = .ok b ↔ ∃ a, x.outcome = .ok a ∧ (f a).outcome = .ok b := by
  rw [outcome_bind]
  cases h : x.outcome with
  | ok a => simp [Except.bind]
  | error stop => simp [Except.bind]

theorem outcome_ofLine_eq_ok {x : Except LineFault α} {a : α} :
    (ofLine x).outcome = .ok a ↔ x = .ok a := by
  cases x <;> simp [ofLine]

/-! ## Faults -/

/-- Only these faults of lines stop the computation, and cancelled requests. -/
def FaultsOnly (P : LineFault → Prop) (x : Run α) : Prop :=
  ∀ stop, x.outcome = .error stop → stop = .cancelled ∨ ∃ fault, stop = .line fault ∧ P fault

variable {P : LineFault → Prop}

/-- A computation that ends with a value is not stopped. -/
theorem faultsOnly_of_ok {x : Run α} {a : α} (h : x.outcome = .ok a) : x.FaultsOnly P := by
  intro stop hstop
  rw [h] at hstop
  cases hstop

/-- Reading a line is stopped by its faults only. -/
theorem faultsOnly_ofLine {x : Except LineFault α} (h : ∀ fault, x = .error fault → P fault) :
    (ofLine x).FaultsOnly P := by
  intro stop hstop
  cases x with
  | ok a => cases hstop
  | error fault =>
    cases hstop
    exact Or.inr ⟨fault, rfl, h fault rfl⟩

/-- A request may be cancelled, but no line is read for it. -/
theorem faultsOnly_ask (backend : Backend) (limit : Number) (request : Request) :
    (backend.ask limit request).FaultsOnly P := by
  intro stop hstop
  simp only [Backend.ask] at hstop
  split at hstop
  · cases hstop
  · cases hstop
    exact Or.inl rfl

/-- Two steps are stopped by what stops one of them. -/
theorem FaultsOnly.bind {x : Run α} {f : α → Run β} (hx : x.FaultsOnly P)
    (hf : ∀ a, x.outcome = .ok a → (f a).FaultsOnly P) : (x >>= f).FaultsOnly P := by
  intro stop hstop
  cases h : x.outcome with
  | ok a =>
    rw [bind_of_ok h] at hstop
    exact hf a h stop hstop
  | error first =>
    rw [bind_of_error h] at hstop
    cases hstop
    exact hx stop h

end Run

end Placement
