/-!
# Cancellation

A run is cancelled cooperatively: it polls a token at fixed points and gives up at the first poll
after the request to stop. The moment of the request is part of the token, as the number of polls
that still pass, so that a run is a function of its input. Stages may also ask for the run to stop
themselves.
-/

namespace TemplateCodegen.Incremental

/-- A run was given up because it was asked to stop. -/
inductive Cancelled where
  | cancelled
deriving DecidableEq, Repr

/-- The text shown for a run that was given up. -/
def Cancelled.message (_ : Cancelled) : String := "generation pass was cancelled"

/-- The state of a request to stop. -/
inductive Token where
  /-- A token through which no run is ever stopped. -/
  | inert
  /-- A token that can be used: not used yet, or read as used once so many further polls have
  passed. -/
  | live (remaining : Option Nat)
deriving DecidableEq, Repr

namespace Token

/-- A fresh token that has not been used. -/
def fresh : Token := .live none

/-- Whether the next poll finds the request. -/
def isCancelled (token : Token) : Bool := token == .live (some 0)

/-- Request to stop from now on; an inert token stays as it is. -/
def cancel : Token → Token
  | .inert => .inert
  | .live _ => .live (some 0)

/-- The token behind one more poll; none when the poll finds the request. -/
def poll : Token → Option Token
  | .inert => some .inert
  | .live none => some (.live none)
  | .live (some 0) => none
  | .live (some (remaining + 1)) => some (.live (some remaining))

/-- A poll fails exactly when the request is there. -/
theorem poll_eq_none_iff (token : Token) : token.poll = none ↔ token.isCancelled = true := by
  match token with
  | .inert => simp [poll, isCancelled]
  | .live none => simp [poll, isCancelled]
  | .live (some 0) => simp [poll, isCancelled]
  | .live (some (remaining + 1)) => simp [poll, isCancelled]

/-- A used token stays used. -/
theorem cancel_cancel (token : Token) : token.cancel.cancel = token.cancel := by
  cases token <;> rfl

end Token

/-- What the stages of a run see besides their input: the token, and the labels under which stages
have already asked for a stop. -/
structure Signal where
  /-- The token of the run. -/
  token : Token
  /-- Labels of the requests that have been made; each counts once, whatever run it was made in. -/
  spent : List Nat
deriving DecidableEq, Repr

/-- The signal of runs that nobody stops. -/
def Signal.quiet : Signal := ⟨.inert, []⟩

/-- The signal with another token. -/
def Signal.withToken (signal : Signal) (token : Token) : Signal := { signal with token := token }

/-- A computation that polls a signal and may be cancelled. -/
abbrev Run := EStateM Cancelled Signal

namespace Run

/-- Give up when the request to stop is there. -/
def poll : Run Unit := fun signal =>
  match signal.token.poll with
  | some token => .ok () (signal.withToken token)
  | none => .error .cancelled signal

/-- Ask for a stop under a label, unless that has been done under the same label before. -/
def requestOnce (label : Nat) : Run Unit := fun signal =>
  if label ∈ signal.spent then .ok () signal
  else .ok () { token := signal.token.cancel, spent := label :: signal.spent }

/-- The outcome of a computation without the state that it leaves. -/
def outcome {α : Type} (computation : Run α) (signal : Signal) : Except Cancelled α :=
  match computation signal with
  | .ok value _ => .ok value
  | .error error _ => .error error

end Run

/-- Go through a list from the left with a step that can refuse an element, polling in front of each
element; the first refusal ends the walk. -/
def foldPolled {m : Type → Type} [Monad m] {σ ε α : Type} (poll : m Unit)
    (step : σ → α → Except ε σ) :
    List α → σ → m (Except ε σ)
  | [], state => pure (.ok state)
  | element :: rest, state => do
    poll
    match step state element with
    | .ok next => foldPolled poll step rest next
    | .error refusal => pure (.error refusal)

/-- A walk that is not cancelled ends as the walk without polls does. -/
theorem foldPolled_poll_ok {σ ε α : Type} {step : σ → α → Except ε σ} {elements : List α}
    {state : σ}
    {result : Except ε σ} {signal signal' : Signal}
    (h : foldPolled Run.poll step elements state signal = .ok result signal') :
    result = elements.foldlM step state := by
  induction elements generalizing state signal with
  | nil =>
    have heq : EStateM.Result.ok (ε := Cancelled) (Except.ok state) signal = .ok result signal' := h
    cases heq
    rfl
  | cons element rest ih =>
    rw [List.foldlM_cons]
    simp only [foldPolled, bind, EStateM.bind, Run.poll] at h
    split at h
    · rename_i next hpoll
      cases hstep : step state element with
      | ok following =>
        rw [hstep] at h
        exact ih h
      | error refusal =>
        rw [hstep] at h
        have heq :
            EStateM.Result.ok (ε := Cancelled) (Except.error refusal) next = .ok result signal' := h
        cases heq
        rfl
    · simp at h

/-- Without polls the walk is the plain one. -/
theorem foldPolled_id {σ ε α : Type} (step : σ → α → Except ε σ) (elements : List α) (state : σ) :
    Id.run (foldPolled (pure ()) step elements state) = elements.foldlM step state := by
  induction elements generalizing state with
  | nil => rfl
  | cons element rest ih =>
    rw [List.foldlM_cons]
    cases hstep : step state element with
    | ok following =>
      have hwalk : Id.run (foldPolled (pure ()) step (element :: rest) state) =
          Id.run (foldPolled (pure ()) step rest following) := by
        simp [foldPolled, hstep]
      exact hwalk.trans (ih following)
    | error refusal =>
      simp only [foldPolled, hstep]
      rfl

end TemplateCodegen.Incremental
