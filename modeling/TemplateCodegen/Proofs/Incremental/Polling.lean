import TemplateCodegen.Incremental.Signal

/-!
# Counting polls

What a computation learns of a request to stop it learns by polling a token, and it is given up at
the first poll that finds the request. So a computation that polls a known number of times is
settled by what that many polls leave of the token. Main statements: polls add up along the steps of
a computation (`Run.Polls.bind`), and a walk that polls in front of every element ends as the walk
without polls does (`Run.Polls.foldPolled`).
-/

namespace TemplateCodegen.Incremental

/-- The token behind so many polls; none when one of them finds the request. -/
def Token.after : Nat → Token → Option Token
  | 0, token => some token
  | polls + 1, token => token.poll.bind (Token.after polls)

namespace Token

/-- Polls one behind the other. -/
theorem after_add (polls more : Nat) (token : Token) :
    token.after (polls + more) = (token.after polls).bind (Token.after more) := by
  induction polls generalizing token with
  | zero => rw [Nat.zero_add, after, Option.bind_some]
  | succ polls ih =>
    rw [Nat.add_right_comm, after, after, Option.bind_assoc]
    exact congrArg _ (funext ih)

/-- An inert token never finds a request. -/
theorem after_inert (polls : Nat) : Token.inert.after polls = some .inert := by
  induction polls with
  | zero => rfl
  | succ polls ih => exact ih

/-- A token that is used later lets the polls before that pass, and no others. -/
theorem isSome_after_live (polls remaining : Nat) :
    (after polls (.live (some remaining))).isSome = true ↔ polls ≤ remaining := by
  induction polls generalizing remaining with
  | zero => simp [after]
  | succ polls ih =>
    cases remaining with
    | zero => simp [after, poll]
    | succ remaining =>
      rw [after, poll, Option.bind_some, ih]
      omega

/-- No poll ever finds a request to stop. -/
def NeverCancels (token : Token) : Prop :=
  ∀ polls, (token.after polls).isSome = true

/-- The tokens through which nobody stops a run are those that cannot be used and those that are not
used. -/
theorem neverCancels_iff (token : Token) :
    token.NeverCancels ↔ token = .inert ∨ token = .fresh := by
  constructor
  · intro hnever
    match token with
    | .inert => exact .inl rfl
    | .live none => exact .inr rfl
    | .live (some remaining) =>
      have hpolls := (isSome_after_live (remaining + 1) remaining).1 (hnever (remaining + 1))
      omega
  · rintro (rfl | rfl) polls
    · rw [after_inert]
      rfl
    · induction polls with
      | zero => rfl
      | succ polls ih => exact ih

end Token

/-- The computation polls so often and gives the value, unless one of its polls finds the request.
-/
def Run.Polls {α : Type} (computation : Run α) (polls : Nat) (value : α) : Prop :=
  ∀ (token : Token) (spent : List Nat),
    match token.after polls with
    | some next => computation ⟨token, spent⟩ = .ok value ⟨next, spent⟩
    | none => ∃ signal, computation ⟨token, spent⟩ = .error .cancelled signal

namespace Run.Polls

/-- A poll is one poll. -/
theorem poll : Polls Run.poll 1 () := by
  intro token spent
  cases hpoll : token.poll with
  | none => simp [Token.after, Run.poll, hpoll]
  | some next => simp [Token.after, Run.poll, hpoll, Signal.withToken]

/-- A value needs no polls. -/
theorem pure {α : Type} (value : α) : Polls (Pure.pure value : Run α) 0 value :=
  fun _ _ => rfl

/-- Two computations, one behind the other, poll as often as both of them. -/
theorem bind {α γ : Type} {first : Run α} {next : α → Run γ} {polls more : Nat} {value : α}
    {result : γ} (hfirst : first.Polls polls value) (hnext : (next value).Polls more result) :
    (first >>= next).Polls (polls + more) result := by
  intro token spent
  change match token.after (polls + more) with
    | some after => EStateM.bind first next ⟨token, spent⟩ = .ok result ⟨after, spent⟩
    | none => ∃ signal, EStateM.bind first next ⟨token, spent⟩ = .error .cancelled signal
  have hstart := hfirst token spent
  unfold EStateM.bind
  rw [Token.after_add]
  cases hafter : token.after polls with
  | none =>
    rw [hafter] at hstart
    obtain ⟨signal, hsignal⟩ := hstart
    rw [hsignal]
    exact ⟨signal, rfl⟩
  | some between =>
    rw [hafter] at hstart
    dsimp only at hstart
    rw [hstart, Option.bind_some]
    exact hnext between spent

/-- A walk that polls in front of every element polls some number of times, and ends as the walk
without polls does. -/
theorem foldPolled {σ ε α : Type} (step : σ → α → Except ε σ) (elements : List α) (state : σ) :
    ∃ polls, (Incremental.foldPolled Run.poll step elements state).Polls polls
      (elements.foldlM step state) := by
  induction elements generalizing state with
  | nil => exact ⟨0, pure (Except.ok state)⟩
  | cons element rest ih =>
    rw [List.foldlM_cons, Incremental.foldPolled]
    cases step state element with
    | ok following =>
      obtain ⟨polls, hpolls⟩ := ih following
      exact ⟨1 + polls, poll.bind hpolls⟩
    | error refusal => exact ⟨1 + 0, poll.bind (pure (Except.error refusal))⟩

end Run.Polls

end TemplateCodegen.Incremental
