import EventCatalog.Mongo.Connection
import EventCatalog.Proofs.Retry

/-!
# Attempts to connect

Which failures are followed by another attempt.  An attempt fails when the address is not resolved,
or when the first question is not answered.  The first kind of failure is looked at before another
attempt.  The second one is not: it has become a text by then, and a text counts as transient, so
that a server which turns the credentials down is asked again like one that is still starting.
-/

namespace EventCatalog.Mongo

open Dialogue

/-- What connecting asks for, waits included. -/
inductive ConnectionCall where
  | deployment (c : DeploymentCall)
  | wait (d : Duration)
  deriving DecidableEq, Repr

/-- A deployment answers its calls, a wait has no answer. -/
def ConnectionCall.Answer : ConnectionCall → Type
  | deployment c => c.Answer
  | wait _ => Unit

/-- Connecting as a dialogue with a deployment and a clock. -/
def connecting (s : DatabaseSettings) (policy : Option RetryPolicy) :
    Dialogue ConnectionCall.Answer (Except DurationFault (Except ConnectionError Unit)) :=
  connectRetrying (fun c ↦ ask (ConnectionCall.deployment c))
    (fun d ↦ ask (ConnectionCall.wait d)) s policy

/-- Connecting is this dialogue in every monad. -/
theorem connectRetrying_eq_interpret {m : Type → Type} [Monad m] [LawfulMonad m]
    (deployment : (c : DeploymentCall) → m c.Answer) (wait : Duration → m Unit)
    (s : DatabaseSettings) (policy : Option RetryPolicy) :
    connectRetrying deployment wait s policy =
      (connecting s policy).interpret fun
        | .deployment c => deployment c
        | .wait d => wait d := by
  simp only [connecting, connectRetrying, interpret_interpret]
  congr 1
  funext c
  cases c with
  | attempt =>
    apply Eq.symm
    apply (interpret_interpret _ _ (connect s)).trans
    congr 1
    funext c
    exact interpret_ask _ _
  | wait d => exact (interpret_ask _ _).symm

/-- How an attempt to connect goes. -/
inductive Attempt where
  /-- The address is not resolved. -/
  | unresolved (f : DriverFault)
  /-- The first question is not answered. -/
  | unanswered (f : DriverFault)
  | connected
  deriving DecidableEq, Repr

namespace Attempt

/-- The calls of an attempt with their answers. -/
def calls (s : DatabaseSettings) : Attempt → History ConnectionCall.Answer
  | unresolved f => [⟨.deployment (.resolve s), (.error f : Except DriverFault Unit)⟩]
  | unanswered f =>
    [⟨.deployment (.resolve s), (.ok () : Except DriverFault Unit)⟩,
      ⟨.deployment (.ping s.database), (.error f : Except DriverFault Unit)⟩]
  | connected =>
    [⟨.deployment (.resolve s), (.ok () : Except DriverFault Unit)⟩,
      ⟨.deployment (.ping s.database), (.ok () : Except DriverFault Unit)⟩]

/-- What an attempt reports. -/
def outcome : Attempt → Except ConnectionError Unit
  | unresolved f => .error (.driver f)
  | unanswered f => .error (.connectionFailed f.text)
  | connected => .ok ()

/-- Whether another attempt may follow. -/
def isRetried : Attempt → Bool
  | unresolved f => f.isTransient
  | unanswered _ => true
  | connected => false

/-- An attempt is followed by another one for the error that it reports. -/
theorem isRetried_eq_true {a : Attempt} :
    a.isRetried = true ↔ ∃ e, a.outcome = .error e ∧ e.isTransient = true := by
  cases a <;> simp [isRetried, outcome, ConnectionError.isTransient]

end Attempt

/-- The calls of failed attempts and of the waits behind them. -/
def retriedCalls (s : DatabaseSettings) : List (Attempt × Duration) → History ConnectionCall.Answer
  | [] => []
  | (a, d) :: rest => a.calls s ++ ⟨.wait d, ()⟩ :: retriedCalls s rest

/-- One attempt, as a part of connecting. -/
def attempting (s : DatabaseSettings) :
    Dialogue ConnectionCall.Answer (Except ConnectionError Unit) :=
  (connect s).interpret fun c ↦ ask (ConnectionCall.deployment c)

/-- What is behind the calls of retrying. -/
def connectionCalls (s : DatabaseSettings) :
    (c : RetryCall) →
      Dialogue ConnectionCall.Answer (RetryCall.Answer ConnectionError Unit c)
  | .attempt => attempting s
  | .wait d => ask (ConnectionCall.wait d)

theorem connecting_eq (s : DatabaseSettings) (policy : Option RetryPolicy) :
    connecting s policy =
      ((policy.getD (policyOf s)).retry ConnectionError.isTransient).interpret
        (connectionCalls s) := by
  simp only [connecting, connectRetrying]
  rfl

section Calls

variable {s : DatabaseSettings} {p : RetryPolicy} {history : History ConnectionCall.Answer}

/-- One attempt resolves the address and asks the first question. -/
theorem ends_connect {outcome : Except ConnectionError Unit} :
    (connectionCalls s .attempt).Ends history outcome ↔
      ∃ a : Attempt, history = a.calls s ∧ outcome = a.outcome := by
  change (attempting s).Ends history outcome ↔ _
  simp only [attempting, connect, interpret]
  constructor
  · intro hends
    obtain ⟨resolved, rest, rfl, hresolved⟩ := ends_ask_bind.1 hends
    cases resolved with
    | error f =>
      obtain ⟨rfl, rfl⟩ := ends_done.1 hresolved
      exact ⟨.unresolved f, rfl, rfl⟩
    | ok _ =>
      obtain ⟨answered, rest, rfl, hanswered⟩ := ends_ask_bind.1 hresolved
      cases answered with
      | error f =>
        obtain ⟨rfl, rfl⟩ := ends_done.1 hanswered
        exact ⟨.unanswered f, rfl, rfl⟩
      | ok _ =>
        obtain ⟨rfl, rfl⟩ := ends_done.1 hanswered
        exact ⟨.connected, rfl, rfl⟩
  · rintro ⟨a, rfl, rfl⟩
    cases a with
    | unresolved f => exact ends_ask_bind.2 ⟨.error f, [], rfl, .done _⟩
    | unanswered f =>
      exact ends_ask_bind.2 ⟨.ok (), _, rfl, ends_ask_bind.2 ⟨.error f, [], rfl, .done _⟩⟩
    | connected =>
      exact ends_ask_bind.2 ⟨.ok (), _, rfl, ends_ask_bind.2 ⟨.ok (), [], rfl, .done _⟩⟩

/-- An attempt starts with the address. -/
theorem asks_resolve {t : DatabaseSettings} :
    (connectionCalls s .attempt).Asks history (.deployment (.resolve t)) ↔
      history = [] ∧ t = s := by
  change (attempting s).Asks history _ ↔ _
  simp only [attempting, connect, interpret]
  constructor
  · intro hasks
    obtain ⟨rfl, hasked⟩ | ⟨resolved, rest, rfl, hresolved⟩ := asks_ask_bind.1 hasks
    · cases hasked
      exact ⟨rfl, rfl⟩
    · cases resolved with
      | error f => exact absurd hresolved (not_asks_done _ _ _)
      | ok _ =>
        obtain ⟨-, hasked⟩ | ⟨answered, rest, rfl, hanswered⟩ := asks_ask_bind.1 hresolved
        · cases hasked
        · cases answered <;> exact absurd hanswered (not_asks_done _ _ _)
  · rintro ⟨rfl, rfl⟩
    exact asks_ask_bind.2 (.inl ⟨rfl, rfl⟩)

theorem ends_wait {d : Duration} {answer : Unit} :
    (connectionCalls s (.wait d)).Ends history answer ↔ history = [⟨.wait d, ()⟩] :=
  ends_ask

/-- Behind errors that are retried are attempts that are. -/
theorem exists_attempts_of_carriedOut {errors : List (ConnectionError × Duration)} {index : Nat}
    (hretries : p.Retries ConnectionError.isTransient index errors)
    (hcarried : CarriedOut (connectionCalls s) (RetryPolicy.failures errors) history) :
    ∃ failed, p.Retries Attempt.isRetried index failed ∧ failed.length = errors.length ∧
      history = retriedCalls s failed := by
  induction errors generalizing index history with
  | nil => exact ⟨[], trivial, rfl, carriedOut_nil.1 hcarried⟩
  | cons first errors ih =>
    obtain ⟨e, d⟩ := first
    obtain ⟨htransient, hdelay, hlater⟩ := hretries
    obtain ⟨_, _, rfl, hattempt, hbehind⟩ := carriedOut_cons.1 hcarried
    obtain ⟨_, rest, rfl, hwait, hrest⟩ := carriedOut_cons.1 hbehind
    obtain ⟨a, rfl, houtcome⟩ := ends_connect.1 hattempt
    obtain rfl := ends_wait.1 hwait
    obtain ⟨failed, hfailed, hlength, rfl⟩ := ih hlater hrest
    have hretried : a.isRetried = true :=
      Attempt.isRetried_eq_true.2 ⟨e, houtcome.symm, htransient⟩
    exact ⟨(a, d) :: failed, ⟨hretried, hdelay, hfailed⟩, congrArg (· + 1) hlength, rfl⟩

/-- Attempts that are retried report errors that are. -/
theorem exists_errors_of_retries {failed : List (Attempt × Duration)} {index : Nat}
    (hretries : p.Retries Attempt.isRetried index failed) :
    ∃ errors, p.Retries ConnectionError.isTransient index errors ∧ errors.length = failed.length ∧
      CarriedOut (connectionCalls s) (RetryPolicy.failures errors) (retriedCalls s failed) := by
  induction failed generalizing index with
  | nil => exact ⟨[], trivial, rfl, .nil⟩
  | cons first failed ih =>
    obtain ⟨a, d⟩ := first
    obtain ⟨hretried, hdelay, hlater⟩ := hretries
    obtain ⟨e, houtcome, htransient⟩ := Attempt.isRetried_eq_true.1 hretried
    obtain ⟨errors, herrors, hlength, hcarried⟩ := ih hlater
    refine ⟨(e, d) :: errors, ⟨htransient, hdelay, herrors⟩, congrArg (· + 1) hlength, ?_⟩
    refine .cons (ends_connect.2 ⟨a, rfl, houtcome.symm⟩) ?_
    exact .cons (ends_wait.2 rfl) hcarried

/-- Errors that are all retried are those of attempts that are. -/
theorem carriedOut_allRetried {count : Nat} :
    (∃ errors, p.AllRetried ConnectionError.isTransient errors ∧ errors.length = count ∧
        CarriedOut (connectionCalls s) (RetryPolicy.failures errors) history) ↔
      ∃ failed, p.AllRetried Attempt.isRetried failed ∧ failed.length = count ∧
        history = retriedCalls s failed := by
  constructor
  · rintro ⟨errors, ⟨herrors, hmost⟩, rfl, hcarried⟩
    obtain ⟨failed, hfailed, hlength, rfl⟩ := exists_attempts_of_carriedOut herrors hcarried
    exact ⟨failed, ⟨hfailed, hlength ▸ hmost⟩, hlength, rfl⟩
  · rintro ⟨failed, ⟨hfailed, hmost⟩, rfl, rfl⟩
    obtain ⟨errors, herrors, hlength, hcarried⟩ := exists_errors_of_retries hfailed
    exact ⟨errors, ⟨herrors, hlength ▸ hmost⟩, hlength, hcarried⟩

end Calls

section Runs

variable {s : DatabaseSettings} {policy : Option RetryPolicy}
  {history : History ConnectionCall.Answer}

/-- An attempt is made after attempts that are all retried. -/
theorem asks_connecting {t : DatabaseSettings} :
    (connecting s policy).Asks history (.deployment (.resolve t)) ↔
      t = s ∧ ∃ failed, (policy.getD (policyOf s)).AllRetried Attempt.isRetried failed ∧
        history = retriedCalls s failed := by
  rw [connecting_eq, asks_interpret]
  constructor
  · rintro ⟨steps, c, front, back, hretry, rfl, hcarried, hasks⟩
    cases c with
    | wait d => cases (asks_ask.1 hasks).2
    | attempt =>
      obtain ⟨rfl, rfl⟩ := asks_resolve.1 hasks
      obtain ⟨errors, herrors, rfl⟩ := RetryPolicy.asks_retry.1 hretry
      obtain ⟨failed, hfailed, -, rfl⟩ := carriedOut_allRetried.1 ⟨errors, herrors, rfl, hcarried⟩
      exact ⟨rfl, failed, hfailed, List.append_nil _⟩
  · rintro ⟨rfl, failed, hfailed, rfl⟩
    obtain ⟨errors, herrors, -, hcarried⟩ := carriedOut_allRetried.2 ⟨failed, hfailed, rfl, rfl⟩
    exact ⟨_, .attempt, _, [], RetryPolicy.asks_retry.2 ⟨errors, herrors, rfl⟩,
      (List.append_nil _).symm, hcarried, asks_resolve.2 ⟨rfl, rfl⟩⟩

/-- What is returned is what the last attempt reports, which is not retried or has no retry left. -/
theorem ends_connecting {outcome : Except ConnectionError Unit} :
    (connecting s policy).Ends history (.ok outcome) ↔
      ∃ failed, ∃ last : Attempt,
        (policy.getD (policyOf s)).AllRetried Attempt.isRetried failed ∧
          history = retriedCalls s failed ++ last.calls s ∧ outcome = last.outcome ∧
            (last.isRetried = true → failed.length = (policy.getD (policyOf s)).maxRetries) := by
  rw [connecting_eq, ends_interpret]
  constructor
  · rintro ⟨steps, hretry, hcarried⟩
    obtain ⟨errors, herrors, rfl, hlast⟩ := RetryPolicy.ends_retry.1 hretry
    obtain ⟨front, back, rfl, hfront, hback⟩ := carriedOut_append.1 hcarried
    obtain ⟨part, rest, rfl, hattempt, hrest⟩ := carriedOut_cons.1 hback
    obtain rfl := carriedOut_nil.1 hrest
    obtain ⟨last, rfl, rfl⟩ := ends_connect.1 hattempt
    obtain ⟨failed, hfailed, hcount, rfl⟩ := carriedOut_allRetried.1 ⟨errors, herrors, rfl, hfront⟩
    refine ⟨failed, last, hfailed, ?_, rfl, fun hretried ↦ ?_⟩
    · rw [List.append_nil]
    · obtain ⟨e, he, htransient⟩ := Attempt.isRetried_eq_true.1 hretried
      exact hcount.trans (hlast e he htransient)
  · rintro ⟨failed, last, hfailed, rfl, rfl, hlast⟩
    obtain ⟨errors, herrors, hcount, hcarried⟩ :=
      carriedOut_allRetried.2 ⟨failed, hfailed, rfl, rfl⟩
    refine ⟨_, RetryPolicy.ends_retry.2 ⟨errors, herrors, rfl, fun e he htransient ↦ ?_⟩, ?_⟩
    · exact hcount.trans (hlast (Attempt.isRetried_eq_true.2 ⟨e, he, htransient⟩))
    · refine carriedOut_append.2 ⟨_, _, rfl, hcarried, ?_⟩
      rw [← List.append_nil (last.calls s)]
      exact .cons (ends_connect.2 ⟨last, rfl, rfl⟩) .nil

/-- Another attempt follows an address that is not resolved for a transient reason, and any first
question that is not answered.  Every other outcome is returned after its attempt, and so is the one
for which no retry is left. -/
theorem attempts_connecting (s : DatabaseSettings) (policy : Option RetryPolicy)
    (history : History ConnectionCall.Answer) :
    (∀ t, (connecting s policy).Asks history (.deployment (.resolve t)) ↔
      t = s ∧ ∃ failed, (policy.getD (policyOf s)).AllRetried Attempt.isRetried failed ∧
        history = retriedCalls s failed) ∧
    ∀ outcome, (connecting s policy).Ends history (.ok outcome) ↔
      ∃ failed, ∃ last : Attempt,
        (policy.getD (policyOf s)).AllRetried Attempt.isRetried failed ∧
          history = retriedCalls s failed ++ last.calls s ∧ outcome = last.outcome ∧
            (last.isRetried = true → failed.length = (policy.getD (policyOf s)).maxRetries) :=
  ⟨fun _ ↦ asks_connecting, fun _ ↦ ends_connecting⟩

/-- A database that turns the credentials down is asked again, although its refusal is no transient
failure. -/
theorem retried_refusal :
    let refusal : DriverFault :=
      ⟨.command (.refused 18 "Authentication failed."), "Authentication failed."⟩
    refusal.isTransient = false ∧
      (connecting .standard none).Asks
        ((Attempt.unanswered refusal).calls .standard ++ [⟨.wait (.ofMillis 100), ()⟩])
        (.deployment (.resolve .standard)) := by
  intro refusal
  have hretried : RetryPolicy.standard.AllRetried Attempt.isRetried
      [(.unanswered refusal, .ofMillis 100)] :=
    ⟨⟨rfl, RetryPolicy.standard_delay_zero, trivial⟩, by decide⟩
  exact ⟨rfl, asks_connecting.2 ⟨rfl, _, hretried, rfl⟩⟩

end Runs

end EventCatalog.Mongo
