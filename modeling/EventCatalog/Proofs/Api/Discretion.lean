import EventCatalog.Proofs.Api.Insertion
import EventCatalog.Proofs.Dialogue.Parallel

/-!
# Discretion about failures of the store

What the store says about its failures stays inside.  A request asks the same and is answered the
same, to the last member of the body, whatever the details of a failed call are, and whichever call
it is that fails.
-/

namespace EventCatalog

namespace EventError

/-- The error without what the store says about its failure. -/
def veiled : EventError → EventError
  | database _ => .database ""
  | internal _ => .internal ""
  | e => e

/-- The record of an error does not show what is veiled. -/
theorem toJson_veiled (e : EventError) : e.veiled.toJson = e.toJson := by
  cases e <;> rfl

theorem status_veiled (e : EventError) : e.veiled.status = e.status := by
  cases e <;> rfl

end EventError

/-- Whether two outcomes differ in the details of failures at most. -/
inductive AlikeOutcomes {α : Type} : Except EventError α → Except EventError α → Prop
  | ok (a : α) : AlikeOutcomes (.ok a) (.ok a)
  | error {e e' : EventError} (h : e.veiled = e'.veiled) : AlikeOutcomes (.error e) (.error e')

theorem AlikeOutcomes.refl {α : Type} (outcome : Except EventError α) :
    AlikeOutcomes outcome outcome := by
  cases outcome with
  | ok a => exact .ok a
  | error e => exact .error rfl

/-- Whether two answers to a call differ in the details of failures at most. -/
def StoreCall.AlikeAnswers : (c : StoreCall) → c.Answer → c.Answer → Prop
  | fetchPage _ => AlikeOutcomes
  | fetchCount _ => Eq
  | eventExists _ _ => AlikeOutcomes
  | insertEvent _ => AlikeOutcomes
  | insertSession _ => AlikeOutcomes

namespace ScriptedReply

/-- The reply without what the store says about its failure. -/
def veiled (r : ScriptedReply) : ScriptedReply := { r with error := r.error.map EventError.veiled }

variable {r r' : ScriptedReply} {error : Option EventError}

/-- Replies that differ in the details of failures differ in nothing else. -/
theorem exists_error_of_veiled_eq (h : r.veiled = r'.veiled) :
    ∃ error, r' = { r with error } ∧
      r.error.map EventError.veiled = error.map EventError.veiled := by
  obtain ⟨cancels, pends, hangs, error, rows, count, found, id, time⟩ := r
  obtain ⟨cancels', pends', hangs', error', rows', count', found', id', time'⟩ := r'
  simp only [veiled, mk.injEq] at h
  obtain ⟨rfl, rfl, rfl, herror, rfl, rfl, rfl, rfl, rfl⟩ := h
  exact ⟨error', rfl, herror⟩

theorem alikeOutcomes_orError {α : Type}
    (h : r.error.map EventError.veiled = error.map EventError.veiled) (a : α) :
    AlikeOutcomes (r.orError a) ({ r with error }.orError a) := by
  rw [orError, orError]
  cases herror : r.error with
  | none =>
    rw [herror] at h
    obtain rfl : error = none := Option.map_eq_none_iff.1 h.symm
    exact .ok a
  | some e =>
    rw [herror] at h
    obtain ⟨e', rfl, he⟩ := Option.map_eq_some_iff.1 h.symm
    exact .error he.symm

/-- Replies that differ in the details of failures give alike answers to every call. -/
theorem alikeAnswers_answer (h : r.veiled = r'.veiled) (c : StoreCall) :
    c.AlikeAnswers (r.answer c) (r'.answer c) := by
  obtain ⟨error, rfl, herror⟩ := exists_error_of_veiled_eq h
  cases c with
  | fetchCount plan =>
    have hfails : r.error.isSome = error.isSome := by
      have hsome := congrArg Option.isSome herror
      rwa [Option.isSome_map, Option.isSome_map] at hsome
    show (if r.error.isSome then none else r.count) = if error.isSome then none else r.count
    rw [hfails]
  | _ => exact alikeOutcomes_orError herror _

end ScriptedReply

namespace Dialogue

open ScriptedReply

theorem headD_veiled {script other : List ScriptedReply}
    (h : script.map veiled = other.map veiled) :
    (script.headD .empty).veiled = (other.headD .empty).veiled := by
  have hhead := congrArg (·.headD ScriptedReply.empty.veiled) h
  simpa only [List.headD_map] using hhead

/-- Parallel dialogues with equal results cannot be told apart by scripts that differ in the details
of failures. -/
theorem Parallel.play_eq {α : Type} {m m' : Interaction α}
    (hm : Parallel StoreCall.AlikeAnswers Eq m m') {script other : List ScriptedReply}
    (h : script.map veiled = other.map veiled) (watched cancelled : Bool) :
    play watched cancelled m script = play watched cancelled m' other := by
  induction hm generalizing cancelled script other with
  | done heq =>
    subst heq
    rfl
  | @call c next next' _ ih =>
    have hhead := headD_veiled h
    have htail : script.tail.map veiled = other.tail.map veiled := by
      rw [List.map_tail, List.map_tail, h]
    have hlater : ∀ cancelled,
        play watched cancelled (next ((script.headD .empty).answer c)) script.tail =
          play watched cancelled (next' ((other.headD .empty).answer c)) other.tail :=
      fun cancelled ↦ ih _ _ (alikeAnswers_answer hhead c) htail cancelled
    obtain ⟨error, hother, -⟩ := exists_error_of_veiled_eq hhead
    have hcancels : (other.headD .empty).cancels = (script.headD .empty).cancels := by rw [hother]
    have hpends : (other.headD .empty).pends = (script.headD .empty).pends := by rw [hother]
    have hhangs : (other.headD .empty).hangs = (script.headD .empty).hangs := by rw [hother]
    simp only [play, hcancels, hpends, hhangs, hlater]

/-- An outcome that is needed may be replaced by an alike one. -/
theorem parallel_onSuccess {α β : Type} {outcome outcome' : Except EventError α}
    {f : α → Interaction (Except EventError β)} (h : AlikeOutcomes outcome outcome')
    (hf : ∀ a, Parallel StoreCall.AlikeAnswers AlikeOutcomes (f a) (f a)) :
    Parallel StoreCall.AlikeAnswers AlikeOutcomes (onSuccess outcome f) (onSuccess outcome' f) := by
  cases h with
  | ok a => exact hf a
  | error h => exact .done (.error h)

end Dialogue

namespace Service

open Dialogue

variable {settings : PageSettings}

theorem parallel_pageMode (plan : Plan) :
    Parallel StoreCall.AlikeAnswers Eq (pageMode plan) (pageMode plan) := by
  rw [pageMode]
  split
  · exact .done rfl
  · exact (parallel_ask (StoreCall.fetchCount plan)).bind_pure fun _ _ h ↦ congrArg _ h

theorem parallel_list (filter : EventFilter) (audience : Audience) :
    Parallel StoreCall.AlikeAnswers AlikeOutcomes (list settings filter audience)
      (list settings filter audience) := by
  apply parallel_onSuccess (AlikeOutcomes.refl _)
  intro plan
  apply (parallel_ask (StoreCall.fetchPage plan)).bind
  intro rows rows' hrows
  apply parallel_onSuccess hrows
  intro rows
  apply (parallel_pageMode plan).bind_pure
  rintro mode _ rfl
  exact .ok _

theorem parallel_getEvent (tenantId : String) (id : Uuid) :
    Parallel StoreCall.AlikeAnswers AlikeOutcomes (getEvent settings tenantId id)
      (getEvent settings tenantId id) := by
  apply parallel_onSuccess (AlikeOutcomes.refl _)
  intro plan
  apply (parallel_ask (StoreCall.fetchPage plan)).bind_pure
  intro rows rows' hrows
  cases hrows with
  | ok rows => exact .refl _
  | error h => exact .error h

theorem parallel_createEvent (tenantId : String) (actor : Option String) (draft : EventDraft)
    (now : Instant) (id : Uuid) :
    Parallel StoreCall.AlikeAnswers AlikeOutcomes (createEvent tenantId actor draft now id)
      (createEvent tenantId actor draft now id) := by
  apply parallel_onSuccess (AlikeOutcomes.refl _)
  intro _
  exact parallel_ask (StoreCall.insertEvent _)

theorem parallel_createSession (tenantId : String) (eventId : Uuid) (draft : SessionDraft)
    (now : Instant) (id : Uuid) :
    Parallel StoreCall.AlikeAnswers AlikeOutcomes (createSession tenantId eventId draft now id)
      (createSession tenantId eventId draft now id) := by
  apply parallel_onSuccess (AlikeOutcomes.refl _)
  intro _
  apply (parallel_ask (StoreCall.eventExists tenantId eventId)).bind
  intro found found' hfound
  apply parallel_onSuccess hfound
  intro found
  cases found with
  | true => exact parallel_ask (StoreCall.insertSession _)
  | false => exact .done (.refl _)

end Service

namespace Api

open Http Dialogue

section Operate

variable {α β : Type} {status : Nat} {toJson : α → Json}

/-- Alike outcomes get the same response. -/
theorem outcomeResponse_eq {outcome outcome' : Except EventError α}
    (h : AlikeOutcomes outcome outcome') :
    outcomeResponse status toJson outcome = outcomeResponse status toJson outcome' := by
  cases h with
  | ok a => rfl
  | @error e e' h =>
    calc errorResponse e
        = .ofJson e.veiled.status e.veiled.toJson := by
          rw [e.status_veiled, e.toJson_veiled, errorResponse]
      _ = .ofJson e'.veiled.status e'.veiled.toJson := by rw [h]
      _ = errorResponse e' := by rw [e'.status_veiled, e'.toJson_veiled, errorResponse]

theorem parallel_operate_pure {m : Interaction (Except EventError α)}
    (h : Parallel StoreCall.AlikeAnswers AlikeOutcomes m m) :
    Parallel StoreCall.AlikeAnswers Eq (operate status toJson (pure m))
      (operate status toJson (pure m)) :=
  h.bind_pure fun _ _ ↦ outcomeResponse_eq

/-- The input of an operation is read before the store is asked. -/
theorem parallel_operate_bind {input : Except Rejection β}
    {f : β → Except Rejection (Interaction (Except EventError α))}
    (h : ∀ b, Parallel StoreCall.AlikeAnswers Eq (operate status toJson (f b))
      (operate status toJson (f b))) :
    Parallel StoreCall.AlikeAnswers Eq (operate status toJson (input >>= f))
      (operate status toJson (input >>= f)) := by
  cases input with
  | ok b => exact h b
  | error rejection => exact .done rfl

end Operate

/-- What a request asks, and how it is answered, does not depend on the details of failures. -/
theorem parallel_perform (app : Application) (stamp : Stamp) (request : Request)
    (resource : Resource) :
    Parallel StoreCall.AlikeAnswers Eq (perform app stamp request resource)
      (perform app stamp request resource) := by
  cases resource with
  | events =>
    rw [perform]
    split
    · apply parallel_operate_bind
      intro tenant
      apply parallel_operate_bind
      intro draft
      exact parallel_operate_pure (Service.parallel_createEvent _ _ _ _ _)
    · apply parallel_operate_bind
      intro tenant
      apply parallel_operate_bind
      intro filter
      exact parallel_operate_pure (Service.parallel_list _ _)
  | event segment =>
    apply parallel_operate_bind
    intro tenant
    apply parallel_operate_bind
    intro id
    exact parallel_operate_pure (Service.parallel_getEvent _ _)
  | sessions segment =>
    apply parallel_operate_bind
    intro tenant
    apply parallel_operate_bind
    intro id
    apply parallel_operate_bind
    intro draft
    exact parallel_operate_pure (Service.parallel_createSession _ _ _ _ _)
  | publicEvents =>
    apply parallel_operate_bind
    intro filter
    exact parallel_operate_pure (Service.parallel_list _ _)
  | _ => exact .done rfl

theorem parallel_handling (app : Application) (stamp : Stamp) (request : Request) :
    Parallel StoreCall.AlikeAnswers Eq (handling app stamp request).respond
      (handling app stamp request).respond := by
  rw [handling]
  split
  · exact .done rfl
  · split
    · exact parallel_perform app stamp request _
    · exact .done rfl

/-- The details of failures stay inside.  Scripts that differ in what the store says about its
failures at most, at whichever calls, make a request ask the same and get the same response. -/
theorem exchange_eq_of_map_veiled_eq (app : Application) (stamp : Stamp) (request : Request)
    (script other : List ScriptedReply)
    (h : script.map ScriptedReply.veiled = other.map ScriptedReply.veiled) :
    exchange app stamp request script = exchange app stamp request other := by
  have hrun : (handling app stamp request).respond.run script =
      (handling app stamp request).respond.run other :=
    (parallel_handling app stamp request).play_eq h false false
  rw [exchange, exchange, hrun]

/-- The script of a store that finds an event and then cannot store its session. -/
def failingScript (detail : String) : List ScriptedReply :=
  [foundReply, { ScriptedReply.empty with error := some (.database detail) }]

theorem exchange_eq_of_map_veiled_eq_session :
    let result := exchange ⟨.standard, 1⟩ ⟨.epoch, .nil⟩ hourRequest (failingScript "no primary")
    (failingScript "no primary").map ScriptedReply.veiled =
        (failingScript "disk full").map ScriptedReply.veiled ∧
      result = exchange ⟨.standard, 1⟩ ⟨.epoch, .nil⟩ hourRequest (failingScript "disk full") ∧
      result.calls = [.eventExists "t1" ⟨1⟩, .insertSession hourSession] ∧
      result.response.status = 500 := by
  intro result
  have hveiled : (failingScript "no primary").map ScriptedReply.veiled =
      (failingScript "disk full").map ScriptedReply.veiled := rfl
  have hsame := exchange_eq_of_map_veiled_eq ⟨.standard, 1⟩ ⟨.epoch, .nil⟩ hourRequest
    (failingScript "no primary") (failingScript "disk full") hveiled
  refine ⟨hveiled, hsame, ?_⟩
  decide +kernel

end Api

end EventCatalog
