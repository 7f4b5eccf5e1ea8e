import EventCatalog.Proofs.Api.Operation
import EventCatalog.Proofs.Dialogue.Ending

/-!
# Outcomes of requests

How a request is answered once the store has answered its calls.  An operation ends with the
response to a rejected input or with the response to its outcome; the layers around it leave the
status and the kind of the body alone.
-/

namespace EventCatalog

namespace Api

open Http Dialogue

variable {app : Application} {stamp : Stamp} {request : Request} {resource : Resource}
  {history : History StoreCall.Answer} {r : Response}

section Operate

variable {α β : Type} {status : Nat} {toJson : α → Json}

/-- An operation whose input is read ends with the outcome of what it asks. -/
theorem ends_operate_pure {m : Interaction (Except EventError α)} :
    (operate status toJson (pure m)).Ends history r ↔
      ∃ outcome, m.Ends history outcome ∧ r = outcomeResponse status toJson outcome :=
  ends_bind_pure

/-- An operation ends at once when one of its inputs is rejected.  What holds of its end therefore
holds of the rejections and of the end of what follows the input. -/
theorem of_ends_operate_bind {P : History StoreCall.Answer → Response → Prop}
    {input : Except Rejection β} {f : β → Except Rejection (Interaction (Except EventError α))}
    (h : (operate status toJson (input >>= f)).Ends history r)
    (hinput : ∀ rejection, input = .error rejection → P [] rejection.toResponse)
    (hf : ∀ b, input = .ok b → (operate status toJson (f b)).Ends history r → P history r) :
    P history r := by
  cases hinputs : input with
  | ok b =>
    rw [hinputs] at h
    exact hf b hinputs h
  | error rejection =>
    rw [hinputs] at h
    obtain ⟨rfl, rfl⟩ := ends_pure.1 h
    exact hinput rejection hinputs

end Operate

namespace Handling

variable {Call : Type} {Answer : Call → Type}

/-- The layers add a coding, the named methods and nothing else, but for `HEAD`. -/
theorem finish_eq (h : Handling Answer) (request : Request) (r : Response) :
    ∃ coding, h.finish request r =
      ({ r with contentCoding := coding, allow := h.allow } : Response).forMethod
        request.method := by
  unfold finish
  dsimp only
  split
  · unfold Response.coded
    split
    · exact ⟨r.contentCoding, rfl⟩
    · exact ⟨_, rfl⟩
  · exact ⟨r.contentCoding, rfl⟩

@[simp]
theorem status_finish (h : Handling Answer) (request : Request) (r : Response) :
    (h.finish request r).status = r.status := by
  obtain ⟨coding, heq⟩ := h.finish_eq request r
  rw [heq, Response.forMethod.eq_def]
  split <;> rfl

@[simp]
theorem contentType_finish (h : Handling Answer) (request : Request) (r : Response) :
    (h.finish request r).contentType = r.contentType := by
  obtain ⟨coding, heq⟩ := h.finish_eq request r
  rw [heq, Response.forMethod.eq_def]
  split <;> rfl

/-- Only `HEAD` does not get the body. -/
theorem body_finish (h : Handling Answer) (r : Response) (hne : request.method ≠ .head) :
    (h.finish request r).body = r.body := by
  obtain ⟨coding, heq⟩ := h.finish_eq request r
  rw [heq, Response.forMethod.eq_def]
  split
  next hhead => exact absurd hhead hne
  next => rfl

end Handling

/-- Within its deadline, a request is answered by what its dialogue ends with. -/
theorem exists_ends_exchange (hlimit : app.requestLimit ≠ 0) {script : List ScriptedReply}
    (harrives : ∀ reply ∈ script, reply.hangs = false) :
    ∃ r, (handling app stamp request).respond.Ends
        (answered (exchange app stamp request script).calls script) r ∧
      (exchange app stamp request script).response =
        (handling app stamp request).finish request r := by
  obtain ⟨r, houtcome, hends⟩ := exists_ends_run (handling app stamp request).respond harrives
  have hexchange : exchange app stamp request script =
      ⟨((handling app stamp request).respond.run script).calls,
        (handling app stamp request).finish request r⟩ := by
    simp [exchange, hlimit, houtcome]
  rw [hexchange]
  exact ⟨r, hends, rfl⟩

/-- What a resource does for a method that it has. -/
theorem handling_of_mem_methods (htarget : Resource.ofTarget? request.target = some resource)
    (hne : resource ≠ .readiness) (hmethod : resource.methods.contains request.method = true) :
    handling app stamp request =
      ⟨resource.isBounded, none, perform app stamp request resource⟩ := by
  rw [handling_of_ofTarget? htarget hne, if_pos hmethod]

end Api

end EventCatalog
