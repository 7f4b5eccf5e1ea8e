import EventCatalog.Proofs.Store.Run

/-!
# How dialogues end

The results of a dialogue, whatever its partner answers.  A dialogue ends after a history in which
each of its calls is answered, and the answers decide the result.

A script whose replies all arrive brings every dialogue to an end: the history is that of the
recorded calls and of the answers that the script gives to them.
-/

namespace EventCatalog.Dialogue

variable {Call : Type} {Answer : Call → Type} {α β ε : Type}

/-- A dialogue ends with a result once its calls were answered. -/
inductive Ends : Dialogue Answer α → History Answer → α → Prop
  | done (a : α) : Ends (done a) [] a
  | call {c : Call} {next : Answer c → Dialogue Answer α} {history : History Answer} {a : α}
      (answer : Answer c) : Ends (next answer) history a →
        Ends (call c next) (⟨c, answer⟩ :: history) a

theorem ends_done {a b : α} {history : History Answer} :
    (done a).Ends history b ↔ history = [] ∧ b = a := by
  constructor
  · intro h
    cases h
    exact ⟨rfl, rfl⟩
  · rintro ⟨rfl, rfl⟩
    exact .done b

theorem ends_pure {a b : α} {history : History Answer} :
    (pure a : Dialogue Answer α).Ends history b ↔ history = [] ∧ b = a :=
  ends_done

theorem ends_call {c : Call} {next : Answer c → Dialogue Answer α} {history : History Answer}
    {a : α} :
    (call c next).Ends history a ↔
      ∃ answer rest, history = ⟨c, answer⟩ :: rest ∧ (next answer).Ends rest a := by
  constructor
  · intro h
    cases h with
    | call answer h => exact ⟨answer, _, rfl, h⟩
  · rintro ⟨answer, rest, rfl, h⟩
    exact .call answer h

theorem ends_ask {c : Call} {history : History Answer} {answer : Answer c} :
    (ask c : Dialogue Answer (Answer c)).Ends history answer ↔ history = [⟨c, answer⟩] := by
  rw [ask, ends_call]
  constructor
  · rintro ⟨given, rest, rfl, h⟩
    obtain ⟨rfl, rfl⟩ := ends_done.1 h
    rfl
  · rintro rfl
    exact ⟨answer, [], rfl, .done answer⟩

/-- What is done with the result of a dialogue only changes the result. -/
theorem ends_bind_pure {m : Dialogue Answer α} {f : α → β} {history : History Answer} {b : β} :
    (m >>= fun a ↦ pure (f a)).Ends history b ↔ ∃ a, m.Ends history a ∧ b = f a := by
  induction m generalizing history with
  | done a =>
    change (pure (f a) : Dialogue Answer β).Ends history b ↔ _
    simp [ends_pure, ends_done, and_assoc]
  | call c next ih =>
    change (call c fun answer ↦ next answer >>= fun a ↦ pure (f a)).Ends history b ↔ _
    simp only [ends_call, ih]
    constructor
    · rintro ⟨answer, rest, hhistory, a, ha, hb⟩
      exact ⟨a, ⟨answer, rest, hhistory, ha⟩, hb⟩
    · rintro ⟨a, ⟨answer, rest, hhistory, ha⟩, hb⟩
      exact ⟨answer, rest, hhistory, a, ha, hb⟩

/-- A dialogue that needs the value of an outcome ends at once with the error when there is none. -/
theorem ends_onSuccess {outcome : Except ε α} {f : α → Dialogue Answer (Except ε β)}
    {history : History Answer} {result : Except ε β} :
    (onSuccess outcome f).Ends history result ↔
      (∃ e, outcome = .error e ∧ history = [] ∧ result = .error e) ∨
        ∃ a, outcome = .ok a ∧ (f a).Ends history result := by
  cases outcome with
  | ok a => simp [onSuccess]
  | error e => simp [onSuccess, fail, ends_done]

/-- The calls of a history that a script answers. -/
theorem map_fst_answered (calls : List StoreCall) (script : List ScriptedReply) :
    (answered calls script).map Sigma.fst = calls := by
  induction calls generalizing script with
  | nil => rfl
  | cons call calls ih => rw [answered, List.map_cons, ih]

/-- A script whose replies arrive brings a dialogue to an end. -/
theorem exists_ends_run (m : Interaction α) {script : List ScriptedReply}
    (h : ∀ r ∈ script, r.hangs = false) :
    ∃ a, (m.run script).outcome = .finished a ∧
      m.Ends (answered (m.run script).calls script) a := by
  -- The state of the token takes no part in a run that nobody watches.
  suffices hplay : ∀ cancelled, ∃ a, (play false cancelled m script).outcome = .finished a ∧
      m.Ends (answered (play false cancelled m script).calls script) a from hplay false
  intro cancelled
  induction m generalizing cancelled script with
  | done a => exact ⟨a, rfl, .done a⟩
  | call c next ih =>
    have hhead : (script.headD .empty).hangs = false := by
      cases script with
      | nil => rfl
      | cons r rest => exact h r List.mem_cons_self
    have htail : ∀ r ∈ script.tail, r.hangs = false := fun r hr ↦ h r (List.mem_of_mem_tail hr)
    obtain ⟨a, houtcome, hends⟩ := ih ((script.headD .empty).answer c) htail
      (cancelled || (script.headD .empty).cancels)
    rw [play_call_of_answered rfl hhead]
    exact ⟨a, houtcome, .call _ hends⟩

end EventCatalog.Dialogue
