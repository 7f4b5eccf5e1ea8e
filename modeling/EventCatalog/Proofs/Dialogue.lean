import EventCatalog.Store.Script

/-!
# What dialogues ask

The calls that a dialogue makes, whatever its partner answers.  A history is the list of the calls
so far, each with its answer.  A call that is never answered is asked all the same: it is one that
follows a history.

Scripts are one kind of partner.  The calls that a run records are asked, each after those in front
of it; that a run may stop early takes nothing from this.
-/

namespace EventCatalog.Dialogue

variable {Call : Type} {Answer : Call → Type} {α β ε : Type}

/-- Calls with their answers, in their order. -/
abbrev History (Answer : Call → Type) := List (Sigma Answer)

/-- A dialogue makes a call once the calls before it were answered. -/
inductive Asks : Dialogue Answer α → History Answer → Call → Prop
  | now (c : Call) (next : Answer c → Dialogue Answer α) : Asks (call c next) [] c
  | later {c : Call} {next : Answer c → Dialogue Answer α} {history : History Answer} {asked : Call}
      (answer : Answer c) : Asks (next answer) history asked →
        Asks (call c next) (⟨c, answer⟩ :: history) asked

@[simp]
theorem not_asks_done (a : α) (history : History Answer) (asked : Call) :
    ¬(done a).Asks history asked := by
  intro h
  cases h

@[simp]
theorem not_asks_pure (a : α) (history : History Answer) (asked : Call) :
    ¬(pure a : Dialogue Answer α).Asks history asked :=
  not_asks_done a history asked

theorem asks_call {c : Call} {next : Answer c → Dialogue Answer α} {history : History Answer}
    {asked : Call} :
    (call c next).Asks history asked ↔ (history = [] ∧ asked = c) ∨
      ∃ answer rest, history = ⟨c, answer⟩ :: rest ∧ (next answer).Asks rest asked := by
  constructor
  · intro h
    cases h with
    | now => exact .inl ⟨rfl, rfl⟩
    | later answer h => exact .inr ⟨answer, _, rfl, h⟩
  · rintro (⟨rfl, rfl⟩ | ⟨answer, rest, rfl, h⟩)
    · exact .now _ _
    · exact .later answer h

theorem asks_ask {c : Call} {history : History Answer} {asked : Call} :
    (ask c : Dialogue Answer (Answer c)).Asks history asked ↔ history = [] ∧ asked = c := by
  rw [ask, asks_call]
  simp

/-- What is done with the result of a dialogue is no call. -/
theorem asks_bind_pure {m : Dialogue Answer α} {f : α → β} {history : History Answer}
    {asked : Call} :
    (m >>= fun a ↦ pure (f a)).Asks history asked ↔ m.Asks history asked := by
  induction m generalizing history with
  | done a => exact iff_of_false (not_asks_done _ _ _) (not_asks_done _ _ _)
  | call c next ih =>
    change (call c fun answer ↦ next answer >>= fun a ↦ pure (f a)).Asks history asked ↔ _
    simp only [asks_call, ih]

/-- Asking first and going on with the answer. -/
theorem asks_ask_bind {c : Call} {f : Answer c → Dialogue Answer α} {history : History Answer}
    {asked : Call} :
    ((ask c : Dialogue Answer (Answer c)) >>= f).Asks history asked ↔
      (history = [] ∧ asked = c) ∨
        ∃ answer rest, history = ⟨c, answer⟩ :: rest ∧ (f answer).Asks rest asked :=
  asks_call

@[simp]
theorem asks_onSuccess {outcome : Except ε α} {f : α → Dialogue Answer (Except ε β)}
    {history : History Answer} {asked : Call} :
    (onSuccess outcome f).Asks history asked ↔ ∃ a, outcome = .ok a ∧ (f a).Asks history asked := by
  cases outcome with
  | ok a => simp [onSuccess]
  | error e => simp [onSuccess, fail]

/-- Calls with the answers that a script gives to one after another. -/
def answered : List StoreCall → List ScriptedReply → History StoreCall.Answer
  | [], _ => []
  | c :: calls, script => ⟨c, (script.headD .empty).answer c⟩ :: answered calls script.tail

/-- The calls that a played dialogue records are asked, after those in front of them were answered
by the script. -/
theorem asks_of_play {m : Interaction α} {watched cancelled : Bool} {script : List ScriptedReply}
    {front back : List StoreCall} {asked : StoreCall}
    (h : (play watched cancelled m script).calls = front ++ asked :: back) :
    m.Asks (answered front script) asked := by
  induction m generalizing cancelled script front with
  | done a => simp [play] at h
  | call c next ih =>
    cases front with
    | nil =>
      have hfirst : (play watched cancelled (call c next) script).calls.head? = some c := by
        rw [play]
        split
        · rfl
        · split <;> rfl
      rw [h] at hfirst
      cases hfirst
      exact .now _ _
    | cons earlier front =>
      rw [play] at h
      split at h
      · simp at h
      · split at h
        · simp at h
        · obtain ⟨rfl, hrest⟩ := List.cons.inj h
          exact .later _ (ih _ hrest)

end EventCatalog.Dialogue
