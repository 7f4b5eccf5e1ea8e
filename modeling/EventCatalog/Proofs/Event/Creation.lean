import EventCatalog.Event.Stored
import EventCatalog.Proofs.Instant.Millis
import EventCatalog.Proofs.Service
import EventCatalog.Proofs.Walk.Token

/-!
# Concurrent creation of events

The time of creation and the identifier of an event come from two readings of the clock, first the
one for the time and later the one in front of the identifier.  Creations that run at once take
these steps in any order among each other, so identifiers are in the order of the second readings
and times in the order of the first ones.  The two orders disagree where one creation takes both of
its steps between those of another one.
-/

namespace EventCatalog

/-- A request for a new event that passes its checks, with its tenant and its actor. -/
structure EventRequest where
  tenantId : String
  actor : Option String
  draft : EventDraft
  valid : Validation.check draft.faults = .ok ()

namespace EventRequest

/-- The event that is made of a request. -/
def event (r : EventRequest) (now : Instant) (id : Uuid) : Event :=
  r.draft.toEvent r.tenantId r.actor now id

theorem asks_createEvent (r : EventRequest) (now : Instant) (id : Uuid)
    {history : Dialogue.History StoreCall.Answer} {asked : StoreCall} :
    (Service.createEvent r.tenantId r.actor r.draft now id).Asks history asked ↔
      history = [] ∧ asked = .insertEvent (r.event now id) := by
  rw [Service.asks_createEvent]
  exact and_iff_right r.valid

end EventRequest

namespace Creation

/-- A step of a creation: it reads the clock, or it draws its identifier when the clock shows
`now`. -/
inductive Step where
  | read (now : Instant)
  | draw (now : Instant) (id : Uuid)
  deriving DecidableEq, Repr

namespace Step

/-- What the clock shows at a step. -/
def time : Step → Instant
  | read now => now
  | draw now _ => now

/-- The identifier that a step draws. -/
def id? : Step → Option Uuid
  | read _ => none
  | draw _ id => some id

/-- The clock shows no leap seconds, and identifiers start with its milliseconds. -/
def IsRegular (s : Step) : Prop :=
  ¬s.time.InLeapSecond ∧ ∀ id ∈ s.id?, (id.millis : Int) = s.time.toMillis

/-- The clock never goes back, and identifiers grow. -/
def Precedes (s t : Step) : Prop :=
  s.time ≤ t.time ∧ ∀ id ∈ s.id?, ∀ later ∈ t.id?, id < later

end Step

/-- How far a creation has come. -/
inductive Phase where
  | waiting
  | dated (now : Instant)
  | drawn (now : Instant) (id : Uuid)
  deriving DecidableEq, Repr

/-- A creation first reads the clock and then draws its identifier. -/
def Phase.after? : Phase → Step → Option Phase
  | waiting, .read now => some (dated now)
  | dated now, .draw _ id => some (drawn now id)
  | _, _ => none

theorem Phase.after?_eq_dated {phase : Phase} {s : Step} {now : Instant} :
    phase.after? s = some (.dated now) ↔ phase = .waiting ∧ s = .read now := by
  cases phase <;> cases s <;> simp [after?]

theorem Phase.after?_eq_drawn {phase : Phase} {s : Step} {now : Instant} {id : Uuid} :
    phase.after? s = some (.drawn now id) ↔ phase = .dated now ∧ ∃ t, s = .draw t id := by
  cases phase <;> cases s <;> simp [after?]

/-- In an ordered list an item that is not ordered behind another one stands in front of it. -/
theorem mem_front_of_not_rel {α : Type} {R : α → α → Prop} {x y : α} {front back : List α}
    (hordered : (front ++ y :: back).Pairwise R) (hx : x ∈ front ++ y :: back) (hne : x ≠ y)
    (hnot : ¬R y x) : x ∈ front := by
  have hback : ∀ z ∈ back, R y z :=
    (List.pairwise_cons.1 (List.pairwise_append.1 hordered).2.1).1
  rcases List.mem_append.1 hx with hfront | hlater
  · exact hfront
  · rcases List.mem_cons.1 hlater with heq | hmem
    · exact absurd heq hne
    · exact absurd (hback x hmem) hnot

/-- In an ordered list an item that is not ordered in front of another one stands behind it. -/
theorem mem_back_of_not_rel {α : Type} {R : α → α → Prop} {x y : α} {front back : List α}
    (hordered : (front ++ y :: back).Pairwise R) (hx : x ∈ front ++ y :: back) (hne : x ≠ y)
    (hnot : ¬R x y) : x ∈ back := by
  have hfront : ∀ z ∈ front, R z y := fun z hz ↦
    (List.pairwise_append.1 hordered).2.2 z hz y (List.mem_cons_self ..)
  rcases List.mem_append.1 hx with hmem | hlater
  · exact absurd (hfront x hmem) hnot
  · exact (List.mem_cons.1 hlater).resolve_left hne

/-- In an ordered list two items stand around a pair of others when they are not ordered inside. -/
theorem sublist_of_not_rel {α : Type} {R : α → α → Prop} {x y z u : α} {l : List α}
    (hordered : l.Pairwise R) (hinner : [y, z].Sublist l) (hx : x ∈ l) (hxy : x ≠ y)
    (hnot : ¬R y x) (hu : u ∈ l) (huz : u ≠ z) (hnot' : ¬R u z) : [x, y, z, u].Sublist l := by
  obtain ⟨left, right, rfl, hy, hz⟩ := List.cons_sublist_iff.1 hinner
  obtain ⟨first, second, rfl⟩ := List.append_of_mem hy
  obtain ⟨third, fourth, rfl⟩ := List.append_of_mem (List.singleton_sublist.1 hz)
  have hfront : x ∈ first := by
    rw [List.append_assoc, List.cons_append] at hordered hx
    exact mem_front_of_not_rel hordered hx hxy hnot
  have hback : u ∈ fourth := by
    rw [← List.append_assoc] at hordered hu
    exact mem_back_of_not_rel hordered hu huz hnot'
  have hleft : [x, y].Sublist (first ++ y :: second) :=
    (List.singleton_sublist.2 hfront).append (List.singleton_sublist.2 (List.mem_cons_self ..))
  have hright : [z, u].Sublist (third ++ z :: fourth) :=
    ((List.singleton_sublist.2 hback).cons_cons z).trans (List.sublist_append_right third _)
  exact hleft.append hright

/-- Creations that run at once, with the last reading of the clock and the last identifier. -/
structure World (ι : Type) where
  clock : Instant
  lastId : Option Uuid
  phase : ι → Phase

namespace World

variable {ι : Type}

/-- No creation has begun. -/
def start : World ι := ⟨.first, none, fun _ ↦ .waiting⟩

/-- Whether a step may come next. -/
def Admits (w : World ι) (s : Step) : Prop :=
  s.IsRegular ∧ w.clock ≤ s.time ∧ ∀ last ∈ w.lastId, ∀ id ∈ s.id?, last < id

instance (w : World ι) (s : Step) : Decidable (w.Admits s) :=
  inferInstanceAs (Decidable ((¬s.time.InLeapSecond ∧
    ∀ id ∈ s.id?, (id.millis : Int) = s.time.toMillis) ∧ w.clock ≤ s.time ∧
      ∀ last ∈ w.lastId, ∀ id ∈ s.id?, last < id))

/-- Whether an event is the one that a creation, its steps taken, hands to the store. -/
def Inserts (w : World ι) (requests : ι → EventRequest) (i : ι) (e : Event) : Prop :=
  ∃ now id, w.phase i = .drawn now id ∧
    (Service.createEvent (requests i).tenantId (requests i).actor (requests i).draft now id).Asks
      [] (.insertEvent e)

/-- What a world tells about the steps that led to it. -/
structure Follows (history : List (ι × Step)) (w : World ι) : Prop where
  precedes : history.Pairwise fun s t ↦ s.2.Precedes t.2
  regular : ∀ move ∈ history, move.2.IsRegular
  time_le : ∀ move ∈ history, move.2.time ≤ w.clock
  id_le : ∀ move ∈ history, ∀ id ∈ move.2.id?, ∃ last ∈ w.lastId, id ≤ last
  dated : ∀ i now, w.phase i = .dated now → (i, .read now) ∈ history
  drawn : ∀ i now id, w.phase i = .drawn now id →
    ∃ t, [(i, .read now), (i, .draw t id)].Sublist history

theorem follows_start : Follows [] (start : World ι) where
  precedes := .nil
  regular := by simp
  time_le := by simp
  id_le := by simp
  dated _ _ h := Phase.noConfusion h
  drawn _ _ _ h := Phase.noConfusion h

section Order

variable {w : World ι} {requests : ι → EventRequest} {history : List (ι × Step)} {i j : ι}
  {a b e : Event}

theorem inserts_iff :
    w.Inserts requests i e ↔
      ∃ now id, w.phase i = .drawn now id ∧ e = (requests i).event now id := by
  refine exists_congr fun now ↦ exists_congr fun id ↦ and_congr_right fun _ ↦ ?_
  rw [EventRequest.asks_createEvent]
  constructor
  · rintro ⟨-, hasked⟩
    exact StoreCall.insertEvent.inj hasked
  · rintro rfl
    exact ⟨rfl, rfl⟩

/-- An event keeps what its creation saw at its two steps. -/
theorem Follows.steps_of_inserts (h : Follows history w) (he : w.Inserts requests i e) :
    ∃ t, [(i, .read e.createdAt), (i, .draw t e.id)].Sublist history := by
  obtain ⟨now, id, hphase, rfl⟩ := inserts_iff.1 he
  exact h.drawn i now id hphase

theorem Follows.not_inLeapSecond (h : Follows history w) (he : w.Inserts requests i e) :
    ¬e.createdAt.InLeapSecond := by
  obtain ⟨t, hsteps⟩ := h.steps_of_inserts he
  exact (h.regular _ (hsteps.subset (List.mem_cons_self ..))).1

theorem Follows.createdAt_le_millis (h : Follows history w) (he : w.Inserts requests i e) :
    e.createdAt.toMillis ≤ e.id.millis := by
  obtain ⟨t, hsteps⟩ := h.steps_of_inserts he
  have hle : e.createdAt ≤ t := (List.pairwise_iff_forall_sublist.1 h.precedes hsteps).1
  have hmillis : (e.id.millis : Int) = t.toMillis :=
    (h.regular _ (hsteps.subset (List.mem_cons_of_mem _ (List.mem_singleton_self _)))).2 _ rfl
  rw [hmillis]
  exact Instant.toMillis_le_of_le (h.not_inLeapSecond he) hle

/-- Of two events the one with the smaller identifier has the larger time of creation just when both
of its steps came between those of the other one. -/
theorem Follows.createdAt_lt_iff (h : Follows history w) (ha : w.Inserts requests i a)
    (hb : w.Inserts requests j b) (hid : a.id < b.id) :
    b.createdAt.toMillis < a.createdAt.toMillis ↔
      b.createdAt.toMillis ≠ a.createdAt.toMillis ∧
        ∃ t later, [(j, .read b.createdAt), (i, .read a.createdAt), (i, .draw t a.id),
          (j, .draw later b.id)].Sublist history := by
  constructor
  · intro hlt
    obtain ⟨t, hinner⟩ := h.steps_of_inserts ha
    obtain ⟨later, houter⟩ := h.steps_of_inserts hb
    refine ⟨hlt.ne, t, later, sublist_of_not_rel h.precedes hinner
      (houter.subset (List.mem_cons_self ..)) ?_ ?_
      (houter.subset (List.mem_cons_of_mem _ (List.mem_singleton_self _))) ?_ ?_⟩
    · intro hread
      have htime : b.createdAt = a.createdAt := congrArg (·.2.time) hread
      exact hlt.ne (congrArg Instant.toMillis htime)
    · rintro ⟨hle, -⟩
      exact absurd (Instant.toMillis_le_of_le (h.not_inLeapSecond ha) hle) (not_le.2 hlt)
    · intro hdraw
      have hsame : some b.id = some a.id := congrArg (·.2.id?) hdraw
      exact hid.ne' (Option.some.inj hsame)
    · rintro ⟨-, hgrow⟩
      exact lt_asymm hid (hgrow b.id rfl a.id rfl)
  · rintro ⟨hne, t, later, hsteps⟩
    have hle : b.createdAt ≤ a.createdAt :=
      ((List.pairwise_cons.1 (h.precedes.sublist hsteps)).1 _ (List.mem_cons_self ..)).1
    exact lt_of_le_of_ne (Instant.toMillis_le_of_le (h.not_inLeapSecond hb) hle) hne

end Order

section Run

variable [DecidableEq ι]

/-- A creation comes to a phase by a step. -/
def advance (w : World ι) (i : ι) (s : Step) (phase : Phase) : World ι where
  clock := s.time
  lastId := s.id? <|> w.lastId
  phase := Function.update w.phase i phase

/-- A step of one creation. -/
def step (w : World ι) (move : ι × Step) : Option (World ι) :=
  if w.Admits move.2 then
    ((w.phase move.1).after? move.2).map (w.advance move.1 move.2)
  else none

/-- The steps of a schedule one after the other. -/
def run (w : World ι) (schedule : List (ι × Step)) : Option (World ι) := schedule.foldlM step w

variable {w w' : World ι} {history schedule : List (ι × Step)} {i j : ι}

@[simp]
theorem phase_advance_self {s : Step} {phase : Phase} : (w.advance i s phase).phase i = phase :=
  Function.update_self _ _ _

theorem phase_advance_of_ne {s : Step} {phase : Phase} (h : i ≠ j) :
    (w.advance j s phase).phase i = w.phase i :=
  Function.update_of_ne h _ _

theorem step_eq_some_iff {move : ι × Step} :
    w.step move = some w' ↔ w.Admits move.2 ∧
      ∃ phase, (w.phase move.1).after? move.2 = some phase ∧
        w.advance move.1 move.2 phase = w' := by
  rw [step]
  split
  case isTrue h => simp [h]
  case isFalse h => simp [h]

theorem Follows.step {move : ι × Step} (h : Follows history w) (hstep : w.step move = some w') :
    Follows (history ++ [move]) w' := by
  obtain ⟨⟨hregular, hclock, hlast⟩, phase, hphase, rfl⟩ := step_eq_some_iff.1 hstep
  constructor
  case precedes =>
    refine List.pairwise_append.2 ⟨h.precedes, List.pairwise_singleton _ _, ?_⟩
    intro earlier hearlier later hlater
    rw [List.mem_singleton.1 hlater]
    refine ⟨le_trans (h.time_le _ hearlier) hclock, fun id hid later hlater ↦ ?_⟩
    obtain ⟨last, hmem, hle⟩ := h.id_le _ hearlier id hid
    exact lt_of_le_of_lt hle (hlast last hmem later hlater)
  case regular =>
    exact List.forall_mem_append.2 ⟨h.regular, List.forall_mem_singleton.2 hregular⟩
  case time_le =>
    refine List.forall_mem_append.2 ⟨fun earlier hearlier ↦ ?_, List.forall_mem_singleton.2 ?_⟩
    · exact le_trans (h.time_le _ hearlier) hclock
    · exact le_refl _
  case id_le =>
    refine List.forall_mem_append.2
      ⟨fun earlier hearlier id hid ↦ ?_, List.forall_mem_singleton.2 fun id hid ↦ ?_⟩
    · obtain ⟨last, hmem, hle⟩ := h.id_le _ hearlier id hid
      cases hdrawn : move.2.id? with
      | none => exact ⟨last, by simpa [advance, hdrawn] using hmem, hle⟩
      | some later =>
        have hlt : last < later := hlast last hmem later hdrawn
        exact ⟨later, by simp [advance, hdrawn], hle.trans hlt.le⟩
    · exact ⟨id, by simp [advance, Option.mem_def.1 hid], le_rfl⟩
  case dated =>
    intro i now hi
    by_cases hmoved : i = move.1
    · rw [hmoved, phase_advance_self] at hi
      obtain ⟨-, hread⟩ := Phase.after?_eq_dated.1 (hi ▸ hphase)
      exact List.mem_append_right _ (List.mem_singleton.2 (Prod.ext hmoved hread.symm))
    · rw [phase_advance_of_ne hmoved] at hi
      exact List.mem_append_left _ (h.dated i now hi)
  case drawn =>
    intro i now id hi
    by_cases hmoved : i = move.1
    · rw [hmoved, phase_advance_self] at hi
      obtain ⟨hdated, t, hdraw⟩ := Phase.after?_eq_drawn.1 (hi ▸ hphase)
      have hread : [(i, Step.read now)].Sublist history :=
        List.singleton_sublist.2 (h.dated i now (hmoved ▸ hdated))
      have hlater : (i, Step.draw t id) = move := Prod.ext hmoved hdraw.symm
      exact ⟨t, hlater ▸ hread.append (List.Sublist.refl _)⟩
    · rw [phase_advance_of_ne hmoved] at hi
      obtain ⟨t, hsteps⟩ := h.drawn i now id hi
      exact ⟨t, hsteps.trans (List.sublist_append_left _ _)⟩

theorem Follows.run (h : Follows history w) (hrun : w.run schedule = some w') :
    Follows (history ++ schedule) w' := by
  induction schedule generalizing history w with
  | nil =>
    rw [World.run, List.foldlM_nil] at hrun
    rw [List.append_nil, ← Option.some.inj hrun]
    exact h
  | cons move schedule ih =>
    rw [World.run, List.foldlM_cons] at hrun
    obtain ⟨next, hstep, hlater⟩ := Option.bind_eq_some_iff.1 hrun
    rw [List.append_cons]
    exact ih (h.step hstep) hlater

theorem follows_of_run (hrun : start.run schedule = some w) : Follows schedule w :=
  follows_start.run hrun

variable {requests : ι → EventRequest}

/-- Creations that never run inside each other give identifiers in the order of creation. -/
theorem agrees_createdAt_of_run {c : Catalog} (hrun : start.run schedule = some w)
    (hstored : ∀ e ∈ c.events, ∃ i, w.Inserts requests i e)
    (hapart : ∀ i j before now t later id outerId,
      ¬[(j, .read before), (i, .read now), (i, .draw t id),
        (j, .draw later outerId)].Sublist schedule) : c.Agrees .createdAt := by
  intro a hmem b hmem' hid
  obtain ⟨i, ha⟩ := hstored a hmem
  obtain ⟨j, hb⟩ := hstored b hmem'
  refine (Bson.key_date_le _ _).2 (not_lt.1 fun hlt ↦ ?_)
  obtain ⟨-, t, later, hinside⟩ := ((follows_of_run hrun).createdAt_lt_iff ha hb hid).1 hlt
  exact hapart i j _ _ t later _ _ hinside

/-- In every run of concurrent creations, of two stored events the one with the smaller identifier
was created by the millisecond in front of the other identifier.  Its stored time of creation is
the later one exactly when its creation read the clock and drew its identifier between these two
steps of the other creation, in another millisecond than that one's reading. -/
theorem stored_createdAt_of_run {a b : Event} (hrun : start.run schedule = some w)
    (ha : w.Inserts requests i a) (hb : w.Inserts requests j b) (hid : a.id < b.id) :
    ∃ created other : Int,
      a.toDocument.get? "created_at" = some (.date created) ∧
      b.toDocument.get? "created_at" = some (.date other) ∧
      created ≤ b.id.millis ∧
      (other < created ↔ other ≠ created ∧
        ∃ t later, [(j, .read b.createdAt), (i, .read a.createdAt), (i, .draw t a.id),
          (j, .draw later b.id)].Sublist schedule) := by
  have hfollows : Follows schedule w := follows_of_run hrun
  refine ⟨a.createdAt.toMillis, b.createdAt.toMillis, rfl, rfl, ?_, ?_⟩
  · calc
      a.createdAt.toMillis ≤ a.id.millis := hfollows.createdAt_le_millis ha
      _ ≤ b.id.millis := Int.ofNat_le.2 (Uuid.millis_le_of_le hid.le)
  · exact hfollows.createdAt_lt_iff ha hb hid

/-- Two requests for an event. -/
def twoRequests (_ : Bool) : EventRequest where
  tenantId := "tenant"
  actor := none
  draft := { (default : EventDraft) with title := "title" }
  valid := rfl

/-- Two creations, each of which waits for the other one between its steps. -/
def overlapping : List (Bool × Step) :=
  [(false, .read (.ofMillis 0)), (true, .read (.ofMillis 1)),
    (false, .draw (.ofMillis 1) (.timeOrdered 1 0)), (true, .draw (.ofMillis 2) (.timeOrdered 2 0))]

theorem stored_createdAt_overlapping :
    ∃ w, start.run overlapping = some w ∧
      ∃ a b, w.Inserts twoRequests false a ∧ w.Inserts twoRequests true b ∧ a.id < b.id ∧
        ∃ created other : Int,
          a.toDocument.get? "created_at" = some (.date created) ∧
          b.toDocument.get? "created_at" = some (.date other) ∧ created ≤ other := by
  have hrun : ∃ w, start.run overlapping = some w ∧
      w.phase false = .drawn (.ofMillis 0) (.timeOrdered 1 0) ∧
      w.phase true = .drawn (.ofMillis 1) (.timeOrdered 2 0) := ⟨_, rfl, rfl, rfl⟩
  obtain ⟨w, hrun, hfirst, hsecond⟩ := hrun
  have ha : w.Inserts twoRequests false _ := inserts_iff.2 ⟨_, _, hfirst, rfl⟩
  have hb : w.Inserts twoRequests true _ := inserts_iff.2 ⟨_, _, hsecond, rfl⟩
  obtain ⟨created, other, hcreated, hother, -, hlt⟩ :=
    stored_createdAt_of_run hrun ha hb (by decide)
  refine ⟨w, hrun, _, _, ha, hb, by decide, created, other, hcreated, hother, not_lt.1 fun h ↦ ?_⟩
  obtain ⟨-, t, later, hinside⟩ := hlt.1 h
  -- the first creation was not dated behind the second one
  exact absurd ((List.sublist_append_left [_, _] [_, _]).trans hinside) (by decide)

/-- A creation that takes both of its steps between those of another one, a millisecond later. -/
def enclosing : List (Bool × Step) :=
  [(false, .read (.ofMillis 0)), (true, .read (.ofMillis 1)),
    (true, .draw (.ofMillis 1) (.timeOrdered 1 0)), (false, .draw (.ofMillis 2) (.timeOrdered 2 0))]

/-- Identifiers do not always follow the stored times of creation. -/
theorem stored_createdAt_enclosing :
    ∃ w, start.run enclosing = some w ∧
      ∃ a b, w.Inserts twoRequests true a ∧ w.Inserts twoRequests false b ∧ a.id < b.id ∧
        a.toDocument.get? "created_at" = some (.date 1) ∧
        b.toDocument.get? "created_at" = some (.date 0) := by
  refine ⟨_, rfl, _, _, inserts_iff.2 ⟨_, _, rfl, rfl⟩, inserts_iff.2 ⟨_, _, rfl, rfl⟩, ?_, ?_, ?_⟩
  · decide
  · rfl
  · rfl

end Run

end World

end Creation

end EventCatalog
