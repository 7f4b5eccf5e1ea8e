import EventCatalog.Proofs.Catalog
import EventCatalog.Proofs.Mongo.Reading
import EventCatalog.Service

/-!
# Listings over a catalog

The service asks a catalog for the rows of a page and for their number.  Each call sends one
command, the catalog answers it with what its database makes of it, and the rows are decoded.  The
page that comes out is made of a part of the listing.
-/

namespace EventCatalog

namespace Mongo

/-- The command that a call of the store sends. -/
def commandOf (call : StoreCall) : Option Command :=
  ((perform call).run (Server.ofReplies [])).2.log.head?

theorem total?_of_decodeInteger {v : Bson} {n : Nat} (h : Bson.decodeInteger v = some (n : Int))
    (hle : n ≤ Text.max64) : total? [("total", v)] = some n := by
  have hget : Document.get? [("total", v)] "total" = some v := rfl
  have hrange : (0 : Int) ≤ n ∧ (n : Int) ≤ Text.max64 := by omega
  rw [total?, hget, Option.bind_some]
  simp only [Bson.decodeUnsigned, h, Option.bind_eq_bind, Option.bind_some, if_pos hrange,
    Int.toNat_natCast]

namespace Database

variable (db : Database)

/-- The reply to a command.  Nothing is ever written. -/
def reply : Command → Reply
  | .aggregate collection pipeline =>
    match db.aggregate collection pipeline with
    | some rows => .batch rows none
    | none => .failed .unreadableReply
  | _ => .failed .unreadableReply

/-- The answer to a call of the store. -/
def answer (call : StoreCall) : call.Answer :=
  ((perform call).run (Server.ofReplies ((commandOf call).toList.map db.reply))).1

theorem answer_fetchPage {plan : Plan} {rows : List Document}
    (h : db.aggregate eventsCollection plan.pipeline = some rows) :
    db.answer (.fetchPage plan) = rows.mapM Wording.silent.decodeRow := by
  have hcommand : commandOf (.fetchPage plan) =
      some (.aggregate eventsCollection plan.pipeline) := rfl
  simp only [answer, hcommand, Option.toList_some, List.map_cons, List.map_nil, reply, h]
  rfl

theorem answer_fetchCount {plan : Plan} {rows : List Document}
    (h : db.aggregate eventsCollection plan.countPipeline = some rows) :
    db.answer (.fetchCount plan) = (rows.head?.elim (some 0) total? : Option Nat) := by
  have hcommand : commandOf (.fetchCount plan) =
      some (.aggregate eventsCollection plan.countPipeline) := rfl
  simp only [answer, hcommand, Option.toList_some, List.map_cons, List.map_nil, reply, h]
  cases rows <;> rfl

end Database

end Mongo

/-- A listing costs the rows of its plan and, following an offset, their number. -/
theorem Service.interpret_list {answer : (call : StoreCall) → call.Answer}
    {settings : PageSettings} {filter : EventFilter} {audience : Audience} {plan : Plan}
    {rows : List Event}
    (hplan : (do
      Service.checkTenant filter audience
      Plan.ofFilter filter audience settings) = .ok plan)
    (hrows : answer (.fetchPage plan) = (.ok rows : Except EventError (List Event))) :
    Id.run ((Service.list settings filter audience).interpret (m := Id) answer) =
      .ok (Page.ofRows Event.position rows plan.limit
        (if plan.isCursorMode then .cursor
          else .offset plan.offset (answer (.fetchCount plan)))) := by
  rw [Service.list, hplan]
  cases hmode : plan.isCursorMode with
  | true =>
    simp [Dialogue.onSuccess, bind, pure, Dialogue.bind, Store.fetchPage, Dialogue.ask,
      Dialogue.interpret, hrows, Service.pageMode, hmode]
    rfl
  | false =>
    simp [Dialogue.onSuccess, bind, pure, Dialogue.bind, Store.fetchPage, Store.fetchCount,
      Dialogue.ask, Dialogue.interpret, hrows, Service.pageMode, hmode]
    rfl

namespace EventFilter

theorem fetched_map (f : EventFilter) (cursor : Option Cursor) (g : α → β) (rows : List α) :
    f.fetched cursor (rows.map g) = (f.fetched cursor rows).map g := by
  unfold fetched
  split
  · rw [List.map_take]
  · rw [List.map_take, List.map_drop]

end EventFilter

namespace Catalog

open Mongo

variable (c : Catalog) (f : EventFilter) (audience : Audience) (settings : PageSettings)

/-- The events of the listing behind the row of a token; all of them without a token. -/
def remaining (cursor : Option Cursor) : List Event :=
  (c.listing f audience settings).filter fun e ↦
    (cursor.bind (·.lastId)).all fun id ↦ f.sortOrder.lt id e.id

/-- The rows of a page are delivered events of the listing. -/
theorem answer_fetchPage (cursor : Option Cursor) :
    c.toDatabase.answer
        (.fetchPage (Plan.ofCursor f audience settings.defaultRadius cursor)) =
      (.ok ((f.fetched cursor (c.remaining f audience settings cursor)).map (c.deliver f)) :
        Except EventError (List Event)) := by
  have hrows : f.reference audience settings c.toDatabase cursor =
      (f.fetched cursor (c.remaining f audience settings cursor)).map fun e ↦
        e.row (c.sessionsOf f.sessionWindow e) := by
    rw [EventFilter.reference, matching_toDatabase, EventFilter.fetched_map, List.map_map]
    exact List.map_congr_left fun e _ ↦ c.withSessions_toDatabase f e
  have hread : ∀ e : Event, Wording.silent.decodeRow (e.row (c.sessionsOf f.sessionWindow e)) =
      .ok (c.deliver f e) := by
    intro e
    refine Wording.decodeRow_eq_ok_iff.2 (e.ofDocument?_row fun s hs ↦ c.capacities s ?_)
    exact (List.mem_filter.1 ((List.mem_insertionSort _).1 hs)).1
  rw [c.toDatabase.answer_fetchPage
    (Plan.aggregate_pipeline_ofCursor f audience settings c.toDatabase cursor), hrows]
  refine mapM_eq_ok_iff.2 ?_
  rw [List.forall₂_map_left_iff, List.forall₂_map_right_iff, List.forall₂_same]
  exact fun e _ ↦ hread e

/-- The number that a count reports, if it is one of 64 bits. -/
def counted (n : Nat) : Option Nat := if n ≤ Bson.maxInt64 then some n else none

theorem total?_countValue (n : Nat) : total? [("total", countValue n)] = counted n := by
  rw [countValue, counted, Bson.maxInt64]
  split
  next hsmall => rw [total?_of_decodeInteger rfl (by rw [Text.max64]; omega), if_pos (by omega)]
  next hlarge =>
    split
    next hle => rw [total?_of_decodeInteger rfl (by rw [Text.max64]; omega)]
    next hgt => rfl

theorem answer_fetchCount (cursor : Option Cursor) :
    c.toDatabase.answer
        (.fetchCount (Plan.ofCursor f audience settings.defaultRadius cursor)) =
      counted (c.remaining f audience settings cursor).length := by
  have hlength : (f.matching audience settings c.toDatabase (cursor.bind (·.lastId))).length =
      (c.remaining f audience settings cursor).length := by
    rw [matching_toDatabase, List.length_map, remaining]
  rw [c.toDatabase.answer_fetchCount
    (Plan.aggregate_countPipeline_ofCursor f audience settings c.toDatabase cursor), hlength,
    Plan.countRows]
  split
  next hzero => rw [hzero]; rfl
  next hpos => exact total?_countValue _

/-- The answer of a catalog to a call of the store.  Counts may fail, for whatever reason. -/
def answer (counts : Bool) : (call : StoreCall) → call.Answer
  | .fetchCount plan => if counts then c.toDatabase.answer (.fetchCount plan) else none
  | call => c.toDatabase.answer call

/-- The page that the service makes of a filter over a catalog. -/
def list (counts : Bool) : Except EventError (Page Event) :=
  Id.run ((Service.list settings f audience).interpret (m := Id) (c.answer counts))

/-- How the rows of a page are described. -/
def modeOf (counts : Bool) : Option Cursor → PageMode
  | some _ => .cursor
  | none => .offset f.offset
      (if counts then counted (c.listing f audience settings).length else none)

/-- A listing over a catalog is a page of what its token or its offset leaves. -/
theorem list_eq (counts : Bool) {cursor : Option Cursor}
    (haudience : Service.checkTenant f audience = .ok ()) (hcursor : Plan.cursorOf f = .ok cursor) :
    c.list f audience settings counts =
      .ok (Page.ofRows Event.position
        ((f.fetched cursor (c.remaining f audience settings cursor)).map (c.deliver f))
        (max f.limit 1) (c.modeOf f audience settings counts cursor)) := by
  have hplan : (do
      Service.checkTenant f audience
      Plan.ofFilter f audience settings) =
        .ok (Plan.ofCursor f audience settings.defaultRadius cursor) := by
    rw [haudience, Plan.ofFilter_eq f audience settings hcursor]
    rfl
  have hrows := c.answer_fetchPage f audience settings cursor
  have hcount := c.answer_fetchCount f audience settings cursor
  have hpage : c.answer counts
      (.fetchPage (Plan.ofCursor f audience settings.defaultRadius cursor)) = _ := hrows
  rw [list, Service.interpret_list hplan hpage]
  cases cursor with
  | none =>
    have hmode : c.modeOf f audience settings counts none = .offset f.offset
        (c.answer counts
          (.fetchCount (Plan.ofCursor f audience settings.defaultRadius none))) := by
      simp only [modeOf, answer, hcount, remaining, Option.bind_none, Option.all_none,
        List.filter_true]
      rfl
    rw [hmode]
    rfl
  | some t => rfl

end Catalog

end EventCatalog
