import EventCatalog.Api.Readiness
import EventCatalog.Proofs.Api.Outcome
import EventCatalog.Proofs.Api.PublicListing
import EventCatalog.Proofs.Api.Tenancy
import EventCatalog.Proofs.Event.Stored
import EventCatalog.Proofs.Mongo.Reading
import EventCatalog.Proofs.Service.Listing
import EventCatalog.Proofs.Text.Trim

/-!
# Listings over a database

How a listing deals with what goes wrong in the database.  Its rows are all or nothing: a row that
is no event is not skipped, it fails the listing, and nothing is counted any more.  The number of
rows, on the other hand, may be missing for whatever reason; the listing then guesses from the size
of its page whether another one follows.
-/

namespace EventCatalog

open Mongo Dialogue

namespace Plan

/-- No stage of a page counts. -/
theorem countPipeline_ne_pipeline (plan : Plan) : plan.countPipeline ≠ plan.pipeline := by
  intro heq
  have hcount : [("$count", Bson.string "total")] ∈ plan.pipeline := by
    rw [← heq, countPipeline]
    exact List.mem_append_right _ (List.mem_singleton_self _)
  obtain ⟨stage, -, hstage⟩ := List.mem_map.1 hcount
  cases stage <;> simp [Stage.toDocument] at hstage

theorem one_le_limit_of_ofFilter {f : EventFilter} {audience : Audience}
    {settings : PageSettings} {plan : Plan} (h : ofFilter f audience settings = .ok plan) :
    1 ≤ plan.limit := by
  obtain ⟨cursor, -, rfl⟩ := exists_cursor_of_ofFilter f audience settings h
  exact le_max_right f.limit 1

end Plan

/-- The page of a listing whose count is missing: a full page is taken to have a successor, and
nothing is said about totals. -/
structure Page.IsUncounted (page : Page Event) (events : List Event) (limit : Nat) : Prop where
  items : page.items = events
  hasNext : page.pagination.hasNext = decide (events.length = limit)
  totalCount : page.pagination.totalCount = none
  currentPage : page.pagination.currentPage = none
  totalPages : page.pagination.totalPages = none

theorem Page.isUncounted_ofRows (events : List Event) {limit : Nat} (hlimit : 1 ≤ limit)
    (offset : Nat) :
    IsUncounted (Page.ofRows Event.position events limit (.offset offset none)) events limit := by
  have hmax : max limit 1 = limit := max_eq_left hlimit
  refine ⟨rfl, ?_, rfl, rfl, rfl⟩
  change decide (events.length = max limit 1) = _
  rw [hmax]

/-- Whether the commands that a server was sent on the way read the page of a plan and count
nothing. -/
def ReadsPageOnly (plan : Plan) (server later : Server) : Prop :=
  ∃ commands, later.log = server.log ++ commands ∧ ∀ command ∈ commands,
    IsReading eventsCollection plan.pipeline command ∧
      command ≠ .aggregate eventsCollection plan.countPipeline

theorem readsPageOnly_fetchPage (plan : Plan) (server : Server) :
    ReadsPageOnly plan server ((fetchPage plan).run server).2 := by
  obtain ⟨commands, hlog, hreading⟩ := (sendsOnly_fetchPage plan server).log
  refine ⟨commands, hlog, fun command hcommand ↦ ⟨hreading command hcommand, ?_⟩⟩
  rintro rfl
  exact plan.countPipeline_ne_pipeline (hreading _ hcommand).pipeline_eq

/-- A count that the server does not report is missing. -/
theorem fetchCount_eq_none {plan : Plan} {server : Server} (h : ∀ n, ¬server.Counts n) :
    (((fetchCount plan).run server).1 : Option Nat) = none := by
  rw [Option.eq_none_iff_forall_ne_some]
  intro n hn
  exact h n (fetchCount_eq_some_iff.1 hn)

namespace Service

variable {settings : PageSettings} {filter : EventFilter} {audience : Audience} {plan : Plan}
  {server : Server} {rows : List Event} {e : EventError}
  (hplan : (do
    checkTenant filter audience
    Plan.ofFilter filter audience settings) = .ok plan)

include hplan

/-- A page that fails is the end of a listing. -/
theorem run_list_of_fetchPage_error (h : ((fetchPage plan).run server).1 = .error e) :
    ((list settings filter audience).interpret Mongo.perform).run server =
      (.error e, ((fetchPage plan).run server).2) := by
  rw [list_eq_call hplan, interpret, run_bind]
  change (interpret Mongo.perform (onSuccess ((fetchPage plan).run server).1 _)).run _ = _
  rw [h]
  rfl

/-- Following an offset, a listing goes on from its rows to their number, which may be missing. -/
theorem run_list_of_fetchPage_ok (h : ((fetchPage plan).run server).1 = .ok rows)
    (hmode : plan.isCursorMode = false) :
    ((list settings filter audience).interpret Mongo.perform).run server =
      (.ok (Page.ofRows Event.position rows plan.limit (.offset plan.offset
        ((fetchCount plan).run ((fetchPage plan).run server).2).1)),
        ((fetchCount plan).run ((fetchPage plan).run server).2).2) := by
  rw [list_eq_call hplan, interpret, run_bind]
  change (interpret Mongo.perform (onSuccess ((fetchPage plan).run server).1 _)).run _ = _
  rw [h, onSuccess, paginate_offset hmode]
  rfl

/-- A listing reads its rows and at most their number. -/
theorem sendsOnly_list :
    SendsOnly (fun command ↦ IsReading eventsCollection plan.pipeline command ∨
        IsReading eventsCollection plan.countPipeline command)
      ((list settings filter audience).interpret Mongo.perform) := by
  rw [list_eq_call hplan, interpret]
  refine ((sendsOnly_fetchPage plan).mono fun _ ↦ .inl).bind fun outcome ↦ ?_
  cases outcome with
  | error e => exact sendsOnly_pure _
  | ok rows =>
    rw [onSuccess]
    cases hmode : plan.isCursorMode with
    | true =>
      rw [pageMode, hmode]
      exact sendsOnly_pure _
    | false =>
      rw [paginate_offset hmode, interpret]
      exact ((sendsOnly_fetchCount plan).mono fun _ ↦ .inr).bind fun total ↦ sendsOnly_pure _

/-- A listing whose page fails counts nothing. -/
theorem run_list_of_corrupt (h : ∀ events, ¬server.DeliversEvents events) :
    let listed := ((list settings filter audience).interpret Mongo.perform).run server
    (∃ detail, listed.1 = .error (.database detail)) ∧ ReadsPageOnly plan server listed.2 := by
  obtain ⟨detail, hpage⟩ := exists_fetchPage_eq_error h plan
  rw [run_list_of_fetchPage_error hplan hpage]
  exact ⟨⟨detail, rfl⟩, readsPageOnly_fetchPage plan server⟩

/-- A listing whose count is missing has its page nevertheless. -/
theorem run_list_of_uncounted (h : server.DeliversEvents rows) (hmode : plan.isCursorMode = false)
    (hcount : ∀ n, ¬((fetchPage plan).run server).2.Counts n) :
    ∃ page : Page Event,
      (((list settings filter audience).interpret Mongo.perform).run server).1 = .ok page ∧
        page.IsUncounted rows plan.limit := by
  rw [run_list_of_fetchPage_ok hplan (fetchPage_eq_ok_iff.2 h) hmode, fetchCount_eq_none hcount]
  refine ⟨_, rfl, Page.isUncounted_ofRows rows ?_ plan.offset⟩
  obtain ⟨-, -, hplanned⟩ := bind_eq_ok_iff.1 hplan
  exact Plan.one_le_limit_of_ofFilter hplanned

end Service

namespace Api

open Http

variable {app : Application} {stamp : Stamp} {request : Request} {plan : Plan} {server : Server}

/-- Whether a request is a listing that can be planned: one of a tenant or the public one. -/
inductive AsksFor (settings : PageSettings) (request : Request) (plan : Plan) : Prop
  | tenant {tenant : String} {filter : EventFilter}
      (htarget : Resource.ofTarget? request.target = some .events)
      (hmethod : request.method ∈ [Method.get, .head]) (htenant : NamesTenant request tenant)
      (hfilter : Input.filter settings request = .ok filter)
      (hplan : Plan.ofFilter { filter with tenantId := some tenant } .console settings = .ok plan)
  | everyone {filter : EventFilter}
      (htarget : Resource.ofTarget? request.target = some .publicEvents)
      (hmethod : request.method ∈ [Method.get, .head])
      (hfilter : Input.filter settings request = .ok filter)
      (hplan : Plan.ofFilter filter .everyone settings = .ok plan)

theorem NamesTenant.not_lacksTenant {tenant : String} (h : NamesTenant request tenant)
    (filter : EventFilter) (audience : Audience) :
    ¬{ filter with tenantId := some tenant }.LacksTenant audience := by
  obtain ⟨field, text, -, -, -, htrim, hne⟩ := h
  rintro ⟨-, hblank⟩
  have hnamed := (Text.trims_iff.2 htrim).isBlankText_eq_false hne
  exact Bool.false_ne_true (hnamed.symm.trans (hblank tenant rfl))

/-- Such a request runs the listing of its plan. -/
theorem AsksFor.exists_list (h : AsksFor app.settings request plan) (stamp : Stamp) :
    Resource.ofTarget? request.target ≠ some .readiness ∧
    ∃ filter audience,
      (do
        Service.checkTenant filter audience
        Plan.ofFilter filter audience app.settings) = .ok plan ∧
      handling app stamp request =
        ⟨true, none, operate 200 eventPageJson
          (pure (Service.list app.settings filter audience))⟩ := by
  cases h with
  | @tenant tenant filter htarget hmethod htenant hfilter hplan =>
    refine ⟨?_, { filter with tenantId := some tenant }, .console, ?_, ?_⟩
    · rw [htarget]
      decide
    · rw [Service.checkTenant_of_not_lacksTenant (htenant.not_lacksTenant filter .console)]
      exact hplan
    · have hmethods : Resource.events.methods.contains request.method = true := by
        revert hmethod
        cases request.method <;> simp [Resource.methods]
      have hnotPost : request.method ≠ .post := by
        revert hmethod
        cases request.method <;> simp
      rw [handling_of_mem_methods htarget (by decide) hmethods, perform, if_neg hnotPost,
        listEvents, Input.tenant_eq_ok_iff.2 htenant, hfilter]
      rfl
  | @everyone filter htarget hmethod hfilter hplan =>
    refine ⟨?_, filter, .everyone, ?_, ?_⟩
    · rw [htarget]
      decide
    · have hpublic : ¬filter.LacksTenant .everyone := fun hlacks ↦ Audience.noConfusion hlacks.1
      rw [Service.checkTenant_of_not_lacksTenant hpublic]
      exact hplan
    · have hmethods : Resource.publicEvents.methods.contains request.method = true := by
        revert hmethod
        cases request.method <;> simp [Resource.methods]
      rw [handling_of_mem_methods htarget (by decide) hmethods, perform, listPublicEvents, hfilter]
      rfl

theorem run_timed {α : Type} (m : Mongo.Exchange α) (server : Server) :
    (timed m).run server =
      (((m.run server).1, (m.run server).2.waited - server.waited), (m.run server).2) := rfl

/-- A request whose commands do not wait is answered with what its dialogue comes to. -/
theorem run_answer (hne : Resource.ofTarget? request.target ≠ some .readiness)
    (hlimit : app.requestLimit ≠ 0) {response : Response} {after : Server}
    (hrun : ((handling app stamp request).respond.interpret Mongo.perform).run server =
      (response, after)) (hwaited : after.waited = server.waited) :
    (answer app stamp request).run server =
      ((handling app stamp request).finish request response, after) := by
  have htime : ¬((handling app stamp request).isBounded && app.requestLimit = 0) = true := by
    simp [hlimit]
  have honTime : ((handling app stamp request).isBounded && app.requestLimit ≤ 0) = false := by
    simp [hlimit]
  rw [answer, if_neg hne]
  simp only [if_neg htime]
  rw [run_bind, run_timed, hrun, hwaited, Nat.sub_self]
  change ((handling app stamp request).finish request (if _ then _ else response), after) = _
  rw [honTime]
  rfl

/-- An operation is answered by its outcome. -/
theorem run_operate {α : Type} (status : Nat) (toJson : α → Json)
    (m : Interaction (Except EventError α)) (server : Server) :
    ((operate status toJson (pure m)).interpret Mongo.perform).run server =
      (outcomeResponse status toJson ((m.interpret Mongo.perform).run server).1,
        ((m.interpret Mongo.perform).run server).2) := by
  change ((Dialogue.bind m _).interpret Mongo.perform).run server = _
  rw [interpret_bind]
  rfl

/-- A listing that can be planned is answered with what it comes to over the database. -/
theorem AsksFor.exists_answer (hasks : AsksFor app.settings request plan) (stamp : Stamp)
    (hlimit : app.requestLimit ≠ 0) (hreach : server.isReachable = true) :
    ∃ filter audience,
      (do
        Service.checkTenant filter audience
        Plan.ofFilter filter audience app.settings) = .ok plan ∧
      let listed := ((Service.list app.settings filter audience).interpret Mongo.perform).run server
      (answer app stamp request).run server =
        ((handling app stamp request).finish request
          (outcomeResponse 200 eventPageJson listed.1), listed.2) := by
  obtain ⟨hne, filter, audience, hplan, hhandling⟩ := hasks.exists_list stamp
  refine ⟨filter, audience, hplan, run_answer hne hlimit ?_ ?_⟩
  · rw [hhandling, run_operate]
  · exact (Service.sendsOnly_list hplan server).waited hreach

/-- The rows of a page are all or nothing, and a count is never needed.  A page succeeds exactly if
all rows that the server delivers are events, and then consists of these in their order; otherwise
it fails with an error of the store.  A count is missing unless the server reports it.  A listing
whose page fails does so with this error, and the commands that are sent for it read the page and
count nothing.  A listing along an offset whose page succeeds has this page even when the count is
missing.  Requests for such listings are answered with the status 500 and with the page. -/
theorem page_allOrNothing (plan : Plan) (server : Server) :
    (∀ events, ((fetchPage plan).run server).1 = .ok events ↔ server.DeliversEvents events) ∧
    ((∀ events, ¬server.DeliversEvents events) →
      ∃ detail, ((fetchPage plan).run server).1 = .error (.database detail)) ∧
    (∀ n, (((fetchCount plan).run server).1 : Option Nat) = some n ↔ server.Counts n) ∧
    (∀ settings filter audience,
      (do
        Service.checkTenant filter audience
        Plan.ofFilter filter audience settings) = .ok plan →
      let listed := ((Service.list settings filter audience).interpret Mongo.perform).run server
      ((∀ events, ¬server.DeliversEvents events) →
        (∃ detail, listed.1 = .error (.database detail)) ∧ ReadsPageOnly plan server listed.2) ∧
      ∀ events, server.DeliversEvents events → plan.isCursorMode = false →
        (∀ n, ¬((fetchPage plan).run server).2.Counts n) →
          ∃ page : Page Event, listed.1 = .ok page ∧ page.IsUncounted events plan.limit) ∧
    ∀ app stamp request, AsksFor app.settings request plan → app.requestLimit ≠ 0 →
      server.isReachable = true →
        let answered := (answer app stamp request).run server
        ((∀ events, ¬server.DeliversEvents events) →
          answered.1.status = 500 ∧ ReadsPageOnly plan server answered.2) ∧
        ∀ events, server.DeliversEvents events → plan.isCursorMode = false →
          (∀ n, ¬((fetchPage plan).run server).2.Counts n) →
            answered.1.status = 200 ∧ ∃ page : Page Event, page.IsUncounted events plan.limit ∧
              (request.method ≠ .head → answered.1.body = .json (eventPageJson page)) := by
  refine ⟨fun _ ↦ fetchPage_eq_ok_iff, fun hfails ↦ exists_fetchPage_eq_error hfails plan,
    fun _ ↦ fetchCount_eq_some_iff, ?_, ?_⟩
  · intro settings filter audience hplan
    exact ⟨Service.run_list_of_corrupt hplan, fun events ↦ Service.run_list_of_uncounted hplan⟩
  · intro app stamp request hasks hlimit hreach
    obtain ⟨filter, audience, hplan, hanswer⟩ := hasks.exists_answer stamp hlimit hreach
    simp only [hanswer]
    constructor
    · intro hfails
      obtain ⟨⟨detail, hlisted⟩, hcommands⟩ := Service.run_list_of_corrupt hplan hfails
      refine ⟨?_, hcommands⟩
      rw [hlisted]
      exact Handling.status_finish _ _ _
    · intro events hdelivers hmode huncounted
      obtain ⟨page, hlisted, hpage⟩ :=
        Service.run_list_of_uncounted hplan hdelivers hmode huncounted
      rw [hlisted]
      exact ⟨Handling.status_finish _ _ _, page, hpage, Handling.body_finish _ _⟩

/-- An event that is listed for everyone. -/
def openAir : Event :=
  { (default : Event) with title := "Open air", status := .published, visibility := .everyone }

theorem ofDocument?_openAir : Event.ofDocument? (openAir.row []) = some openAir := by
  have hstored : openAir.stored [] = openAir := by decide
  rw [Event.ofDocument?_row openAir (List.forall_mem_nil _), hstored]

/-- A row without fields behind an event fails the public listing, a count that is refused does not
and leaves the event on its page. -/
theorem page_allOrNothing_public :
    let plan := Plan.ofCursor EventFilter.everything .everyone none none
    let application : Application := ⟨.standard, 1⟩
    let corrupt := Server.ofReplies [.batch [openAir.row []] (some 77), .batch [[]] none]
    let uncounted := Server.ofReplies [.batch [openAir.row []] none, .failed (.refused 1 "")]
    AsksFor .standard (publicListingOf "") plan ∧
      (∃ detail, (((Service.list .standard .everything .everyone).interpret
        Mongo.perform).run corrupt).1 = .error (.database detail)) ∧
      ((answer application ⟨.epoch, .nil⟩ (publicListingOf "")).run corrupt).1.status = 500 ∧
      ∃ page : Page Event, page.IsUncounted [openAir] 20 ∧
        ((answer application ⟨.epoch, .nil⟩ (publicListingOf "")).run uncounted).1.body =
          .json (eventPageJson page) := by
  intro plan application corrupt uncounted
  have hasks : AsksFor PageSettings.standard (publicListingOf "") plan := by
    have hfilter : Input.filter PageSettings.standard (publicListingOf "") =
        .ok EventFilter.everything := rfl
    exact .everyone (ofTarget?_publicListingOf _) List.mem_cons_self hfilter rfl
  obtain ⟨-, -, -, hlisted, hfailed⟩ := page_allOrNothing plan corrupt
  obtain ⟨huncounted, -, -, -, hanswered⟩ := page_allOrNothing plan uncounted
  have hfails : ∀ events, ¬corrupt.DeliversEvents events := by
    rintro events ⟨rows, ⟨-, hrows⟩, hevents⟩
    cases hrows with
    | more hlast =>
      cases hlast
      cases hevents with
      | cons _ hlater =>
        cases hlater with
        | cons hrow _ => cases hrow
  have hdelivers : uncounted.DeliversEvents [openAir] :=
    ⟨[openAir.row []], ⟨rfl, .last _ _⟩, .cons ofDocument?_openAir .nil⟩
  obtain ⟨-, -, hcount, -, -⟩ := page_allOrNothing plan ((fetchPage plan).run uncounted).2
  have hmissing : ∀ n, ¬((fetchPage plan).run uncounted).2.Counts n := by
    intro n hn
    cases (hcount n).2 hn
  obtain ⟨hdetail, -⟩ := (hlisted .standard .everything .everyone rfl).1 hfails
  obtain ⟨hstatus, -⟩ :=
    (hfailed application ⟨.epoch, .nil⟩ _ hasks (by decide) rfl).1 hfails
  obtain ⟨-, page, hpage, hbody⟩ :=
    (hanswered application ⟨.epoch, .nil⟩ _ hasks (by decide) rfl).2 _ hdelivers rfl hmissing
  exact ⟨hasks, hdetail, hstatus, page, hpage, hbody (by decide)⟩

end Api

end EventCatalog
