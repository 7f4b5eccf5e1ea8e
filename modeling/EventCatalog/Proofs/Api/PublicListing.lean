import EventCatalog.Proofs.Api.Operation
import EventCatalog.Proofs.Plan.Requirement

/-!
# The public listing

What the public listing asks of the store starts by requiring that events are published and that
everyone may see them.  Whatever else its parameters select, no other event is delivered or counted,
and a status or a visibility among the parameters changes nothing.
-/

namespace EventCatalog.Api

open Http Mongo Dialogue

/-- Whether a pipeline starts by requiring published events that everyone may see. -/
def RequiresPublic (pipeline : List Document) : Prop :=
  StartsRequiring pipeline "status" "published" ∧ StartsRequiring pipeline "visibility" "public"

/-- Whether a row is that of a published event that everyone may see. -/
def IsPublicRow (row : Document) : Prop :=
  row.has "status" (.string "published") = true ∧ row.has "visibility" (.string "public") = true

/-- Whether a call is for rows or for a count, and in every database for those of published events
that everyone may see. -/
def IsPublicCall : StoreCall → Prop
  | .fetchPage plan =>
    RequiresPublic plan.pipeline ∧ ∀ db : Database,
      ∃ rows, db.aggregate eventsCollection plan.pipeline = some rows ∧
        ∀ row ∈ rows, IsPublicRow row
  | .fetchCount plan =>
    RequiresPublic plan.countPipeline ∧ ∀ db : Database,
      ∃ stages rows, plan.countPipeline = stages ++ [[("$count", .string "total")]] ∧
        db.aggregate eventsCollection stages = some rows ∧
        db.aggregate eventsCollection plan.countPipeline = some (Plan.countRows rows.length) ∧
        ∀ row ∈ rows, IsPublicRow row
  | _ => False

variable {app : Application} {settings : PageSettings} {stamp : Stamp} {request : Request}
  {filter : EventFilter} {plan : Plan} {history : History StoreCall.Answer} {asked : StoreCall}

theorem requiresPublic_ofFilter (hplan : Plan.ofFilter filter .everyone settings = .ok plan) :
    RequiresPublic plan.pipeline ∧ RequiresPublic plan.countPipeline := by
  have hstatus := Plan.startsRequiring_ofFilter hplan fun cursor ↦ Selection.requires_status
    (show (Selection.ofFilter filter .everyone cursor _).status = some .published from rfl)
  have hvisibility := Plan.startsRequiring_ofFilter hplan fun cursor ↦ Selection.requires_visibility
    (show (Selection.ofFilter filter .everyone cursor _).visibility = some .everyone from rfl)
  exact ⟨⟨hstatus.1, hvisibility.1⟩, ⟨hstatus.2, hvisibility.2⟩⟩

theorem isField_status : IsField "status" := by
  refine ⟨?_, ?_, ?_⟩ <;> decide +kernel

theorem isField_visibility : IsField "visibility" := by
  refine ⟨?_, ?_, ?_⟩ <;> decide +kernel

/-- Rows that have what a pipeline requires in front are public. -/
theorem isPublicRow_of_requiresPublic {pipeline rows : List Document}
    (hrequires : RequiresPublic pipeline)
    (hhas : ∀ name text, IsField name → StartsRequiring pipeline name text →
      ∀ row ∈ rows, row.has name (.string text) = true) :
    ∀ row ∈ rows, IsPublicRow row := by
  intro row hrow
  constructor
  · exact hhas _ _ isField_status hrequires.1 row hrow
  · exact hhas _ _ isField_visibility hrequires.2 row hrow

/-- The calls of a listing for everyone are for public events. -/
theorem isPublicCall_of_ofFilter (hplan : Plan.ofFilter filter .everyone settings = .ok plan) :
    IsPublicCall (.fetchPage plan) ∧ IsPublicCall (.fetchCount plan) := by
  obtain ⟨hpage, hcount⟩ := requiresPublic_ofFilter hplan
  refine ⟨⟨hpage, fun db ↦ ?_⟩, ⟨hcount, fun db ↦ ?_⟩⟩
  · obtain ⟨rows, hrows, hhas⟩ := Plan.exists_delivered_ofFilter hplan db
    exact ⟨rows, hrows, isPublicRow_of_requiresPublic hpage hhas⟩
  · obtain ⟨stages, rows, hpipeline, hrows, hcounted, hhas⟩ := Plan.exists_counted_ofFilter hplan db
    exact ⟨stages, rows, hpipeline, hrows, hcounted, isPublicRow_of_requiresPublic hcount hhas⟩

theorem isPublicCall_of_asks (htarget : Resource.ofTarget? request.target = some .publicEvents)
    (h : (handling app stamp request).respond.Asks history asked) : IsPublicCall asked := by
  obtain ⟨filter, -, hlist⟩ := asks_listPublicEvents.1 (asks_perform htarget h)
  obtain ⟨plan, -, hplan, hcall⟩ := Service.asks_list.1 hlist
  obtain ⟨hpage, hcount⟩ := isPublicCall_of_ofFilter hplan
  rcases hcall with ⟨-, rfl⟩ | ⟨rows, -, -, rfl⟩
  · exact hpage
  · exact hcount

/-- A listing that can be planned asks for its page and, following an offset, for its count. -/
theorem asks_of_ofFilter (htarget : Resource.ofTarget? request.target = some .publicEvents)
    (hget : request.method = .get) (hfilter : Input.filter app.settings request = .ok filter)
    (hplan : Plan.ofFilter filter .everyone app.settings = .ok plan) :
    (handling app stamp request).respond.Asks [] (.fetchPage plan) ∧
      (plan.isCursorMode = false → ∀ rows : List Event,
        (handling app stamp request).respond.Asks
          [⟨.fetchPage plan, (.ok rows : Except EventError (List Event))⟩] (.fetchCount plan)) := by
  have hmethod : Resource.publicEvents.methods.contains request.method = true := by
    rw [hget]
    rfl
  have hasks : ∀ {history asked}, (Service.list app.settings filter .everyone).Asks history asked →
      (handling app stamp request).respond.Asks history asked := by
    intro history asked hlist
    apply asks_handling.2
    exact ⟨.publicEvents, htarget, hmethod, asks_listPublicEvents.2 ⟨filter, hfilter, hlist⟩⟩
  constructor
  · apply hasks
    exact Service.asks_list.2 ⟨plan, rfl, hplan, .inl ⟨rfl, rfl⟩⟩
  · intro hoffset rows
    apply hasks
    exact Service.asks_list.2 ⟨plan, rfl, hplan, .inr ⟨rows, rfl, hoffset, rfl⟩⟩

theorem listPublicEvents_congr {r₁ r₂ : Request} {q : EventQuery}
    {status : Option EventStatus} {visibility : Option EventVisibility}
    (h₁ : EventQuery.ofQueryString r₁.target.queryBytes = .ok q)
    (h₂ : EventQuery.ofQueryString r₂.target.queryBytes = .ok { q with status, visibility }) :
    listPublicEvents settings r₁ = listPublicEvents settings r₂ := by
  have hrest : ({ q with status, visibility } : EventQuery).unscoped = q.unscoped := rfl
  rw [listPublicEvents, listPublicEvents, Input.filter_eq_map_unscoped h₁,
    Input.filter_eq_map_unscoped h₂, hrest]
  simp only [bind_map_left]
  -- The selection for everyone reads neither the status nor the visibility of a filter.
  rfl

/-- The public listing never exposes other events.  Whatever the store answers, each call requires
in front that events are published and visible to everyone, so that no other row is delivered or
counted; the calls that an exchange records are among these.  A query that can be planned does ask
for its page and its count.  Two listings whose parameters differ in status and visibility alone
make the same calls and get the same answers. -/
theorem publicListing_isolated (app : Application) (stamp : Stamp) (request : Request)
    (htarget : Resource.ofTarget? request.target = some .publicEvents) :
    (∀ history asked, (handling app stamp request).respond.Asks history asked →
      IsPublicCall asked) ∧
    (∀ script, ∀ asked ∈ (exchange app stamp request script).calls, IsPublicCall asked) ∧
    (∀ filter plan, request.method = .get → Input.filter app.settings request = .ok filter →
      Plan.ofFilter filter .everyone app.settings = .ok plan →
        (handling app stamp request).respond.Asks [] (.fetchPage plan) ∧
          (plan.isCursorMode = false → ∀ rows : List Event,
            (handling app stamp request).respond.Asks
              [⟨.fetchPage plan, (.ok rows : Except EventError (List Event))⟩]
              (.fetchCount plan))) ∧
    ∀ otherStamp other q status visibility, AgreeBesideQuery request other →
      EventQuery.ofQueryString request.target.queryBytes = .ok q →
      EventQuery.ofQueryString other.target.queryBytes = .ok { q with status, visibility } →
        handling app stamp request = handling app otherStamp other ∧
          ∀ script, exchange app stamp request script = exchange app otherStamp other script := by
  refine ⟨fun history asked ↦ isPublicCall_of_asks htarget, ?_, ?_, ?_⟩
  · intro script asked hasked
    obtain ⟨front, back, hcalls⟩ := List.append_of_mem hasked
    exact isPublicCall_of_asks htarget (asks_of_exchange hcalls)
  · intro filter plan hget hfilter hplan
    exact asks_of_ofFilter htarget hget hfilter hplan
  · intro otherStamp other q status visibility hagree hquery hother
    have hhandling : handling app stamp request = handling app otherStamp other := by
      apply hagree.handling htarget (by decide)
      exact listPublicEvents_congr hquery hother
    exact ⟨hhandling, hagree.exchange hhandling⟩

/-- A public listing with parameters. -/
def publicListingOf (query : String) : Request where
  method := .get
  target := ⟨"/api/public/events", query⟩
  headers := []
  body := []

theorem ofTarget?_publicListingOf (query : String) :
    Resource.ofTarget? (publicListingOf query).target = some .publicEvents := by
  change Resource.ofSegments? (Text.splitText '/' "/api/public/events") = some .publicEvents
  decide +kernel

theorem ofQueryString_publicListingOf :
    EventQuery.ofQueryString (publicListingOf "status=draft").target.queryBytes =
        .ok { (default : EventQuery) with status := some .draft } ∧
      EventQuery.ofQueryString (publicListingOf "visibility=private").target.queryBytes =
        .ok { (default : EventQuery) with visibility := some .tenantOnly } :=
  ⟨rfl, rfl⟩

theorem publicListing_isolated_draft :
    ∃ plan, (exchange ⟨.standard, 1⟩ ⟨.epoch, .nil⟩ (publicListingOf "status=draft") []).calls =
        [.fetchPage plan, .fetchCount plan] ∧
      RequiresPublic plan.pipeline ∧ RequiresPublic plan.countPipeline ∧
      handling ⟨.standard, 1⟩ ⟨.epoch, .nil⟩ (publicListingOf "status=draft") =
        handling ⟨.standard, 1⟩ ⟨.epoch, .nil⟩ (publicListingOf "visibility=private") := by
  obtain ⟨hquery, hother⟩ := ofQueryString_publicListingOf
  have hperform : perform ⟨.standard, 1⟩ ⟨.epoch, .nil⟩ (publicListingOf "status=draft")
      .publicEvents = operate 200 eventPageJson
        (pure (Service.list .standard EventFilter.everything .everyone)) := by
    rw [perform, listPublicEvents, Input.filter_eq_map_unscoped hquery]
    rfl
  have hcalls : (exchange ⟨.standard, 1⟩ ⟨.epoch, .nil⟩ (publicListingOf "status=draft") []).calls =
      [.fetchPage (.ofCursor EventFilter.everything .everyone none none),
        .fetchCount (.ofCursor EventFilter.everything .everyone none none)] := by
    rw [exchange, handling_of_ofTarget? (ofTarget?_publicListingOf _) (by decide), hperform]
    rfl
  obtain ⟨-, hpublic, -, hsame⟩ := publicListing_isolated ⟨.standard, 1⟩ ⟨.epoch, .nil⟩
    (publicListingOf "status=draft") (ofTarget?_publicListingOf _)
  have hall := hpublic []
  rw [hcalls] at hall
  have hpage := hall _ (List.mem_cons_self ..)
  have hcount := hall _ (List.mem_cons_of_mem _ (List.mem_singleton_self _))
  have halike := (hsame ⟨.epoch, .nil⟩ (publicListingOf "visibility=private") _ none
    (some .tenantOnly) ⟨rfl, rfl, rfl⟩ hquery hother).1
  exact ⟨_, hcalls, hpage.1, hcount.1, halike⟩

end EventCatalog.Api
