import EventCatalog.Api.Input
import EventCatalog.Proofs.Bson.Document
import EventCatalog.Proofs.Plan.Compilation
import EventCatalog.Proofs.Query.Parameters
import EventCatalog.Proofs.Text.Form

/-!
# Tokens in query strings

A token is made of characters that stand for themselves in a query string and that are not blank, so
a client may put it there as it got it.  From the query string it goes unchanged through the query
and the filter into the plan, which then starts behind the row of the token's cursor.  The plan has
that cursor as the token writes it, so not with a leap second within a minute.
-/

namespace EventCatalog

namespace Text.Base64

theorem char_isUnescaped :
    ∀ n < 64, (char n).toNat < 128 ∧ char n ≠ '+' ∧ char n ≠ '%' := by
  decide

theorem isUnescaped_encode (bytes : List UInt8) : IsUnescaped (encode bytes) :=
  forall_mem_encode (by decide) char_isUnescaped bytes

theorem isBlank_char : ∀ n < 64, isBlank (char n) = false := by
  decide

theorem isBlank_of_mem_encode (bytes : List UInt8) : ∀ c ∈ encode bytes, isBlank c = false :=
  forall_mem_encode (by decide) isBlank_char bytes

end Text.Base64

namespace Cursor

/-- The characters of a token. -/
def tokenChars (c : Cursor) : List Char :=
  Text.Base64.encode (Text.toBytes (Json.print c.payloadJson))

theorem ofList_tokenChars (c : Cursor) : String.ofList c.tokenChars = c.encode := rfl

/-- A token is not blank. -/
theorem isBlankText_encode (c : Cursor) : Text.isBlankText c.encode = false := by
  have hne : c.tokenChars ≠ [] := by
    intro hempty
    apply c.encode_ne_empty
    rw [← ofList_tokenChars, hempty, String.ofList_nil]
  obtain ⟨first, rest, hchars⟩ := List.exists_cons_of_ne_nil hne
  have hfirst : Text.isBlank first = false := by
    have hmem : first ∈ c.tokenChars := hchars ▸ List.mem_cons_self
    exact Text.Base64.isBlank_of_mem_encode _ first hmem
  rw [Text.isBlankText, ← ofList_tokenChars, String.toList_ofList, hchars, List.all_cons, hfirst,
    Bool.false_and]

/-- The name of the parameter for tokens, as characters. -/
def parameterName : List Char := "page_token".toList

theorem isUnescaped_parameterName : Text.IsUnescaped parameterName := by
  decide

/-- The part of a query string that asks for the page behind a cursor. -/
def parameter (c : Cursor) : String := "page_token=" ++ c.encode

theorem toBytes_parameter (c : Cursor) :
    Text.toBytes c.parameter = (parameterName ++ '=' :: c.tokenChars).map Text.asciiByte := by
  have hchars : c.parameter = String.ofList (parameterName ++ '=' :: c.tokenChars) := by
    have hname : "page_token=" = String.ofList (parameterName ++ ['=']) := by
      decide
    rw [parameter, hname, ← ofList_tokenChars, ← String.ofList_append, List.append_assoc,
      List.singleton_append]
  have hascii : Text.IsAscii (parameterName ++ '=' :: c.tokenChars) := by
    intro d hd
    obtain hd | hd := List.mem_append.1 hd
    · exact isUnescaped_parameterName.isAscii d hd
    · obtain rfl | hd := List.mem_cons.1 hd
      · decide
      · exact Text.Base64.isAscii_encode _ d hd
  rw [hchars, Text.toBytes_ofList hascii]

/-- A token in a query string is read as it was made. -/
theorem mem_formPairs {c : Cursor} {bytes : List UInt8}
    (h : Text.toBytes c.parameter ∈ bytes.splitOn '&'.toUInt8) :
    ("page_token", c.encode) ∈ Text.formPairs bytes := by
  have hname : String.ofList parameterName = "page_token" := String.ofList_toList
  rw [toBytes_parameter] at h
  rw [← hname, ← ofList_tokenChars]
  exact Text.mem_formPairs isUnescaped_parameterName (by decide)
    (Text.Base64.isUnescaped_encode _) h

end Cursor

namespace Selection

theorem get?_condition_of_ne {α : Type} {name other : String} {value : Option α}
    {render : α → Bson} (h : name ≠ other) :
    Document.get? (condition name value render) other = none := by
  cases value with
  | none => rfl
  | some a => rw [condition, Document.get?_cons, if_neg h, Document.get?_nil]

/-- The conditions on the identifier are one member of a selection. -/
theorem get?_id_toDocument (s : Selection) :
    s.toDocument.get? "_id" =
      if s.idConditions.isEmpty then none else some (.document s.idConditions) := by
  have hexists : Document.get? [("location.coordinates",
      .document [("$exists", true), ("$type", "array")])] "_id" = none := by
    rw [Document.get?_cons, if_neg (by decide), Document.get?_nil]
  simp only [toDocument, Document.get?_append,
    get?_condition_of_ne (show "tenant_id" ≠ "_id" by decide),
    get?_condition_of_ne (show "status" ≠ "_id" by decide),
    get?_condition_of_ne (show "visibility" ≠ "_id" by decide),
    get?_condition_of_ne (show "$or" ≠ "_id" by decide),
    get?_condition_of_ne (show "location" ≠ "_id" by decide), hexists, Option.none_or,
    Option.or_none]
  split
  · rfl
  · rfl

end Selection

namespace Plan

/-- Whether a plan starts behind the row of a cursor, in a direction. -/
structure IsBehind (plan : Plan) (c : Cursor) (order : SortOrder) : Prop where
  isCursorMode : plan.isCursorMode = true
  cursor : plan.cursor = some c
  offset : plan.offset = 0
  stages : ∀ count, Stage.skip count ∉ plan.stages
  boundary : ∃ (conditions : Document) (rest : List Document),
    plan.pipeline = [("$match", .document conditions)] :: rest ∧
      conditions.get? "_id" =
        c.lastId.map fun id ↦ .single order.boundaryOperator (.ofUuid id)

/-- The plan of a cursor starts behind its row. -/
theorem isBehind_ofCursor {f : EventFilter} (hid : f.eventId = none) (audience : Audience)
    (configuredRadius : Option Binary64) (c : Cursor) :
    (ofCursor f audience configuredRadius (some c)).IsBehind c f.sortOrder where
  isCursorMode := rfl
  cursor := rfl
  offset := rfl
  stages count := by
    cases hwindow : f.sessionWindow <;> simp [ofCursor, hwindow]
  boundary := by
    refine ⟨_, _, rfl, ?_⟩
    rw [Selection.get?_id_toDocument, Selection.idConditions]
    cases hlast : c.lastId with
    | none => simp [Selection.ofFilter, Selection.condition, hid, hlast]
    | some id => simp [Selection.ofFilter, Selection.condition, hid, hlast, Bson.single]

end Plan

namespace EventQuery

/-- A token survives the way through a client that does not escape it.  A query string that holds
the token of a cursor as its only one, no page number and otherwise valid parameters is accepted,
the token reaches the filter as it was made, and the plan starts behind the cursor's row in the
requested direction.  Its cursor is the one of the token if a leap second in that one ends its
minute; if not, its timestamp is in the second after. -/
theorem token_survives (c : Cursor) (settings : PageSettings) (audience : Audience)
    (bytes : List UInt8) (q : EventQuery) (f : EventFilter)
    (htoken : Text.toBytes ("page_token=" ++ c.encode) ∈ bytes.splitOn '&'.toUInt8)
    (honly : ((Text.formPairs bytes).filter (·.1 = "page_token")).length = 1)
    (hpage : ∀ pair ∈ Text.formPairs bytes, pair.1 ≠ "page")
    (hquery : ofPairs [] default ((Text.formPairs bytes).filter (·.1 ≠ "page_token")) = some q)
    (hfilter : q.toFilter settings = .ok f) :
    ofQueryString bytes = .ok { q with pageToken := some c.encode } ∧
    { q with pageToken := some c.encode }.toFilter settings =
      .ok { f with pageToken := some c.encode } ∧
    (∀ request : Http.Request, request.target.queryBytes = bytes →
      Api.Input.filter settings request = .ok { f with pageToken := some c.encode }) ∧
    ∃ plan, Plan.ofFilter { f with pageToken := some c.encode } audience settings = .ok plan ∧
      plan.IsBehind ⟨c.lastId, c.timestamp.asPrinted⟩ (q.sortOrder.getD .descending) ∧
        (plan.cursor = some c ↔ c.timestamp.LeapsAtMinuteEnd) := by
  have hpairs : ofPairs [] default (Text.formPairs bytes) = some (q.follow c.encode) := by
    rw [ofPairs_of_only (Cursor.mem_formPairs htoken) honly, hquery]
    rfl
  have hstring : ofQueryString bytes = .ok (q.follow c.encode) := by
    rw [ofQueryString, hpairs]
  have hunpaged : q.page = none := by
    refine page_of_ofPairs (fun pair hpair ↦ ?_) hquery
    exact hpage pair (List.mem_of_mem_filter hpair)
  have hfollowed : (q.follow c.encode).toFilter settings =
      .ok { f with pageToken := some c.encode } :=
    toFilter_follow hfilter hunpaged c.isBlankText_encode
  have hrequest : ∀ request : Http.Request, request.target.queryBytes = bytes →
      Api.Input.filter settings request = .ok { f with pageToken := some c.encode } := by
    rintro request rfl
    rw [Api.Input.filter, hstring, Except.bind, hfollowed]
    rfl
  obtain ⟨hid, horder⟩ : f.eventId = none ∧ f.sortOrder = q.sortOrder.getD .descending := by
    obtain ⟨circle, window, -, -, -, rfl⟩ := exists_of_toFilter hfilter
    exact ⟨rfl, rfl⟩
  have hplan : Plan.ofFilter { f with pageToken := some c.encode } audience settings =
      .ok (.ofCursor { f with pageToken := some c.encode } audience settings.defaultRadius
        (some c.asPrinted)) :=
    Plan.ofFilter_eq _ audience settings (Plan.cursorOf_of_encode _ rfl)
  refine ⟨hstring, hfollowed, hrequest, _, hplan, ?_, ?_⟩
  · rw [← horder]
    exact Plan.isBehind_ofCursor hid audience settings.defaultRadius c.asPrinted
  · rw [← Cursor.asPrinted_eq_self_iff]
    exact Option.some_inj

/-- The position of the event with the number 1. -/
def first : Cursor := ⟨some ⟨1⟩, .epoch⟩

/-- A query string with the token of this position, which ends in filling. -/
def behindFirst : String :=
  "limit=5&page_token=eyJsYXN0X2lkIjoiMDAwMDAwMDAtMDAwMC0wMDAwLTAwMDAtMDAwMDAwMDAwMDAxIiwi" ++
    "dGltZXN0YW1wIjoiMTk3MC0wMS0wMVQwMDowMDowMFoifQ==&sort_order=asc"

theorem token_survives_first :
    ∃ f plan, ofQueryString (Text.toBytes behindFirst) =
        .ok { (default : EventQuery) with
          limit := some 5
          sortOrder := some .ascending
          pageToken := some first.encode } ∧
      f.pageToken = some first.encode ∧ Plan.ofFilter f .everyone .standard = .ok plan ∧
      plan.IsBehind first .ascending := by
  have htoken : Text.toBytes ("page_token=" ++ first.encode) ∈
      (Text.toBytes behindFirst).splitOn '&'.toUInt8 := by
    decide +kernel
  have hpairs : Text.formPairs (Text.toBytes behindFirst) =
      [("limit", "5"), ("page_token", "eyJsYXN0X2lkIjoiMDAwMDAwMDAtMDAwMC0wMDAwLTAwMDAtMDAwMDAw" ++
        "MDAwMDAxIiwidGltZXN0YW1wIjoiMTk3MC0wMS0wMVQwMDowMDowMFoifQ=="),
        ("sort_order", "asc")] := by
    decide +kernel
  have honly : ((Text.formPairs (Text.toBytes behindFirst)).filter
      (·.1 = "page_token")).length = 1 := by
    rw [hpairs]
    decide
  have hpage : ∀ pair ∈ Text.formPairs (Text.toBytes behindFirst), pair.1 ≠ "page" := by
    rw [hpairs]
    decide
  have hquery : ofPairs [] default
      ((Text.formPairs (Text.toBytes behindFirst)).filter (·.1 ≠ "page_token")) =
        some { (default : EventQuery) with limit := some 5, sortOrder := some .ascending } := by
    rw [hpairs]
    decide
  obtain ⟨hstring, -, -, plan, hplan, hbehind, -⟩ := token_survives first .standard .everyone
    (Text.toBytes behindFirst) _ { EventFilter.everything with limit := 5, sortOrder := .ascending }
    htoken honly hpage hquery rfl
  exact ⟨_, plan, hstring, rfl, hplan, hbehind⟩

/-- A query string with the token of half a leap second behind half a minute. -/
def behindWithinMinute : String :=
  "page_token=eyJsYXN0X2lkIjoiMDAwMDAwMDAtMDAwMC0wMDAwLTAwMDAtMDAwMDAwMDAwMDAwIiwidGltZXN0YW1w" ++
    "IjoiMTk3MC0wMS0wMVQwMDowMDozMS41MDBaIn0="

/-- The plan for this query string does not have the cursor that its token was made of. -/
theorem cursor_behindWithinMinute :
    behindWithinMinute = "page_token=" ++ Cursor.withinMinute.encode ∧
      ∃ q f plan, ofQueryString (Text.toBytes behindWithinMinute) = .ok q ∧
        q.toFilter .standard = .ok f ∧ Plan.ofFilter f .everyone .standard = .ok plan ∧
          plan.cursor ≠ some Cursor.withinMinute := by
  have hparameter : behindWithinMinute = "page_token=" ++ Cursor.withinMinute.encode := by
    decide +kernel
  have hpairs : Text.formPairs (Text.toBytes behindWithinMinute) =
      [("page_token", Cursor.withinMinute.encode)] := by
    decide +kernel
  have hquery : ofQueryString (Text.toBytes behindWithinMinute) =
      .ok ((default : EventQuery).follow Cursor.withinMinute.encode) := by
    rw [ofQueryString, hpairs]
    rfl
  have hfilter : ((default : EventQuery).follow Cursor.withinMinute.encode).toFilter .standard =
      .ok { EventFilter.everything with pageToken := some Cursor.withinMinute.encode } :=
    toFilter_follow rfl rfl Cursor.withinMinute.isBlankText_encode
  refine ⟨hparameter, _, _, _, hquery, hfilter,
    Plan.ofFilter_eq _ _ _ (Plan.cursorOf_of_encode _ rfl), ?_⟩
  decide

end EventQuery

end EventCatalog
