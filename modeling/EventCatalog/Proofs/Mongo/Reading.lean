import EventCatalog.Mongo.Repository
import EventCatalog.Proofs.Except
import Mathlib.Data.List.Forall2

/-!
# Reading from a server

What comes of the rows that a server delivers, in however many batches.  A page is read to its end
and all of its rows have to be events: one that is not fails the page, and so does a batch that
fails.  A count is read up to its first row, whose total is taken when it is an integer that is not
negative; whatever else goes wrong leaves the count out.
-/

namespace EventCatalog

theorem Bson.decodeUnsigned_eq_some_iff {bound n : Nat} {v : Bson} :
    decodeUnsigned bound v = some n ↔ n ≤ bound ∧ (v = .int32 n ∨ v = .int64 n) := by
  have hrange : ∀ m : Int, (if 0 ≤ m ∧ m ≤ bound then some m.toNat else none) = some n ↔
      n ≤ bound ∧ m = n := by
    intro m
    split <;> simp <;> omega
  cases v with
  | int32 m => simpa [decodeUnsigned, decodeInteger] using hrange m
  | int64 m => simpa [decodeUnsigned, decodeInteger] using hrange m
  | _ => simp [decodeUnsigned, decodeInteger]

namespace Mongo

/-- The replies that a reading gets to see.  A first refusal that is worth a second attempt is
passed over. -/
def afterRetry : List Reply → List Reply
  | .failed fault :: later => if fault.isRetryable then later else .failed fault :: later
  | replies => replies

/-- Whether replies deliver these rows: the batches up to the one that closes the cursor hold them
one after another.  Where no reply is left, the batch is empty and closes the cursor. -/
inductive Delivers : List Reply → List Document → Prop
  | unscripted : Delivers [] []
  | last (rows : List Document) (later : List Reply) : Delivers (.batch rows none :: later) rows
  | more {rows rest : List Document} {cursor : Int} {later : List Reply}
      (h : Delivers later rest) : Delivers (.batch rows (some cursor) :: later) (rows ++ rest)

/-- Whether this is the first row that replies deliver, or none when they deliver no row. -/
inductive StartsWith : List Reply → Option Document → Prop
  | unscripted : StartsWith [] none
  | row (row : Document) (rows : List Document) (cursor : Option Int) (later : List Reply) :
      StartsWith (.batch (row :: rows) cursor :: later) (some row)
  | closed (later : List Reply) : StartsWith (.batch [] none :: later) none
  | more {cursor : Int} {later : List Reply} {first : Option Document}
      (h : StartsWith later first) : StartsWith (.batch [] (some cursor) :: later) first

/-- Whether a row holds a total. -/
def HoldsTotal (row : Document) (n : Nat) : Prop :=
  n ≤ Text.max64 ∧ (row.get? "total" = some (.int32 n) ∨ row.get? "total" = some (.int64 n))

namespace Server

/-- Whether a server delivers these rows to a reading. -/
def Delivers (server : Server) (rows : List Document) : Prop :=
  server.isReachable = true ∧ Mongo.Delivers (afterRetry server.replies) rows

/-- Whether the rows that a server delivers are the documents of these events, one by one. -/
def DeliversEvents (server : Server) (events : List Event) : Prop :=
  ∃ rows, server.Delivers rows ∧
    List.Forall₂ (fun row e ↦ Event.ofDocument? row = some e) rows events

/-- Whether a server reports a number to a count.  No row at all reports zero. -/
def Counts (server : Server) (n : Nat) : Prop :=
  server.isReachable = true ∧ ∃ first, StartsWith (afterRetry server.replies) first ∧
    first.elim (n = 0) (HoldsTotal · n)

end Server

section Gathering

variable {enough : List Document → Bool} {rows front : List Document} {replies : List Reply}
  {server : Server} {collection : String} {pipeline : List Document}

/-- What reading on from some rows comes to, until there are enough of them. -/
def gather (enough : List Document → Bool) (front : List Document) :
    List Reply → Except Fault (List Document)
  | [] => .ok front
  | reply :: later =>
    match reply.rows with
    | .error fault => .error fault
    | .ok (more, none) => .ok (front ++ more)
    | .ok (more, some _) =>
      if enough (front ++ more) then .ok (front ++ more) else gather enough (front ++ more) later

/-- A server that was sent a command and has answered it. -/
def Server.sent (server : Server) (command : Command) : Server :=
  { server with replies := server.replies.tail, log := server.log ++ [command] }

theorem run_bind {α β : Type} (m : Exchange α) (f : α → Exchange β) (server : Server) :
    (m >>= f).run server = (f (m.run server).1).run (m.run server).2 := rfl

theorem run_send (h : server.isReachable = true) (command : Command) :
    (send command).run server = (server.replies.headD .empty, server.sent command) :=
  if_pos h

/-- Batches are read until there are enough rows.  Each one takes a reply, so the replies last. -/
theorem run_readBatches (h : server.isReachable = true) (hreplies : server.replies = replies)
    (cursor : Int) :
    ((readBatches enough replies.length front cursor).run server).1 =
      gather enough front replies := by
  induction replies generalizing server front cursor with
  | nil =>
    rw [readBatches, run_bind, run_send h, hreplies]
    exact congrArg Except.ok (List.append_nil front)
  | cons reply later ih =>
    have htail : (server.sent (.getMore cursor)).replies = later := by
      rw [Server.sent, hreplies, List.tail_cons]
    rw [readBatches, run_bind, run_send h, hreplies, List.headD_cons, gather]
    cases reply.rows with
    | error fault => rfl
    | ok batch =>
      obtain ⟨more, next⟩ := batch
      cases next with
      | none => rfl
      | some next =>
        simp only [List.length_cons]
        split
        · rfl
        · have hsent : (server.sent (.getMore cursor)).isReachable = true := h
          exact ih hsent htail next

theorem run_sendRead (h : server.isReachable = true) (command : Command) :
    ((sendRead command).run server).1 = (afterRetry server.replies).headD .empty ∧
      ((sendRead command).run server).2.isReachable = true ∧
      ((sendRead command).run server).2.replies = (afterRetry server.replies).tail := by
  rw [sendRead, run_bind, run_send h]
  cases hreplies : server.replies with
  | nil =>
    refine ⟨rfl, h, ?_⟩
    exact congrArg List.tail hreplies
  | cons reply later =>
    have htail : (server.sent command).replies = later := by
      rw [Server.sent, hreplies, List.tail_cons]
    cases reply with
    | batch rows cursor => exact ⟨rfl, h, htail⟩
    | failed fault =>
      simp only [List.headD_cons, afterRetry]
      split
      · have hsent : (server.sent command).isReachable = true := h
        rw [run_send hsent, htail]
        refine ⟨rfl, h, ?_⟩
        exact congrArg List.tail htail
      · exact ⟨rfl, h, htail⟩

/-- The rows of a pipeline are those that are gathered from the replies. -/
theorem run_aggregate (h : server.isReachable = true) :
    ((aggregate enough collection pipeline).run server).1 =
      gather enough [] (afterRetry server.replies) := by
  obtain ⟨hreply, hreach, htail⟩ := run_sendRead h (.aggregate collection pipeline)
  rw [aggregate, run_bind, hreply]
  cases hreplies : afterRetry server.replies with
  | nil => rfl
  | cons reply later =>
    rw [hreplies, List.tail_cons] at htail
    rw [List.headD_cons, gather]
    cases reply.rows with
    | error fault => rfl
    | ok batch =>
      obtain ⟨more, next⟩ := batch
      cases next with
      | none => rfl
      | some next =>
        simp only [List.nil_append]
        split
        · rfl
        · rw [← htail]
          exact run_readBatches hreach rfl next

/-- A server out of reach delivers nothing. -/
theorem run_aggregate_of_unreachable (h : server.isReachable = false) :
    ((aggregate enough collection pipeline).run server).1 = .error .unreachable := by
  have hsend : ∀ command, ((send command).run server).1 = .failed .unreachable := by
    intro command
    exact congrArg Prod.fst (if_neg (Bool.eq_false_iff.1 h))
  have hread : ∀ command, ((sendRead command).run server).1 = .failed .unreachable := by
    intro command
    rw [sendRead, run_bind, hsend]
    rfl
  rw [aggregate, run_bind, hread]
  rfl

theorem exists_rows_failed (fault : Fault) : ∃ other, (Reply.failed fault).rows = .error other := by
  cases fault with
  | writeRefused code text => exact ⟨.unreadableReply, rfl⟩
  | _ => exact ⟨_, rfl⟩

/-- Gathering everything comes to what the replies deliver. -/
theorem gather_all_eq_ok_iff :
    gather (fun _ ↦ false) front replies = .ok rows ↔
      ∃ rest, Delivers replies rest ∧ front ++ rest = rows := by
  induction replies generalizing front with
  | nil =>
    constructor
    · intro h
      exact ⟨[], .unscripted, (List.append_nil front).trans (Except.ok.inj h)⟩
    · rintro ⟨rest, hrest, rfl⟩
      cases hrest
      exact congrArg Except.ok (List.append_nil front).symm
  | cons reply later ih =>
    cases reply with
    | failed fault =>
      obtain ⟨other, hother⟩ := exists_rows_failed fault
      rw [gather, hother]
      constructor
      · exact nofun
      · rintro ⟨rest, hrest, -⟩
        cases hrest
    | batch more cursor =>
      cases cursor with
      | none =>
        constructor
        · intro h
          exact ⟨more, .last more later, Except.ok.inj h⟩
        · rintro ⟨rest, hrest, rfl⟩
          cases hrest
          rfl
      | some cursor =>
        change gather (fun _ ↦ false) (front ++ more) later = .ok rows ↔ _
        rw [ih]
        constructor
        · rintro ⟨rest, hrest, rfl⟩
          exact ⟨more ++ rest, .more hrest, (List.append_assoc ..).symm⟩
        · rintro ⟨all, hall, rfl⟩
          cases hall with
          | more hrest => exact ⟨_, hrest, List.append_assoc ..⟩

/-- Gathering up to the first row comes to the row that the replies start with. -/
theorem gather_first_eq_ok_iff {first : Option Document} :
    (gather (!·.isEmpty) [] replies).map List.head? = .ok first ↔ StartsWith replies first := by
  induction replies with
  | nil =>
    constructor
    · intro h
      cases h
      exact .unscripted
    · rintro ⟨⟩
      rfl
  | cons reply later ih =>
    cases reply with
    | failed fault =>
      obtain ⟨other, hother⟩ := exists_rows_failed fault
      rw [gather, hother]
      constructor
      · exact nofun
      · exact nofun
    | batch more cursor =>
      cases more with
      | cons row more =>
        have hfirst : (gather (!·.isEmpty) [] (.batch (row :: more) cursor :: later)).map
            List.head? = .ok (some row) := by
          cases cursor <;> rfl
        rw [hfirst]
        constructor
        · intro h
          cases h
          exact .row row more cursor later
        · rintro ⟨⟩
          rfl
      | nil =>
        cases cursor with
        | none =>
          constructor
          · intro h
            cases h
            exact .closed later
          · rintro ⟨⟩
            rfl
        | some cursor =>
          change (gather (!·.isEmpty) [] later).map List.head? = .ok first ↔ _
          rw [ih]
          constructor
          · exact .more
          · intro h
            cases h with
            | more h => exact h

end Gathering

section Commands

variable {α β : Type} {allowed : Command → Prop} {m : Exchange α} {f : α → Exchange β}
  {server later last : Server}

/-- Whether a server has become another one by commands of a kind.  Within reach it has not let them
wait, and their driver has not changed its texts. -/
structure Server.Follows (allowed : Command → Prop) (server later : Server) : Prop where
  log : ∃ commands, later.log = server.log ++ commands ∧ ∀ command ∈ commands, allowed command
  isReachable : later.isReachable = server.isReachable
  wording : later.wording = server.wording
  waited : server.isReachable = true → later.waited = server.waited

/-- Whether a computation sends commands of a kind only. -/
def SendsOnly (allowed : Command → Prop) (m : Exchange α) : Prop :=
  ∀ server : Server, server.Follows allowed (m.run server).2

theorem Server.Follows.refl (allowed : Command → Prop) (server : Server) :
    server.Follows allowed server :=
  ⟨⟨[], (List.append_nil _).symm, List.forall_mem_nil _⟩, rfl, rfl, fun _ ↦ rfl⟩

theorem Server.Follows.trans (h : server.Follows allowed later) (h' : later.Follows allowed last) :
    server.Follows allowed last := by
  obtain ⟨front, hfront, hallowed⟩ := h.log
  obtain ⟨back, hback, hallowed'⟩ := h'.log
  refine ⟨⟨front ++ back, ?_, ?_⟩, h'.isReachable.trans h.isReachable,
    h'.wording.trans h.wording, fun hreach ↦ ?_⟩
  · rw [hback, hfront, List.append_assoc]
  · exact List.forall_mem_append.2 ⟨hallowed, hallowed'⟩
  · exact (h'.waited (h.isReachable.trans hreach)).trans (h.waited hreach)

theorem SendsOnly.mono {other : Command → Prop} (hm : SendsOnly allowed m)
    (h : ∀ command, allowed command → other command) : SendsOnly other m := by
  intro server
  obtain ⟨⟨commands, hlog, hallowed⟩, hreach, hwording, hwaited⟩ := hm server
  exact ⟨⟨commands, hlog, fun command hcommand ↦ h command (hallowed command hcommand)⟩, hreach,
    hwording, hwaited⟩

theorem sendsOnly_pure (a : α) : SendsOnly allowed (pure a : Exchange α) :=
  fun server ↦ .refl allowed server

theorem sendsOnly_get : SendsOnly allowed (get : Exchange Server) :=
  fun server ↦ .refl allowed server

theorem SendsOnly.bind (hm : SendsOnly allowed m) (hf : ∀ a, SendsOnly allowed (f a)) :
    SendsOnly allowed (m >>= f) :=
  fun server ↦ (hm server).trans (hf _ _)

theorem sendsOnly_send {command : Command} (h : allowed command) :
    SendsOnly allowed (send command) := by
  intro server
  cases hreach : server.isReachable with
  | true =>
    rw [run_send hreach]
    exact ⟨⟨[command], rfl, List.forall_mem_singleton.2 h⟩, rfl, rfl, fun _ ↦ rfl⟩
  | false =>
    have hafter : ((send command).run server).2 =
        { server with waited := server.waited + Server.patience } :=
      congrArg Prod.snd (if_neg (Bool.eq_false_iff.1 hreach))
    rw [hafter]
    refine ⟨⟨[], (List.append_nil _).symm, List.forall_mem_nil _⟩, rfl, rfl, fun hother ↦ ?_⟩
    exact absurd (hreach.symm.trans hother) Bool.false_ne_true

theorem sendsOnly_sendRead {command : Command} (h : allowed command) :
    SendsOnly allowed (sendRead command) := by
  refine (sendsOnly_send h).bind fun reply ↦ ?_
  split
  · split
    · exact sendsOnly_send h
    · exact sendsOnly_pure _
  · exact sendsOnly_pure _

theorem sendsOnly_readBatches (h : ∀ cursor, allowed (.getMore cursor))
    (enough : List Document → Bool) (scripted : Nat) (rows : List Document) (cursor : Int) :
    SendsOnly allowed (readBatches enough scripted rows cursor) := by
  induction scripted generalizing rows cursor with
  | zero =>
    rw [readBatches]
    refine (sendsOnly_send (h cursor)).bind fun reply ↦ ?_
    split <;> exact sendsOnly_pure _
  | succ scripted ih =>
    rw [readBatches]
    refine (sendsOnly_send (h cursor)).bind fun reply ↦ ?_
    split
    · exact sendsOnly_pure _
    · exact sendsOnly_pure _
    · dsimp only
      split
      · exact sendsOnly_pure _
      · exact ih _ _

/-- Reading a pipeline sends the pipeline and asks for more batches. -/
inductive IsReading (collection : String) (pipeline : List Document) : Command → Prop
  | aggregate : IsReading collection pipeline (.aggregate collection pipeline)
  | getMore (cursor : Int) : IsReading collection pipeline (.getMore cursor)

theorem IsReading.pipeline_eq {collection other : String} {pipeline pipeline' : List Document}
    (h : IsReading collection pipeline (.aggregate other pipeline')) : pipeline' = pipeline := by
  cases h
  rfl

theorem sendsOnly_aggregate (enough : List Document → Bool) (collection : String)
    (pipeline : List Document) :
    SendsOnly (IsReading collection pipeline) (aggregate enough collection pipeline) := by
  refine (sendsOnly_sendRead .aggregate).bind fun reply ↦ ?_
  split
  · exact sendsOnly_pure _
  · exact sendsOnly_pure _
  · split
    · exact sendsOnly_pure _
    · refine sendsOnly_get.bind fun server ↦ ?_
      exact sendsOnly_readBatches .getMore enough _ _ _

theorem sendsOnly_fetchPage (plan : Plan) :
    SendsOnly (IsReading eventsCollection plan.pipeline) (fetchPage plan) :=
  (sendsOnly_aggregate _ _ _).bind fun _ ↦ sendsOnly_get.bind fun _ ↦ sendsOnly_pure _

theorem sendsOnly_fetchCount (plan : Plan) :
    SendsOnly (IsReading eventsCollection plan.countPipeline) (fetchCount plan) := by
  refine SendsOnly.bind ((sendsOnly_aggregate _ _ _).bind fun _ ↦ sendsOnly_pure _) fun first ↦ ?_
  split <;> exact sendsOnly_pure _

end Commands

section Calls

variable {server : Server} {plan : Plan} {rows : List Document} {events : List Event} {n : Nat}

theorem run_allRows_eq_ok_iff (collection : String) (pipeline : List Document) :
    ((allRows collection pipeline).run server).1 = .ok rows ↔ server.Delivers rows := by
  cases h : server.isReachable with
  | false =>
    rw [allRows, run_aggregate_of_unreachable h, Server.Delivers, h]
    simp
  | true =>
    rw [allRows, run_aggregate h, gather_all_eq_ok_iff, Server.Delivers, h]
    simp

theorem run_firstRow_eq_ok_iff (collection : String) (pipeline : List Document)
    {first : Option Document} :
    ((firstRow collection pipeline).run server).1 = .ok first ↔
      server.isReachable = true ∧ StartsWith (afterRetry server.replies) first := by
  rw [firstRow, run_bind]
  change (((aggregate (!·.isEmpty) collection pipeline).run server).1).map List.head? =
    .ok first ↔ _
  cases h : server.isReachable with
  | false =>
    rw [run_aggregate_of_unreachable h]
    exact iff_of_false nofun nofun
  | true =>
    rw [run_aggregate h, gather_first_eq_ok_iff]
    exact (and_iff_right rfl).symm

theorem Wording.decodeRow_eq_ok_iff {w : Wording} {row : Document} {e : Event} :
    w.decodeRow row = .ok e ↔ Event.ofDocument? row = some e := by
  rw [decodeRow]
  cases Event.ofDocument? row <;> simp

theorem Wording.exists_detail_of_decodeRow {w : Wording} {row : Document} {e : EventError}
    (h : w.decodeRow row = .error e) : ∃ detail, e = .database detail := by
  rw [decodeRow] at h
  split at h
  · cases h
  · cases h
    exact ⟨_, rfl⟩

/-- A page is made of its rows, and all errors are in the words of the driver. -/
theorem run_fetchPage (plan : Plan) (server : Server) :
    ((fetchPage plan).run server).1 =
      (((allRows eventsCollection plan.pipeline).run server).1.mapError server.wording.report).bind
        (·.mapM server.wording.decodeRow) := by
  have hreading := sendsOnly_aggregate (fun _ ↦ false) eventsCollection plan.pipeline server
  rw [← hreading.wording]
  rfl

/-- A page succeeds exactly if all rows that the server delivers are events, and then consists of
them in their order. -/
theorem fetchPage_eq_ok_iff :
    ((fetchPage plan).run server).1 = .ok events ↔ server.DeliversEvents events := by
  simp only [Server.DeliversEvents,
    ← run_allRows_eq_ok_iff eventsCollection plan.pipeline]
  simp only [run_fetchPage, ← server.wording.decodeRow_eq_ok_iff, ← mapM_eq_ok_iff]
  cases ((allRows eventsCollection plan.pipeline).run server).1 with
  | error fault => exact iff_of_false nofun nofun
  | ok rows =>
    constructor
    · intro h
      exact ⟨rows, rfl, h⟩
    · rintro ⟨_, hrows, h⟩
      cases hrows
      exact h

/-- A page fails with an error of the store only. -/
theorem exists_detail_of_fetchPage_error {e : EventError}
    (h : ((fetchPage plan).run server).1 = .error e) : ∃ detail, e = .database detail := by
  rw [run_fetchPage] at h
  cases hrows : ((allRows eventsCollection plan.pipeline).run server).1 with
  | error fault =>
    rw [hrows] at h
    cases h
    exact ⟨server.wording.fault fault, rfl⟩
  | ok rows =>
    rw [hrows] at h
    obtain ⟨row, -, hrow⟩ := exists_mem_of_mapM_eq_error h
    exact Wording.exists_detail_of_decodeRow hrow

/-- A page of rows that are not all events fails. -/
theorem exists_fetchPage_eq_error (h : ∀ events, ¬server.DeliversEvents events) (plan : Plan) :
    ∃ detail, ((fetchPage plan).run server).1 = .error (.database detail) := by
  cases hpage : ((fetchPage plan).run server).1 with
  | ok events => exact absurd (fetchPage_eq_ok_iff.1 hpage) (h events)
  | error e =>
    obtain ⟨detail, rfl⟩ := exists_detail_of_fetchPage_error hpage
    exact ⟨detail, rfl⟩

theorem total?_eq_some_iff {row : Document} : total? row = some n ↔ HoldsTotal row n := by
  rw [total?, HoldsTotal]
  cases row.get? "total" with
  | none => simp
  | some v => simp [Bson.decodeUnsigned_eq_some_iff]

/-- A count arrives exactly if the server reports it. -/
theorem fetchCount_eq_some_iff :
    (((fetchCount plan).run server).1 : Option Nat) = some n ↔ server.Counts n := by
  simp only [Server.Counts, ← total?_eq_some_iff, ← exists_and_left, ← and_assoc,
    ← run_firstRow_eq_ok_iff eventsCollection plan.countPipeline]
  rw [fetchCount, run_bind]
  cases ((firstRow eventsCollection plan.countPipeline).run server).1 with
  | error fault =>
    refine iff_of_false nofun ?_
    rintro ⟨_, hfirst, -⟩
    cases hfirst
  | ok first =>
    have hfirst : ∀ other, (Except.ok first : Except Fault (Option Document)) = .ok other ↔
        first = other := by
      simp
    simp only [hfirst, exists_eq_left']
    cases first with
    | none => exact Option.some_inj.trans eq_comm
    | some row => rfl

end Calls

end Mongo

end EventCatalog
