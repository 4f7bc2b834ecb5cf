import GuardedSql.Session

set_option autoImplicit false

/-!
The events of a session and its answers.

A call that asks for SQL leaves one event behind, and no other call leaves any; a text asks for SQL
only if it is a value. The event tells the answer: SQL with its text and the number of its
parameters, a rejection with its reason. So whoever knows the calls and their answers knows the
events, and whoever knows the events knows how often filters and requests were asked for, and in
which order: `performAll_events`. A request is one subject with the filter inside it.
-/

namespace GuardedSql

/-- What a call asks SQL for, if it does. -/
def Call.subject? (read : DoubleReader) : Call → Option Subject
  | renderFilter _ => some .filter
  | renderRequest _ => some .request
  | renderFilterText text => (Json.ofText? read text).map fun _ => .filter
  | renderRequestText text => (Json.ofText? read text).map fun _ => .request
  | _ => none

def Event.subject : Event → Subject
  | rendered subject _ _ => subject
  | rejected subject _ => subject

/-- The messages for SQL and for a rejection. -/
def Subject.messages : Subject → String × String
  | filter => ("rendered filter", "rejected filter")
  | request => ("rendered statement", "rejected request")

/-- The event tells the answer to a call that asks for SQL. -/
inductive Event.Tells (event : Event) (subject : Subject) : Answer → Prop where
  | rendered {bound : BoundSql} (level : event.level = .trace)
      (message : event.message = subject.messages.1)
      (content : event = .rendered subject bound.sql bound.params.length) :
      Tells event subject (.sql (.ok bound))
  | rejected {cause : Rejection} (level : event.level = .debug)
      (message : event.message = subject.messages.2)
      (content : event = .rejected subject (Failure.rejected cause).message) :
      Tells event subject (.sql (.error (.rejected cause)))

/-- Events that can be read off calls and their answers: one for each call that asks for SQL, in the
order of the calls. -/
inductive Recorded (read : DoubleReader) : List Call → List Answer → List Event → Prop where
  | nil : Recorded read [] [] []
  | told {call : Call} {answer : Answer} {event : Event} {subject : Subject} {calls : List Call}
      {answers : List Answer} {events : List Event} (asks : call.subject? read = some subject)
      (tells : event.Tells subject answer) (rest : Recorded read calls answers events) :
      Recorded read (call :: calls) (answer :: answers) (event :: events)
  | silent {call : Call} {answer : Answer} {calls : List Call} {answers : List Answer}
      {events : List Event} (asksNot : call.subject? read = none)
      (rest : Recorded read calls answers events) :
      Recorded read (call :: calls) (answer :: answers) events

variable {read : DoubleReader}

namespace Event.Tells

variable {first second event : Event} {subject : Subject} {answer : Answer}

theorem unique (tells : first.Tells subject answer) (tellsToo : second.Tells subject answer) :
    first = second := by
  cases tells with
  | rendered _ _ content =>
      cases tellsToo with
      | rendered _ _ contentToo => exact content.trans contentToo.symm
  | rejected _ _ content =>
      cases tellsToo with
      | rejected _ _ contentToo => exact content.trans contentToo.symm

theorem subject_eq (tells : event.Tells subject answer) : event.subject = subject := by
  cases tells with
  | rendered _ _ content => exact congrArg Event.subject content
  | rejected _ _ content => exact congrArg Event.subject content

end Event.Tells

namespace Recorded

variable {calls : List Call} {answers : List Answer} {first second events : List Event}

theorem unique (recorded : Recorded read calls answers first)
    (recordedToo : Recorded read calls answers second) : first = second := by
  induction recorded generalizing second with
  | nil =>
      cases recordedToo
      rfl
  | told asks tells _ inductionHypothesis =>
      cases recordedToo with
      | told asksToo tellsToo restToo =>
          cases asks.symm.trans asksToo
          rw [tells.unique tellsToo, inductionHypothesis restToo]
      | silent asksNot _ => cases asks.symm.trans asksNot
  | silent asksNot _ inductionHypothesis =>
      cases recordedToo with
      | told asks _ _ => cases asks.symm.trans asksNot
      | silent _ restToo => exact inductionHypothesis restToo

theorem map_subject (recorded : Recorded read calls answers events) :
    events.map Event.subject = calls.filterMap (Call.subject? read) := by
  induction recorded with
  | nil => rfl
  | told asks tells _ inductionHypothesis =>
      rw [List.map_cons, tells.subject_eq, List.filterMap_cons_some asks, inductionHypothesis]
  | silent asksNot _ inductionHypothesis =>
      rw [List.filterMap_cons_none asksNot, inductionHypothesis]

end Recorded

theorem Event.tells_ofResult (subject : Subject) (result : Except Rejection BoundSql) :
    (Event.ofResult subject result).Tells subject (.sql (result.mapError .rejected)) := by
  cases result with
  | ok bound => cases subject <;> exact .rendered rfl rfl rfl
  | error cause => cases subject <;> exact .rejected rfl rfl rfl

/-- A text that is a value is rendered like this value. -/
theorem renderText_of_some {render : Json → Logged (Except Rejection BoundSql)} {text : String}
    {value : Json} (isValue : Json.ofText? read text = some value) :
    renderText read render text = (render value).map fun result => result.mapError .rejected := by
  simp only [renderText, isValue]

theorem events_renderText_of_none {render : Json → Logged (Except Rejection BoundSql)}
    {text : String} (malformed : Json.ofText? read text = none) :
    (renderText read render text).events = [] := by
  simp only [renderText, malformed, Logged.silent]

theorem Call.exists_event_of_asks (allow : AllowList) {call : Call} {subject : Subject}
    (asks : call.subject? read = some subject) :
    ∃ event, (call.perform read allow).events = [event] ∧
      event.Tells subject (call.perform read allow).value := by
  cases call with
  | renderFilter node =>
      cases asks
      exact ⟨_, rfl, Event.tells_ofResult .filter (Filter.sqlOf allow node)⟩
  | renderRequest request =>
      cases asks
      exact ⟨_, rfl, Event.tells_ofResult .request (Statement.sqlOf allow request)⟩
  | renderFilterText text =>
      obtain ⟨node, isValue, rfl⟩ := Option.map_eq_some_iff.mp asks
      rw [perform, GuardedSql.renderFilterText, renderText_of_some isValue]
      exact ⟨_, rfl, Event.tells_ofResult .filter (Filter.sqlOf allow node)⟩
  | renderRequestText text =>
      obtain ⟨request, isValue, rfl⟩ := Option.map_eq_some_iff.mp asks
      rw [perform, GuardedSql.renderRequestText, renderText_of_some isValue]
      exact ⟨_, rfl, Event.tells_ofResult .request (Statement.sqlOf allow request)⟩
  | _ => cases asks

theorem Call.events_of_asksNot (allow : AllowList) {call : Call}
    (asksNot : call.subject? read = none) : (call.perform read allow).events = [] := by
  cases call with
  | renderFilter node => cases asksNot
  | renderRequest request => cases asksNot
  | renderFilterText text => exact events_renderText_of_none (Option.map_eq_none_iff.mp asksNot)
  | renderRequestText text => exact events_renderText_of_none (Option.map_eq_none_iff.mp asksNot)
  | _ => rfl

theorem recorded_performAll (read : DoubleReader) (allow : AllowList) (calls : List Call) :
    Recorded read calls (performAll read allow calls).value
      (performAll read allow calls).events := by
  induction calls with
  | nil => exact .nil
  | cons call rest inductionHypothesis =>
      rw [performAll]
      cases asks : call.subject? read with
      | some subject =>
          obtain ⟨event, isEvent, tells⟩ := Call.exists_event_of_asks allow asks
          rw [isEvent]
          exact .told asks tells inductionHypothesis
      | none =>
          rw [Call.events_of_asksNot allow asks]
          exact .silent asks inductionHypothesis

/-- The events of a session are those that can be read off its calls and answers, and there is one
for each call that asks for SQL, about what it asks for. A request leaves one event behind, about
the request: whatever becomes of the filter inside it, no event is about the filter. -/
theorem performAll_events (read : DoubleReader) (allow : AllowList) :
    (∀ calls events, Recorded read calls (performAll read allow calls).value events ↔
      events = (performAll read allow calls).events) ∧
    (∀ calls, (performAll read allow calls).events.map Event.subject =
      calls.filterMap (Call.subject? read)) ∧
    ∀ request, ((Call.renderRequest request).perform read allow).events.map Event.subject =
      [.request] := by
  refine ⟨fun calls events => ⟨fun recorded => ?_, ?_⟩,
    fun calls => (recorded_performAll read allow calls).map_subject, fun request => ?_⟩
  · exact recorded.unique (recorded_performAll read allow calls)
  · rintro rfl
    exact recorded_performAll read allow calls
  · have asks : (Call.renderRequest request).subject? read = some .request := rfl
    obtain ⟨event, isEvent, tells⟩ := Call.exists_event_of_asks allow asks
    rw [isEvent, List.map_singleton, tells.subject_eq]

/-- A request that is rejected for its filter, a text that is no value, a check, and the text of a
list. -/
example :
    let allow := AllowList.build [.query "SELECT", .item "id", .table "orders",
      .connection "WHERE", .column "id" .integer]
    let filter := Json.object [("id", .object [("=", .null)])]
    let request := Json.object [("connection", .string "WHERE"), ("items", .array [.string "id"]),
      ("logic", filter), ("query", .string "SELECT"), ("table", .string "orders")]
    let calls := [.renderRequest request, .renderFilterText "[", .checkFilter filter,
      .renderFilterText "[]"]
    (performAll .stepwise allow calls).events =
      [.rejected .request "Logic Fail - Bad id, non integer",
        .rejected .filter "Invalid Input - []"] := by
  decide +kernel

end GuardedSql
