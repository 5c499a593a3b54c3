import SqlBuilder.Result.Row
import SqlBuilder.Sql.Query

/-! # Sessions with a database

Running a statement does three things that can be seen: the database receives it, events
are logged, and there is a result.  A `Session` holds all three, so that what a run did
can be stated without a database.  Sessions are chained like computations that may fail:
what was received and logged before a failure stays.

The database is an `Executor`, any function from a statement to an answer.
-/
namespace SqlBuilder

/-- The kinds of statement. -/
inductive StatementKind where
  | select
  | insert
  | update
  | delete
  deriving DecidableEq

namespace StatementKind

/-- The name of the kind in SQL. -/
def sql : StatementKind → String
  | .select => "SELECT"
  | .insert => "INSERT"
  | .update => "UPDATE"
  | .delete => "DELETE"

/-- Whether a statement of the kind only reads. -/
def isRead : StatementKind → Bool
  | .select => true
  | _ => false

end StatementKind

/-- The kind of a statement under construction. -/
def Query.kind : Query → StatementKind
  | .select _ => .select
  | .insert _ => .insert
  | .update _ => .update
  | .delete _ => .delete

/-- A statement as a database receives it. -/
structure Statement where
  sql : String
  bindings : List Value
  kind : StatementKind

/-- A database: what it answers to a statement. -/
abbrev Executor := Statement → Except Error Outcome

/-- What is logged. -/
inductive Event where
  /-- A statement was written. -/
  | prepared (dialect sql : String) (bindings : Nat)
  /-- A statement is sent to the database. -/
  | executing (kind : StatementKind) (sql : String) (bindings : Nat)
  /-- The database answered a read as if it were a write. -/
  | affectedByRead (count : UInt64)

namespace Event

/-- How much an event matters. -/
def level : Event → String
  | .prepared .. => "TRACE"
  | .executing .. => "DEBUG"
  | .affectedByRead _ => "WARN"

/-- The wording of an event. -/
def message : Event → String
  | .prepared .. => "compiled statement"
  | .executing .. => "executing statement"
  | .affectedByRead _ => "read statement received a write outcome, treating it as zero rows"

end Event

/-- What a run did: the statements that the database received and the events, both in
order, and the result. -/
structure Session (α : Type) where
  executed : List Statement
  events : List Event
  result : Except Error α

namespace Session

/-- A session that does nothing. -/
def done {α : Type} (result : Except Error α) : Session α :=
  ⟨[], [], result⟩

/-- A session and, if it succeeds, the one that follows from its result. -/
def andThen {α β : Type} (first : Session α) (next : α → Session β) : Session β :=
  match first.result with
  | .error error => ⟨first.executed, first.events, .error error⟩
  | .ok a =>
    let second := next a
    ⟨first.executed ++ second.executed, first.events ++ second.events, second.result⟩

/-- A session with its result changed. -/
def map {α β : Type} (f : α → β) (session : Session α) : Session β :=
  ⟨session.executed, session.events, session.result.map f⟩

/-- Writing a statement, which is logged if it succeeds. -/
def prepare (dialect : Dialect) (prepared : Except Error Prepared) : Session Prepared :=
  match prepared with
  | .error error => done (.error error)
  | .ok p => ⟨[], [.prepared dialect.name p.sql p.bindings.length], .ok p⟩

/-- Sending a statement to a database. -/
def execute (executor : Executor) (kind : StatementKind) (prepared : Prepared) :
    Session Outcome :=
  let statement : Statement := ⟨prepared.sql, prepared.bindings, kind⟩
  ⟨[statement], [.executing kind prepared.sql prepared.bindings.length], executor statement⟩

/-- Writing a statement and sending it. -/
def run (executor : Executor) (query : Query) : Session Outcome :=
  (prepare query.target.dialect query.prepare).andThen (execute executor query.kind)

/-- The rows of an answer to a read; an answer to a write is logged and has none. -/
def readRows (outcome : Outcome) : Session (List Row) :=
  match outcome with
  | .rows list => done (.ok list)
  | .affected count _ => ⟨[], [.affectedByRead count], .ok []⟩

end Session

namespace Query

/-- Writing a statement. -/
def toPrepared (query : Query) : Session Prepared :=
  Session.prepare query.target.dialect query.prepare

/-- Writing a statement as a database would receive it. -/
def toStatement (query : Query) : Session Statement :=
  query.toPrepared.map fun p => ⟨p.sql, p.bindings, query.kind⟩

end Query
end SqlBuilder
