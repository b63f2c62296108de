import Mathlib.Data.Option.Basic
import Rolebook.Proofs.FirstFault
import Rolebook.Store.Statement

/-!
Transactions. Statements are carried out if the server refuses none of them and the tables admit each;
what is written does not depend on the refusals. The first statement that is rejected decides the error. If
the statements are one by itself, or those of a transaction that the last of them commits, then nothing is
written on an error: what came before it was written to a copy that is lost.
-/

namespace Rolebook

namespace Refusals

/-- None of the statements, the first of them at a place of its transaction, is refused. -/
def Pass (refusals : Refusals) (place : Nat) (statements : List Statement) : Prop :=
  ∀ offset statement, statements[offset]? = some statement →
    refusals (place + offset) statement.kind = .none

@[simp]
theorem pass_nil (refusals : Refusals) (place : Nat) : refusals.Pass place [] := by
  simp [Pass]

@[simp]
theorem pass_cons {refusals : Refusals} {place : Nat} {statement : Statement} {rest : List Statement} :
    refusals.Pass place (statement :: rest) ↔
      refusals place statement.kind = .none ∧ refusals.Pass (place + 1) rest := by
  constructor
  · intro passed
    refine ⟨passed 0 statement rfl, fun offset other isListed => ?_⟩
    have isPassed := passed (offset + 1) other isListed
    rwa [show place + 1 + offset = place + (offset + 1) by omega]
  · rintro ⟨isHead, areRest⟩ offset other isListed
    cases offset with
    | zero => simpa [← Option.some.inj isListed] using isHead
    | succ offset =>
        have isPassed := areRest offset other isListed
        rwa [show place + (offset + 1) = place + 1 + offset by omega]

end Refusals

namespace Statement

def Inner : Statement → Prop
  | begin | commit | finish => False
  | _ => True

/-- Statements that are stored all at once. -/
inductive Atomic : List Statement → Prop
  | single {statement : Statement} (inner : statement.Inner) : Atomic [statement]
  | transaction {body : List Statement} (inner : ∀ statement ∈ body, statement.Inner) :
      Atomic (begin :: (body ++ [commit]))

def effect (tables : Tables) : Statement → Tables
  | insertRole row => { tables with roles := tables.roles ++ [row] }
  | insertScope row => { tables with scopes := tables.scopes ++ [row] }
  | insertField row => { tables with fields := tables.fields ++ [row] }
  | clearRules id => tables.clearRules id
  | deleteRole id =>
      { tables.clearRules id with roles := tables.roles.filter fun row => row.id ≠ id }
  | _ => tables

theorem eq_effect_of_apply {locale : Locale} {tables next : Tables} {statement : Statement}
    (applied : statement.apply locale tables = .ok next) : next = statement.effect tables := by
  cases statement <;> simp only [apply] at applied <;> (try split at applied) <;>
    (try split at applied) <;> cases applied <;> rfl

/-- The tables that statements lead to if each is carried out. -/
def applyAll (locale : Locale) (tables : Tables) (statements : List Statement) :
    Except Rejection Tables :=
  statements.foldlM (apply locale) tables

@[simp]
theorem applyAll_nil (locale : Locale) (tables : Tables) : applyAll locale tables [] = .ok tables :=
  rfl

theorem applyAll_cons (locale : Locale) (tables : Tables) (statement : Statement)
    (rest : List Statement) : applyAll locale tables (statement :: rest) =
      (statement.apply locale tables).bind fun next => applyAll locale next rest := by
  rw [applyAll, List.foldlM_cons]
  rfl

theorem applyAll_append (locale : Locale) (tables : Tables) (earlier later : List Statement) :
    applyAll locale tables (earlier ++ later) =
      (applyAll locale tables earlier).bind fun reached => applyAll locale reached later := by
  rw [applyAll, List.foldlM_append]
  rfl

theorem eq_foldl_effect_of_applyAll {locale : Locale} {tables after : Tables}
    {statements : List Statement} (applied : applyAll locale tables statements = .ok after) :
    after = statements.foldl effect tables := by
  induction statements generalizing tables with
  | nil => simpa using applied.symm
  | cons statement rest inductionHypothesis =>
      rw [applyAll_cons] at applied
      cases first : statement.apply locale tables with
      | error rejection => simp [first, Except.bind] at applied
      | ok next =>
          rw [first] at applied
          rw [List.foldl_cons, ← eq_effect_of_apply first]
          exact inductionHypothesis applied

end Statement

namespace Connection

open Statement

variable {locale : Locale}

theorem take_of_inner (connection : Connection) {statement : Statement} (inner : statement.Inner) :
    connection.take locale statement =
      (statement.apply locale connection.tables).map connection.write := by
  cases statement with
  | begin => exact inner.elim
  | commit => exact inner.elim
  | finish => exact inner.elim
  | _ => rfl

theorem exists_of_take_open {stored tables : Tables} {statement : Statement} {next : Connection}
    (inner : statement.Inner) (taken : take locale ⟨stored, some tables⟩ statement = .ok next) :
    ∃ written, next = ⟨stored, some written⟩ := by
  rw [take_of_inner _ inner] at taken
  change (statement.apply locale tables).map _ = _ at taken
  cases applied : statement.apply locale tables with
  | error rejection => rw [applied] at taken; cases taken
  | ok written => rw [applied] at taken; cases taken; exact ⟨written, rfl⟩

def takeAll (locale : Locale) (connection : Connection) (statements : List Statement) :
    Except Rejection Connection :=
  statements.foldlM (take locale) connection

@[simp]
theorem takeAll_nil (connection : Connection) : connection.takeAll locale [] = .ok connection :=
  rfl

theorem takeAll_cons (connection : Connection) (statement : Statement) (rest : List Statement) :
    connection.takeAll locale (statement :: rest) =
      (connection.take locale statement).bind fun next => next.takeAll locale rest := by
  rw [takeAll, List.foldlM_cons]
  rfl

/-- Within a transaction only the copy changes, up to the commit that stores it. -/
theorem takeAll_committed {body : List Statement} (inner : ∀ statement ∈ body, statement.Inner)
    (stored tables : Tables) :
    takeAll locale ⟨stored, some tables⟩ (body ++ [commit]) =
      (applyAll locale tables (body ++ [commit])).map fun after => ⟨after, none⟩ := by
  induction body generalizing tables with
  | nil => rfl
  | cons statement rest inductionHypothesis =>
      rw [List.forall_mem_cons] at inner
      rw [List.cons_append, takeAll_cons, applyAll_cons, take_of_inner _ inner.1]
      change ((statement.apply locale tables).map _).bind _ = _
      cases statement.apply locale tables with
      | error rejection => rfl
      | ok next => exact inductionHypothesis inner.2 next

/-- Statements that are stored all at once store what they come to. -/
theorem takeAll_of_atomic {statements : List Statement} (atomic : Atomic statements) (tables : Tables) :
    takeAll locale ⟨tables, none⟩ statements =
      (applyAll locale tables statements).map fun after => ⟨after, none⟩ := by
  cases atomic with
  | single inner =>
      rw [takeAll_cons, applyAll_cons, take_of_inner _ inner]
      change ((apply locale tables _).map _).bind _ = _
      cases apply locale tables _ <;> rfl
  | transaction inner => exact takeAll_committed inner tables tables

end Connection

namespace Database

variable {database : Database} {place : Nat} {connection after : Connection}
  {statement : Statement} {statements : List Statement} {error : ServiceError}

def answer (database : Database) (place : Nat) (connection : Connection) (statement : Statement) :
    Except Rejection Connection :=
  match database.refusals place statement.kind with
  | some code => .error (.code code)
  | none => connection.take database.locale statement

theorem answer_eq_ok_iff : database.answer place connection statement = .ok after ↔
    database.refusals place statement.kind = none ∧
      connection.take database.locale statement = .ok after := by
  unfold answer
  cases database.refusals place statement.kind <;> simp

theorem execute_cons (database : Database) (place : Nat) (connection : Connection)
    (statement : Statement) (rest : List Statement) :
    database.execute place connection (statement :: rest) =
      match database.answer place connection statement with
      | .error rejection => (.error (statement.failure rejection), connection)
      | .ok next => database.execute (place + 1) next rest := by
  rw [execute, answer]
  cases database.refusals place statement.kind <;> rfl

/-- What is carried out does not depend on the refusals: a server either lets statements pass or not. -/
theorem execute_eq_ok_iff : database.execute place connection statements = (.ok (), after) ↔
    database.refusals.Pass place statements ∧
      connection.takeAll database.locale statements = .ok after := by
  induction statements generalizing place connection with
  | nil => simp [execute]
  | cons statement rest inductionHypothesis =>
      rw [execute_cons, Connection.takeAll_cons, Refusals.pass_cons]
      cases answered : database.answer place connection statement with
      | ok next =>
          obtain ⟨isPassed, isTaken⟩ := answer_eq_ok_iff.mp answered
          simp [isPassed, isTaken, inductionHypothesis, Except.bind]
      | error rejection =>
          cases taken : connection.take database.locale statement with
          | error other => simp [Except.bind]
          | ok next =>
              have isRefused : database.refusals place statement.kind ≠ none := by
                intro isPassed
                rw [answer_eq_ok_iff.mpr ⟨isPassed, taken⟩] at answered
                cases answered
              simp [isRefused]

/-- A transaction that fails stores nothing of what it did before. -/
theorem stored_of_failed_body {body : List Statement} (inner : ∀ statement ∈ body, statement.Inner)
    {stored tables : Tables}
    (failed : database.execute place ⟨stored, some tables⟩ (body ++ [.commit]) = (.error error, after)) :
    after.stored = stored := by
  induction body generalizing place tables with
  | nil =>
      rw [List.nil_append, execute_cons] at failed
      cases answered : database.answer place ⟨stored, some tables⟩ .commit with
      | error rejection => rw [answered] at failed; cases failed; rfl
      | ok next => rw [answered] at failed; cases failed
  | cons statement rest inductionHypothesis =>
      rw [List.forall_mem_cons] at inner
      rw [List.cons_append, execute_cons] at failed
      cases answered : database.answer place ⟨stored, some tables⟩ statement with
      | error rejection => rw [answered] at failed; cases failed; rfl
      | ok next =>
          obtain ⟨_, isTaken⟩ := answer_eq_ok_iff.mp answered
          obtain ⟨written, rfl⟩ := Connection.exists_of_take_open inner.1 isTaken
          rw [answered] at failed
          exact inductionHypothesis inner.2 failed

/-- The server rejects a statement: it carried out those before it, but not this one. -/
def Rejected (database : Database) (place : Nat) (connection : Connection) (error : ServiceError)
    (before : List Statement) (statement : Statement) : Prop :=
  ∃ reached rejection, database.execute place connection before = (.ok (), reached) ∧
    database.answer (place + before.length) reached statement = .error rejection ∧
    statement.failure rejection = error

theorem rejected_nil : database.Rejected place connection error [] statement ↔
    ∃ rejection, database.answer place connection statement = .error rejection ∧
      statement.failure rejection = error := by
  simp [Rejected, execute]

theorem rejected_cons {head : Statement} {before : List Statement} :
    database.Rejected place connection error (head :: before) statement ↔
      ∃ next, database.answer place connection head = .ok next ∧
        database.Rejected (place + 1) next error before statement := by
  have sameLength : place + (before.length + 1) = place + 1 + before.length := by omega
  cases answered : database.answer place connection head <;>
    simp [Rejected, execute_cons, answered, sameLength]

theorem execute_eq_error_iff : (database.execute place connection statements).1 = .error error ↔
    FaultIn statements (database.Rejected place connection error) := by
  induction statements generalizing place connection with
  | nil => simp [execute]
  | cons statement rest inductionHypothesis =>
      rw [faultIn_cons, rejected_nil, execute_cons, faultIn_congr fun _ _ _ _ => rejected_cons]
      cases answered : database.answer place connection statement with
      | error rejection => simp
      | ok next => simp [inductionHypothesis]

/-- One of the statements, on a connection of their own, is rejected with this error. -/
def Rejects (database : Database) (statements : List Statement) (error : ServiceError) : Prop :=
  FaultIn statements (database.Rejected 0 database.connect error)

/-- What a transaction comes to: nothing is written if a statement is refused or otherwise rejected, and
if none is, then what is written is the tables that its statements lead to. -/
structure AllOrNothing {Value : Type} (database : Database) (statements : List Statement)
    (written : Value → Tables → Prop) (outcome : Except ServiceError Value × Database) : Prop where
  refused : ∀ place statement, statements[place]? = some statement →
    database.refusals place statement.kind ≠ none → ∃ error, outcome = (.error error, database)
  rejected : ∀ error, database.Rejects statements error → outcome = (.error error, database)
  carriedOut : (∀ error, ¬ database.Rejects statements error) →
    ∃ value after, outcome = (.ok value, { database with tables := after }) ∧ written value after

section Atomic

variable (atomic : Statement.Atomic statements)

include atomic

theorem stored_of_execute_error
    (failed : database.execute 0 database.connect statements = (.error error, after)) :
    after.stored = database.tables := by
  cases atomic with
  | single inner =>
      rw [execute_cons] at failed
      cases answered : database.answer 0 database.connect _ with
      | error rejection => rw [answered] at failed; cases failed; rfl
      | ok next => rw [answered] at failed; cases failed
  | transaction inner =>
      rw [execute_cons] at failed
      cases answered : database.answer 0 database.connect .begin with
      | error rejection => rw [answered] at failed; cases failed; rfl
      | ok next =>
          obtain ⟨_, isTaken⟩ := answer_eq_ok_iff.mp answered
          cases isTaken
          rw [answered] at failed
          exact stored_of_failed_body inner failed

theorem transact_of_execute_error
    (failed : (database.execute 0 database.connect statements).1 = .error error) :
    database.transact statements = (.error error, database) := by
  have executed : database.execute 0 database.connect statements =
      (.error error, (database.execute 0 database.connect statements).2) := Prod.ext failed rfl
  have isStored := stored_of_execute_error atomic executed
  simp only [transact, failed, isStored]

theorem transact_of_rejects (isRejected : database.Rejects statements error) :
    database.transact statements = (.error error, database) :=
  transact_of_execute_error atomic (execute_eq_error_iff.mpr isRejected)

theorem transact_of_pass {written : Tables} (passed : database.refusals.Pass 0 statements)
    (applied : Statement.applyAll database.locale database.tables statements = .ok written) :
    database.transact statements = (.ok (), { database with tables := written }) := by
  have isTaken : database.connect.takeAll database.locale statements = .ok ⟨written, none⟩ := by
    rw [connect, Connection.takeAll_of_atomic atomic, applied]
    rfl
  rw [transact, execute_eq_ok_iff.mpr ⟨passed, isTaken⟩]

/-- A transaction is rejected, or its statements are carried out. -/
theorem transact_cases :
    (∃ error, (database.execute 0 database.connect statements).1 = .error error ∧
        database.transact statements = (.error error, database)) ∨
      ∃ written, database.refusals.Pass 0 statements ∧
        Statement.applyAll database.locale database.tables statements = .ok written ∧
        database.transact statements = (.ok (), { database with tables := written }) := by
  cases executed : database.execute 0 database.connect statements with
  | mk outcome after =>
      cases outcome with
      | error error =>
          have failed : (database.execute 0 database.connect statements).1 = .error error := by
            rw [executed]
          exact .inl ⟨error, rfl, transact_of_execute_error atomic failed⟩
      | ok =>
          obtain ⟨passed, isTaken⟩ := execute_eq_ok_iff.mp executed
          rw [connect, Connection.takeAll_of_atomic atomic] at isTaken
          cases applied : Statement.applyAll database.locale database.tables statements with
          | error rejection => rw [applied] at isTaken; cases isTaken
          | ok written =>
              exact .inr ⟨written, passed, rfl, transact_of_pass atomic passed applied⟩

theorem transact_allOrNothing : database.AllOrNothing statements
    (fun _ written => written = statements.foldl Statement.effect database.tables)
    (database.transact statements) where
  refused := by
    intro place statement isListed isRefused
    rcases transact_cases atomic with ⟨error, _, isOutcome⟩ | ⟨_, passed, _⟩
    · exact ⟨error, isOutcome⟩
    · exact absurd (by simpa using passed place statement isListed) isRefused
  rejected := fun _ => transact_of_rejects atomic
  carriedOut := by
    intro noneRejected
    rcases transact_cases atomic with ⟨error, failed, _⟩ | ⟨written, _, applied, isOutcome⟩
    · exact absurd (execute_eq_error_iff.mp failed) (noneRejected error)
    · exact ⟨(), written, isOutcome, Statement.eq_foldl_effect_of_applyAll applied⟩

end Atomic

theorem transact_singleton_of_error {rejection : Rejection} (inner : statement.Inner)
    (passed : database.refusals.Pass 0 [statement])
    (isRejected : statement.apply database.locale database.tables = .error rejection) :
    database.transact [statement] = (.error (statement.failure rejection), database) := by
  have answered : database.answer 0 database.connect statement = .error rejection := by
    rw [answer, (Refusals.pass_cons.mp passed).1]
    change database.connect.take database.locale statement = _
    rw [Connection.take_of_inner _ inner]
    change (statement.apply database.locale database.tables).map _ = _
    rw [isRejected]
    rfl
  exact transact_of_rejects (.single inner)
    ⟨[], statement, [], rfl, rejected_nil.mpr ⟨rejection, answered, rfl⟩⟩

section Consequences

variable {Value Result : Type} {database : Database} {statements : List Statement}
  {written other : Value → Tables → Prop} {outcome : Except ServiceError Value × Database}
  (isWhole : database.AllOrNothing statements written outcome)

include isWhole

theorem AllOrNothing.mono (known : ∀ value after, written value after → other value after) :
    database.AllOrNothing statements other outcome where
  refused := isWhole.refused
  rejected := isWhole.rejected
  carriedOut := by
    intro noneRejected
    obtain ⟨value, after, isOutcome, isWritten⟩ := isWhole.carriedOut noneRejected
    exact ⟨value, after, isOutcome, known value after isWritten⟩

theorem AllOrNothing.map (answer : Value → Result) :
    database.AllOrNothing statements
      (fun result after => ∃ value, written value after ∧ answer value = result)
      (outcome.1.map answer, outcome.2) where
  refused := by
    intro place statement isListed isRefused
    obtain ⟨error, rfl⟩ := isWhole.refused place statement isListed isRefused
    exact ⟨error, rfl⟩
  rejected := by
    intro error isRejected
    rw [isWhole.rejected error isRejected]
    rfl
  carriedOut := by
    intro noneRejected
    obtain ⟨value, after, rfl, isWritten⟩ := isWhole.carriedOut noneRejected
    exact ⟨answer value, after, rfl, value, isWritten, rfl⟩

end Consequences

end Database

end Rolebook
