import Rulebook.Store.Basic
import Rulebook.Validation.Scalars

/-!
# The life of a store

Opening and closing a store, making and dropping its tables, and storing rule sets. A store has one
connection, and opening always gives a new store without tables.

Rule sets are stored in sessions. A session works in a transaction: it sees what it has inserted
itself, and what it has not committed is gone when it is closed. A session that fails is rolled back
and closed, and the failure goes on to the caller.
-/

namespace Rulebook

open Rulebook.Checked (fitsWord)

/-- A step in the life of a store. -/
inductive StoreStep where
  | openStore
  | closeStore
  | createTables
  | dropTables
  /-- Inserts a rule set in a session, which may be committed, and may fail after that. -/
  | insert (ruleSet : RuleSet) (commit fails : Bool)
  /-- Counts the rule sets. -/
  | count
  deriving DecidableEq, Repr

/-- How a step can fail. -/
inductive StepFault where
  /-- No store is open. -/
  | notOpen
  /-- The store has no tables. -/
  | noTables
  /-- A row of the same number is stored. -/
  | duplicate
  /-- A number of a row does not fit into sixty-four bits. -/
  | outOfRange
  /-- The session failed after its work. -/
  | sessionFailed
  deriving DecidableEq, Repr

/-- The message about a store that is not open. -/
def notOpenMessage : String := "Rule store is not initialized, call init_db() first"

/-- The answer of a step. -/
inductive StepAnswer where
  | done
  | counted (n : Nat)
  deriving DecidableEq, Repr

/-! ## Tables -/

/-- The tables of rule sets and of rules, given by the numbers of their rows. -/
structure Tables where
  ruleSets : List Int
  rules : List Int
  deriving DecidableEq, Repr

namespace Tables

/-- Tables without rows. -/
def empty : Tables := ⟨[], []⟩

/-- Inserts a row of a number into a table. The row may hold further numbers. -/
def insertRow (id : Int) (further : List Int) (table : List Int) : Except StepFault (List Int) :=
  if !(id :: further).all fitsWord then .error .outOfRange
  else if table.contains id then .error .duplicate
  else .ok (table ++ [id])

/-- Inserts the rows of rules one after another. A row that is refused ends the work, and the rows
before it are in the table by then. -/
def insertRules : List Rule → Tables → Except StepFault Unit × Tables
  | [], t => (.ok (), t)
  | r :: rest, t =>
    match insertRow r.id [r.displayOrder] t.rules with
    | .error f => (.error f, t)
    | .ok rules => insertRules rest { t with rules := rules }

/-- Inserts the row of a rule set, and then those of its rules. -/
def insertRuleSet (s : RuleSet) (t : Tables) : Except StepFault Unit × Tables :=
  match insertRow s.id [] t.ruleSets with
  | .error f => (.error f, t)
  | .ok ruleSets => insertRules s.rules { t with ruleSets := ruleSets }

end Tables

/-! ## Transactions -/

/-- A transaction on the connection of a store that may have tables. -/
structure Transaction where
  /-- The tables as they have been committed. -/
  committed : Option Tables
  /-- The tables as the transaction sees them. -/
  current : Option Tables

namespace Transaction

/-- A transaction that has done nothing. -/
def begin (tables : Option Tables) : Transaction := ⟨tables, tables⟩

/-- Keeps what has been done. -/
def commit (t : Transaction) : Transaction := { t with committed := t.current }

/-- Takes back what has not been committed. -/
def rollback (t : Transaction) : Transaction := { t with current := t.committed }

/-- The tables after the transaction has been ended. What it has not committed is taken back. -/
def close (t : Transaction) : Option Tables := t.rollback.current

/-- Inserts a rule set. -/
def insert (s : RuleSet) (t : Transaction) : Except StepFault Unit × Transaction :=
  match t.current with
  | none => (.error .noTables, t)
  | some tables =>
    let (outcome, tables) := tables.insertRuleSet s
    (outcome, { t with current := some tables })

/-- Inserts a rule set, commits that if it is wanted, and then fails if that is wanted. -/
def store (s : RuleSet) (commit fails : Bool) (t : Transaction) :
    Except StepFault StepAnswer × Transaction :=
  match t.insert s with
  | (.error f, t) => (.error f, t)
  | (.ok (), t) =>
    (if fails then .error .sessionFailed else .ok .done, if commit then t.commit else t)

/-- Counts the rule sets. -/
def count (t : Transaction) : Except StepFault StepAnswer × Transaction :=
  match t.current with
  | none => (.error .noTables, t)
  | some tables => (.ok (.counted tables.ruleSets.length), t)

end Transaction

/-! ## The store -/

/-- The state between steps: no store is open, or one is, which may have tables. -/
inductive StoreState where
  | closed
  | opened (tables : Option Tables)
  deriving DecidableEq, Repr

namespace StoreState

/-- Changes the tables in a transaction that is committed. -/
def alter (change : Option Tables → Option Tables) (tables : Option Tables) :
    Except StepFault StepAnswer × Option Tables :=
  let t := Transaction.begin tables
  (.ok .done, { t with current := change t.current }.commit.close)

/-- Works in a session of its own. -/
def inSession (work : Transaction → Except StepFault StepAnswer × Transaction)
    (tables : Option Tables) : Except StepFault StepAnswer × Option Tables :=
  match work (.begin tables) with
  | (.ok a, t) => (.ok a, t.close)
  | (.error f, t) => (.error f, t.rollback.close)

/-- Works on the store that is open. -/
def withStore (state : StoreState)
    (work : Option Tables → Except StepFault StepAnswer × Option Tables) :
    StoreState × Except StepFault StepAnswer :=
  match state with
  | closed => (closed, .error .notOpen)
  | opened tables => (opened (work tables).2, (work tables).1)

/-- One step: the state after it, and its answer. -/
def step (state : StoreState) : StoreStep → StoreState × Except StepFault StepAnswer
  | .openStore => (opened none, .ok .done)
  | .closeStore => (closed, .ok .done)
  | .createTables => state.withStore (alter fun tables => some (tables.getD .empty))
  | .dropTables => state.withStore (alter fun _ => none)
  | .insert s commit fails => state.withStore (inSession (Transaction.store s commit fails))
  | .count => state.withStore (inSession Transaction.count)

end StoreState

/-! ## Runs -/

/-- A step that has been done, with its answer. -/
structure Done where
  step : StoreStep
  answer : Except StepFault StepAnswer

/-- Does steps one after another. -/
def StoreState.run (state : StoreState) : List StoreStep → List Done
  | [] => []
  | s :: rest => ⟨s, (state.step s).2⟩ :: run (state.step s).1 rest

end Rulebook
