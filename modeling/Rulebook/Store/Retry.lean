import Rulebook.Store.Query

/-!
# Retries

Reads through a session whose statements may fail. A read that meets a passing failure is made
again, at most three times in all, with a wait before each further try that doubles from half a
second. Any other failure, and the third passing one, ends the read.
-/

namespace Rulebook

/-- How a statement can fail, with what is said about the failure. -/
inductive StoreFault where
  /-- The connection was lost; the failure may pass. -/
  | operational (text : String)
  /-- The statement is wrong. -/
  | programming (text : String)
  /-- Anything else. -/
  | other (text : String)
  deriving DecidableEq, Repr

/-- The failure may pass. -/
def StoreFault.isPassing : StoreFault → Bool
  | .operational _ => true
  | _ => false

/-! ## Sessions -/

/-- What a session is asked for. -/
inductive Statement where
  /-- The rule set of a number. -/
  | ruleSet (id : Int)
  /-- The mapped attribute of a number. -/
  | attribute (id : Int)
  /-- Rows of the catalog, in display order. -/
  | catalog (offset limit : Int)
  /-- The values of the given numbers, in display order. -/
  | values (ids : List Int)
  /-- Values of a catalog attribute that are found by a search term if there is one, in display
  order. -/
  | listed (catalogId : Int) (search : Option String) (offset limit : Int)
  deriving DecidableEq, Repr

/-- A session with the store. -/
structure Session (Row : Type) where
  /-- The rows that a statement yields. -/
  rows : Statement → List Row
  /-- What the statements meet, the first one first: a failure, or none. -/
  weather : Nat → Option StoreFault
  /-- How many statements have been executed. -/
  executed : Nat

namespace Session

variable {Row : Type}

/-- The session after so many further statements. -/
def advance (s : Session Row) (n : Nat) : Session Row := { s with executed := s.executed + n }

/-- Executes a statement. -/
def execute (s : Session Row) (q : Statement) : Except StoreFault (List Row) × Session Row :=
  match s.weather s.executed with
  | none => (.ok (s.rows q), s.advance 1)
  | some f => (.error f, s.advance 1)

end Session

/-! ## Trying again -/

/-- How work went that may have been tried more than once. -/
structure Attempted (State α : Type) where
  outcome : Except StoreFault α
  /-- The state after the last try. -/
  after : State
  /-- The waits between the tries, in milliseconds. -/
  waits : List Nat

/-- When work that has failed is tried again. -/
structure RetryPolicy where
  /-- The greatest number of tries. -/
  tries : Nat
  /-- The failures after which the work is tried again. -/
  retries : StoreFault → Bool
  /-- The wait after a try, in milliseconds, the first being try zero. -/
  wait : Nat → Nat

namespace RetryPolicy

variable {State α : Type}

/-- Does the work, with so many tries left after this one. -/
def tryFrom (p : RetryPolicy) (work : State → Except StoreFault α × State) :
    (left attempt : Nat) → State → Attempted State α
  | 0, _, s => ⟨(work s).1, (work s).2, []⟩
  | left + 1, attempt, s =>
    match work s with
    | (.ok a, s) => ⟨.ok a, s, []⟩
    | (.error f, s) =>
      if p.retries f then
        let later := tryFrom p work left (attempt + 1) s
        { later with waits := p.wait attempt :: later.waits }
      else ⟨.error f, s, []⟩

/-- Does the work until a try settles it. The tries are counted afresh for each piece of work. -/
def run (p : RetryPolicy) (work : State → Except StoreFault α × State) (s : State) :
    Attempted State α :=
  p.tryFrom work (p.tries - 1) 0 s

/-- The policy of the reads. -/
def ofReads : RetryPolicy where
  tries := 3
  retries := StoreFault.isPassing
  wait attempt := max 500 (min 4000 (500 * Nat.pow 2 attempt))

end RetryPolicy

/-! ## The five reads -/

/-- A read of the store. -/
inductive StoreRead where
  | ruleSet (id : Int)
  | attribute (id : Int)
  | catalogPage (index size : Int)
  | values (ids : List Int)
  | valuePage (catalogId index size : Int) (search : Option String)
  deriving DecidableEq, Repr

/-- The answer of a read. -/
inductive ReadAnswer (Row : Type) where
  | one (row : Option Row)
  | many (rows : List Row)
  | page (p : Page Row)

namespace StoreRead

variable {Row : Type}

/-- The statement that a read takes. To look up no numbers takes none. -/
def statement? : StoreRead → Option Statement
  | .ruleSet id => some (.ruleSet id)
  | .attribute id => some (.attribute id)
  -- one row more than the page holds tells whether another page follows
  | .catalogPage index size => some (.catalog (index * size) (size + 1))
  | .values [] => none
  | .values (id :: ids) => some (.values (id :: ids))
  | .valuePage catalogId index size search =>
    some (.listed catalogId (search.filter fun t => !t.isEmpty) (index * size) (size + 1))

/-- What a read makes of the rows that its statement yields. -/
def answer (r : StoreRead) (rows : List Row) : ReadAnswer Row :=
  match r with
  -- a number is that of one row at most, so nothing is left out here
  | .ruleSet _ => .one rows.head?
  | .attribute _ => .one rows.head?
  | .catalogPage index size => .page (pageOfSeen index size rows)
  | .values _ => .many rows
  | .valuePage _ index size _ => .page (pageOfSeen index size rows)

/-- One try of a read. -/
def once (r : StoreRead) (s : Session Row) : Except StoreFault (ReadAnswer Row) × Session Row :=
  match r.statement? with
  | none => (.ok (r.answer []), s)
  | some q =>
    let (rows, s) := s.execute q
    (rows.map r.answer, s)

/-- Performs a read. -/
def perform (r : StoreRead) (s : Session Row) : Attempted (Session Row) (ReadAnswer Row) :=
  RetryPolicy.ofReads.run r.once s

end StoreRead

/-- Performs reads one after another. -/
def Session.performAll {Row : Type} (s : Session Row) :
    List StoreRead → List (Attempted (Session Row) (ReadAnswer Row))
  | [] => []
  | r :: rest => r.perform s :: performAll (r.perform s).after rest

end Rulebook
