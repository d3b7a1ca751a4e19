import Parley.Json.Listing
import Parley.Program

/-!
A database of named tables.

Rows are objects; a column that a row does not have counts as null. Each request is answered at once
(`Database.answer`): a selection gives the rows that pass all its filters, an insertion puts a row
at the end, and a change writes columns into the rows that pass.
-/

namespace Parley

open Number

/-- A row of a table. -/
abbrev Row := Fields

/-- The value in a column of a row. -/
def Row.cell (row : Row) (column : String) : Json := (Dictionary.find? row column).getD .null

/-- The value in a column that the row has to have. -/
def Row.require (row : Row) (column : String) : Except Failure Json :=
  match Dictionary.find? row column with
  | some v => .ok v
  | none => .error (.missingColumn column)

/-- What a row has to pass. -/
inductive Filter where
  /-- The column has the value. -/
  | equal (column : String) (value : Json)
  /-- The text in the column is not before the given one. -/
  | atLeast (column text : String)
  /-- The text in the column is not behind the given one. -/
  | atMost (column text : String)

/-- Whether a row passes a filter. -/
def Filter.holds (row : Row) : Filter → Bool
  | equal column value => (row.cell column).same value
  | atLeast column text => decide (text ≤ (row.cell column).text)
  | atMost column text => decide ((row.cell column).text ≤ text)

/-- What a database is asked. -/
inductive Request where
  /-- The rows that pass, in their order or in the order of a column. -/
  | select (table : String) (filters : List Filter) (order : Option String := none)
  /-- A new row. -/
  | insert (table : String) (row : Row)
  /-- Columns to write into the rows that pass. -/
  | update (table : String) (changes : Fields) (filters : List Filter)

/-- Whether a value stands before another or level with it: null first, numbers by value, texts by
their characters. -/
def Json.precedes (a b : Json) : Bool :=
  match a, b with
  | .null, _ => true
  | _, .null => false
  | .str x, .str y => decide (x ≤ y)
  | a, b => match a.number?, b.number? with
    | some (.inl m), some (.inl n) => decide (m ≤ n)
    | some (.inl m), some (.inr y) => (Binary64.ofInt m).le y
    | some (.inr x), some (.inl n) => x.le (.ofInt n)
    | some (.inr x), some (.inr y) => x.le y
    | _, _ => true

/-- Named tables. -/
structure Database where
  tables : Dictionary (List Row) := []
  /-- Whether an insertion leaves the new row untold. -/
  silent : Bool := false

namespace Database

/-- The rows of a table; there are none in one that does not exist. -/
def rows (db : Database) (table : String) : List Row := (Dictionary.find? db.tables table).getD []

/-- The database with other rows in a table. -/
def setRows (db : Database) (table : String) (rows : List Row) : Database :=
  { db with tables := Dictionary.put db.tables table rows }

/-- Whether a row passes all filters. -/
def passes (filters : List Filter) (row : Row) : Bool := filters.all (·.holds row)

/-- The questions put to a database: each is answered with rows. -/
def Access : Interface := ⟨Request, fun _ => List Row⟩

/-- A row with other values in some of its columns. -/
def changed (changes : Fields) (row : Row) : Row := Dictionary.update row changes

/-- Answers a request. A table comes to be when it is first asked for. -/
def answer : Request → Database → List Row × Database
  | .select table filters order, db =>
    let found := (db.rows table).filter (passes filters)
    let sorted := match order with
      | none => found
      | some column => found.mergeSort fun a b => (a.cell column).precedes (b.cell column)
    (sorted, db.setRows table (db.rows table))
  | .insert table row, db =>
    (if db.silent then [] else [row], db.setRows table (db.rows table ++ [row]))
  | .update table changes filters, db =>
    let rows := db.rows table
    ((rows.filter (passes filters)).map (changed changes), db.setRows table
      (rows.map fun row => if passes filters row then changed changes row else row))

/-- Puts a request. -/
def put (q : Request) : Program Access (List Row) := Program.call q

/-- Runs a program on a database. -/
def run {α : Type} (p : Program Access α) (db : Database) : Except Failure α × Database :=
  Program.run answer p db

end Database

end Parley
