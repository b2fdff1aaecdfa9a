import ContextSnap.Lib.Bytes

/-!
# A small relational store

Tables with typed columns, primary keys and cascading foreign keys, and the statements a program
prepares against them: positional parameters, a condition on the rows, an order, a limit. A value of
a storage class other than its column's is not converted, as SQLite would, but refused.

Rows that a statement does not order are in the order of their insertion, and so are rows that its
order does not tell apart.
-/

namespace ContextSnap.Sql

/-! ### Values -/

inductive SqlValue where
  | null
  | integer (i : Int64)
  | real (d : Float)
  | text (s : Bytes)
  deriving DecidableEq

instance : Inhabited SqlValue := ⟨.null⟩

namespace SqlValue

/-- `sqlite3_bind_double`, which makes NULL of a NaN. -/
def ofDouble (d : Float) : SqlValue := if d.isNaN then .null else .real d

def ofBool (b : Bool) : SqlValue := .integer (if b then 1 else 0)

/-- `sqlite3_bind_text` of a string, or NULL without one. -/
def ofOptional : Option Bytes → SqlValue
  | some s => .text s
  | none => .null

def toInt64 : SqlValue → Int64
  | .integer i => i
  | _ => 0

def toDouble : SqlValue → Float
  | .real d => d
  | _ => 0.0

def toText : SqlValue → Bytes
  | .text s => s
  | _ => []

/-- The order of the storage classes in a comparison. -/
def rank : SqlValue → Nat
  | .null => 0
  | .integer _ => 1
  | .real _ => 2
  | .text _ => 3

/-- The order of `ORDER BY` and of the comparison operators: NULL, then numbers, then texts by their
bytes. REALs, which no statement compares, count as one value behind the integers. -/
def le (value other : SqlValue) : Bool :=
  match value, other with
  | .integer i, .integer j => i ≤ j
  | .text s, .text t => s ≤ t
  | value, other => value.rank ≤ other.rank

end SqlValue

/-- Whether a byte continues a UTF-8 character. -/
def isContinuation (c : UInt8) : Bool := 0x80 ≤ c && c < 0xC0

/-- `text LIKE pattern`: `%` stands for any text and `_` for one character, and letters of ASCII match
in either case. -/
def like : Bytes → Bytes → Bool
  | [], text => text.isEmpty
  | 37 :: pattern, text => text.tails.any (like pattern)
  | 95 :: pattern, text =>
      match text with
      | _ :: rest => like pattern (rest.dropWhile isContinuation)
      | [] => false
  | c :: pattern, text =>
      match text with
      | d :: rest => toLower c == toLower d && like pattern rest
      | [] => false

/-! ### Schemas -/

inductive StorageClass where
  | integer | real | text
  deriving DecidableEq

structure Column where
  name : String
  storage : StorageClass
  nullable : Bool := false
  default : SqlValue := .null
  check : SqlValue → Bool := fun _ => true

/-- A value as it is stored: a REAL that is zero loses its sign. -/
def stored : SqlValue → SqlValue
  | .real d => .real (if d == 0.0 then 0.0 else d)
  | value => value

/-- NOT NULL, the storage class and the CHECK constraint. -/
def Column.admits (column : Column) (value : SqlValue) : Bool :=
  match value, column.storage with
  | .null, _ => column.nullable
  | .integer _, .integer | .real _, .real | .text _, .text => column.check value
  | _, _ => false

/-- A foreign key with ON DELETE CASCADE. -/
structure ForeignKey (T : Type) where
  columns : List String
  parent : T
  parentColumns : List String

structure TableSchema (T : Type) where
  columns : List Column
  primaryKey : List String
  foreignKeys : List (ForeignKey T)

abbrev Schema (T : Type) := T → TableSchema T

/-- A row gives the value of a column by its name. -/
abbrev Row := String → SqlValue

/-- The rows of every table. -/
abbrev Tables (T : Type) := T → List Row

/-- The values of some columns. -/
def Row.key (row : Row) (columns : List String) : List SqlValue := columns.map row

/-! ### Statements -/

inductive Violation where
  | column | unique | foreignKey
  deriving DecidableEq, Repr

section Statements

variable {T : Type}

/-- The value bound to the parameter `?index`, where nothing bound is NULL. -/
def param (values : List SqlValue) (index : Nat) : SqlValue := values.getD (index - 1) .null

/-- A WHERE clause, which may look at other tables. -/
abbrev Condition (T : Type) := Tables T → List SqlValue → Row → Bool

inductive Dml (T : Type) where
  | insert (table : T) (columns : List String)
  | update (table : T) (columns : List String) (condition : Condition T)
  | delete (table : T) (condition : Condition T)

structure Select (T : Type) where
  columns : List String
  source : Tables T → List Row
  condition : Condition T := fun _ _ _ => true
  le : Row → Row → Bool := fun _ _ => true
  limit : List SqlValue → Option Nat := fun _ => none
  offset : List SqlValue → Nat := fun _ => 0

/-- The rows of a SELECT, each as the values of its columns. -/
def Select.rows (select : Select T) (tables : Tables T) (values : List SqlValue) :
    List (List SqlValue) :=
  let selected := (select.source tables).filter (select.condition tables values)
  let ordered := (selected.mergeSort select.le).drop (select.offset values)
  let limited := match select.limit values with
    | some limit => ordered.take limit
    | none => ordered
  limited.map (·.key select.columns)

variable [DecidableEq T] (schema : Schema T)

/-- The row of an INSERT: the bound columns, and the defaults of the others. -/
def insertedRow (table : T) (columns : List String) (values : List SqlValue) : Row := fun name =>
  match (schema table).columns.find? (·.name == name) with
  | none => .null
  | some column => stored (((columns.zip values).lookup name).getD column.default)

def admitsColumns (table : T) (row : Row) : Bool :=
  (schema table).columns.all fun column => column.admits (row column.name)

/-- A row of `parent` that a foreign key of `row` points to. -/
def refersTo (foreignKey : ForeignKey T) (row parent : Row) : Bool :=
  row.key foreignKey.columns == parent.key foreignKey.parentColumns

def hasParents (tables : Tables T) (table : T) (row : Row) : Bool :=
  (schema table).foreignKeys.all fun foreignKey =>
    (tables foreignKey.parent).any (refersTo foreignKey row)

def isTaken (tables : Tables T) (table : T) (row : Row) : Bool :=
  (schema table).primaryKey != []
    && (tables table).any fun other =>
      other.key (schema table).primaryKey == row.key (schema table).primaryKey

def insertRow (tables : Tables T) (table : T) (row : Row) : Except Violation (Tables T) :=
  if !admitsColumns schema table row then .error .column
  else if isTaken schema tables table row then .error .unique
  else if !hasParents schema tables table row then .error .foreignKey
  else .ok (Function.update tables table (tables table ++ [row]))

/-- `row` with the listed columns set to the first values. -/
def updatedRow (columns : List String) (values : List SqlValue) (row : Row) : Row := fun name =>
  match (columns.zip values).lookup name with
  | some value => stored value
  | none => row name

/-- UPDATE of columns that no key mentions. -/
def updateRows (tables : Tables T) (table : T) (columns : List String) (values : List SqlValue)
    (matching : Row → Bool) : Except Violation (Tables T) :=
  let admitted (row : Row) : Bool := (schema table).columns.all fun column =>
    !columns.contains column.name || column.admits (updatedRow columns values row column.name)
  if ((tables table).filter matching).all admitted then
    .ok (Function.update tables table
      ((tables table).map fun row => if matching row then updatedRow columns values row else row))
  else
    .error .column

/-- Whether a row goes when the rows in `gone` do, following the foreign keys `depth` times. -/
def doomed (tables : Tables T) (gone : T → Row → Bool) : Nat → T → Row → Bool
  | 0, table, row => gone table row
  | depth + 1, table, row =>
      gone table row || (schema table).foreignKeys.any fun foreignKey =>
        (tables foreignKey.parent).any fun parent =>
          refersTo foreignKey row parent && doomed tables gone depth foreignKey.parent parent

/-- DELETE with its cascade, for foreign keys in chains of at most `depth`. -/
def deleteRows (depth : Nat) (tables : Tables T) (table : T) (matching : Row → Bool) : Tables T :=
  let gone (table' : T) (row : Row) : Bool := decide (table' = table) && matching row
  fun table' => (tables table').filter fun row => !doomed schema tables gone depth table' row

end Statements

end ContextSnap.Sql
