import ContextSnap.Storage.SnapshotRepository

/-!
# Opening a database

What `SnapshotRepository::open` does to a file before the repository is there: the connection is set
up and the migrations that the file has not seen are applied, each in a transaction of its own. The
table of the search index needs a module that SQLite may have been built without.
-/

namespace ContextSnap.Storage

open Sql

/-! ### Definitions -/

/-- A statement of a migration. CREATE does nothing if there is something of that name. -/
inductive Definition where
  | createTable (name : String) (definition : TableSchema Table)
  | createIndex (name table : String) (columns : List String)
  /-- `CREATE VIRTUAL TABLE … USING fts5`. -/
  | createFullTextTable (name : String) (definition : TableSchema Table)
  | createTrigger (name table : String)
  | createView (name : String)
  | addColumn (table : String) (column : Column)

inductive Entry where
  | table (definition : TableSchema Table)
  | fullTextTable (definition : TableSchema Table)
  | index
  | trigger
  | view

/-- The schema of a database, by name. -/
abbrev Catalog := List (String × Entry)

def Catalog.table (catalog : Catalog) (name : String) : Option (TableSchema Table) :=
  match catalog.lookup name with
  | some (.table definition) | some (.fullTextTable definition) => some definition
  | _ => none

def Catalog.create (catalog : Catalog) (name : String) (entry : Entry) : Catalog :=
  if (catalog.lookup name).isSome then catalog else catalog ++ [(name, entry)]

def Entry.addColumn (column : Column) : Entry → Entry
  | .table definition => .table { definition with columns := definition.columns ++ [column] }
  | entry => entry

def Catalog.addColumn (catalog : Catalog) (table : String) (column : Column) : Catalog :=
  catalog.map fun entry => if entry.1 = table then (entry.1, entry.2.addColumn column) else entry

def Table.name : Table → String
  | .snapshots => "snapshots"
  | .monitors => "monitors"
  | .windows => "windows"
  | .tabs => "tabs"
  | .cursorStates => "cursor_states"
  | .snapshotSearch => "snapshot_search"
  | .restoreEvents => "restore_events"

/-- What SQLite has against a statement. -/
inductive Refusal where
  | noTable (name : String)
  | noColumn (name : String)
  | duplicateColumn (name : String)
  | nullDefault
  | noFullText

def Failure.ofRefusal : Refusal → Failure
  | .noTable name => ⟨1, str "no such table: " ++ str name⟩
  | .noColumn name => ⟨1, str "no such column: " ++ str name⟩
  | .duplicateColumn name => ⟨1, str "duplicate column name: " ++ str name⟩
  | .nullDefault => ⟨1, str "Cannot add a NOT NULL column with default value NULL"⟩
  | .noFullText => ⟨1, str "no such module: fts5"⟩

/-! ### The state of a database -/

/-- What a database holds besides the rows of the repository. -/
structure Header where
  catalog : Catalog := []
  userVersion : Int32 := 0
  /-- The rows of `schema_migrations`. -/
  applied : List Row := []

/-- A connection to a database. -/
structure Store where
  connection : Connection
  header : Header := {}
  /-- The header before the open transaction, if there is one. -/
  savedHeader : Option Header := none

/-- A database that has just been created. -/
def emptyStore : Store := { connection := { tables := fun _ => [] } }

def Store.define (s : Store) (catalog : Catalog) : Store :=
  { s with header := { s.header with catalog } }

/-- The rows of a table with a column more. -/
def addDefault (tables : Tables Table) (table : String) (column : Column) : Tables Table := fun t =>
  if t.name = table then
    (tables t).map fun row => Function.update row column.name column.default
  else
    tables t

section Definitions

variable (fts5 : Bool)

def runDefinition (definition : Definition) (s : Store) : Except Refusal Store :=
  let catalog := s.header.catalog
  match definition with
  | .createTable name definition => .ok (s.define (catalog.create name (.table definition)))
  | .createIndex name table columns =>
      match catalog.table table with
      | none => .error (.noTable ("main." ++ table))
      | some definition =>
          match columns.find? fun column => definition.columns.all (·.name != column) with
          | some column => .error (.noColumn column)
          | none => .ok (s.define (catalog.create name .index))
  | .createFullTextTable name definition =>
      if fts5 ∨ (catalog.lookup name).isSome then
        .ok (s.define (catalog.create name (.fullTextTable definition)))
      else
        .error .noFullText
  | .createTrigger name table =>
      match catalog.table table with
      | none => .error (.noTable ("main." ++ table))
      | some _ => .ok (s.define (catalog.create name .trigger))
  | .createView name => .ok (s.define (catalog.create name .view))
  | .addColumn table column =>
      match catalog.table table with
      | none => .error (.noTable table)
      | some definition =>
          if definition.columns.any (·.name = column.name) then
            .error (.duplicateColumn column.name)
          else if column.nullable = false ∧ column.default = .null then
            .error .nullDefault
          else
            .ok
              { s.define (catalog.addColumn table column) with
                connection :=
                  { s.connection with tables := addDefault s.connection.tables table column } }

/-- A script stops at the first statement that fails. The ones before it have been run. -/
def runDefinitions : List Definition → Store → Except Failure Unit × Store
  | [], s => (.ok (), s)
  | definition :: rest, s =>
      match runDefinition fts5 definition s with
      | .ok s' => runDefinitions rest s'
      | .error refusal => (.error (.ofRefusal refusal), s)

/-- A statement can be prepared if its tables are there and SQLite has their modules. -/
def prepareTables (catalog : Catalog) : List String → Except Refusal Unit
  | [] => .ok ()
  | name :: rest =>
      match catalog.lookup name with
      | some (.table _) => prepareTables catalog rest
      | some (.fullTextTable _) =>
          if fts5 then prepareTables catalog rest else .error .noFullText
      | _ => .error (.noTable name)

end Definitions

/-! ### The migrations -/

structure Migration where
  version : Int32
  name : String
  sql : List Definition

/-- `INTEGER PRIMARY KEY` and three columns more. -/
def migrationColumns : List Column :=
  [integerColumn "version" none, textColumn "name" none, integerColumn "applied_at" none,
    textColumn "checksum"]

def schemaMigrations : TableSchema Table :=
  { columns := migrationColumns, primaryKey := ["version"], foreignKeys := [] }

/-- The columns that the third migration adds to `windows`. -/
def addedWindowColumns : List Column := [textColumn "launch_hint"]

/-- The columns that the third migration adds to `tabs`. -/
def addedTabColumns : List Column :=
  [integerColumn "last_accessed_at", textColumn "discard_reason", integerColumn "restore_priority",
    textColumn "session_blob_ref"]

/-- A table as it was before columns were added at its end. -/
def initialSchema (table : Table) (added : List Column := []) : TableSchema Table :=
  { schema table with
    columns := (schema table).columns.take ((schema table).columns.length - added.length) }

def initialTable (table : Table) (added : List Column := []) : Definition :=
  .createTable table.name (initialSchema table added)

def k001 : List Definition :=
  [.createTable "schema_migrations" schemaMigrations, initialTable .snapshots,
    initialTable .monitors, initialTable .windows addedWindowColumns,
    initialTable .tabs addedTabColumns, initialTable .cursorStates]

def k002 : List Definition :=
  [.createIndex "idx_snapshots_created_at" "snapshots" ["created_at"],
    .createIndex "idx_snapshots_favorite_created" "snapshots" ["favorite", "created_at"],
    .createIndex "idx_snapshots_automatic_created" "snapshots" ["automatic", "created_at"],
    .createIndex "idx_windows_snapshot" "windows" ["snapshot_id"],
    .createIndex "idx_windows_app_id" "windows" ["app_id"],
    .createIndex "idx_windows_browser" "windows" ["browser"],
    .createIndex "idx_tabs_snapshot" "tabs" ["snapshot_id"],
    .createIndex "idx_tabs_window" "tabs" ["snapshot_id", "window_id", "tab_index"],
    .createIndex "idx_monitors_snapshot" "monitors" ["snapshot_id"],
    .createFullTextTable Table.snapshotSearch.name (schema .snapshotSearch),
    .createTrigger "trg_snapshots_metadata_update" "snapshots",
    .createTrigger "trg_snapshots_delete_search" "snapshots",
    .createView "snapshot_summaries"]

def k003 : List Definition :=
  addedTabColumns.map (.addColumn "tabs") ++ addedWindowColumns.map (.addColumn "windows")
    ++ [.createTable Table.restoreEvents.name (schema .restoreEvents),
      .createIndex "idx_restore_events_snapshot" "restore_events" ["snapshot_id", "started_at"],
      .createIndex "idx_tabs_restore_priority" "tabs"
        ["snapshot_id", "restore_priority", "last_accessed_at"]]

def migrations : List Migration :=
  [⟨1, "initial", k001⟩, ⟨2, "indexes_fts", k002⟩, ⟨3, "tab_discard_state", k003⟩]

/-- The row of an `INSERT OR REPLACE`, where a NULL gives way to the default of its column. -/
def replacingRow (definition : TableSchema Table) (columns : List String)
    (values : List SqlValue) : Row := fun name =>
  match definition.columns.find? (·.name == name) with
  | none => .null
  | some column =>
      match ((columns.zip values).lookup name).getD column.default with
      | .null => if column.nullable then .null else stored column.default
      | value => stored value

/-- An `INSERT OR REPLACE`, which takes the rows with the same key away. -/
def replaceRow (definition : TableSchema Table) (row : Row) (rows : List Row) :
    Except Violation (List Row) :=
  if definition.columns.all fun column => column.admits (row column.name) then
    .ok ((rows.filter fun other =>
      other.key definition.primaryKey != row.key definition.primaryKey) ++ [row])
  else
    .error .column

/-! ### Calls into SQLite -/

structure DatabaseOptions where
  path : Bytes := []
  readOnly : Bool := false
  createIfMissing : Bool := true
  busyTimeoutMs : UInt32 := 3000
  cacheSizeKb : UInt32 := 4096

/-- Whether SQLite may create the file. -/
def DatabaseOptions.creates (options : DatabaseOptions) : Bool :=
  !options.readOnly && options.createIfMissing

/-- A call into SQLite that only `open` makes. -/
inductive SetupCall where
  /-- `sqlite3_open_v2` of a path with no file. -/
  | openFile (path : Bytes) (create : Bool)
  | pragmas (text : Bytes)
  | prepare (tables : List String)
  /-- The step of `PRAGMA user_version`. -/
  | userVersion
  | define (script : List Definition)
  /-- The step of the INSERT into `schema_migrations`. -/
  | record (values : List SqlValue)
  | setUserVersion (version : Int32)

abbrev SetupCall.Output : SetupCall → Type
  | .userVersion => Int32
  | _ => Unit

inductive StoreOp where
  | repository (op : Op)
  | setup (call : SetupCall)

abbrev StoreAnswer : StoreOp → Type
  | .repository op => Answer op
  | .setup call => Except Failure call.Output

def Store.counted (s : Store) : Store := { s with connection := s.connection.counted }

def cannotOpen : Failure := ⟨14, str "unable to open database file"⟩

/-- A transaction is about the header, too. -/
def Store.afterScript (s : Store) : Script → Store
  | .begin | .beginImmediate => { s with savedHeader := some s.header }
  | .commit => { s with savedHeader := none }
  | .rollback => { s with header := s.savedHeader.getD s.header, savedHeader := none }
  | .pragma => s

section Handler

variable (fts5 : Bool) (env : Environment)

/-- A call into SQLite that works on the database. -/
def storeCall {α : Type} (s : Store) (work : Store → Except Failure α × Store) :
    Except Failure α × Store :=
  match env.fault s.connection.calls with
  | some failure => (.error failure, s.counted)
  | none => work s.counted

def prepareIn (tables : List String) (s : Store) : Except Failure Unit × Store :=
  match prepareTables fts5 s.header.catalog tables with
  | .ok () => (.ok (), s)
  | .error refusal => (.error (.ofRefusal refusal), s)

def recordIn (values : List SqlValue) (s : Store) : Except Failure Unit × Store :=
  let row := replacingRow schemaMigrations ["version", "name", "applied_at", "checksum"] values
  match replaceRow schemaMigrations row s.header.applied with
  | .ok applied => (.ok (), { s with header := { s.header with applied } })
  | .error violation => (.error (.ofViolation violation), s)

def runSetup : (call : SetupCall) → Store → Except Failure call.Output × Store
  | .openFile _ create, s => (if create then .ok () else .error cannotOpen, s)
  | .pragmas _, s => (.ok (), s)
  | .prepare tables, s => prepareIn fts5 tables s
  | .userVersion, s => (.ok s.header.userVersion, s)
  | .define script, s => runDefinitions fts5 script s
  | .record values, s => recordIn values s
  | .setUserVersion version, s =>
      (.ok (), { s with header := { s.header with userVersion := version } })

/-- The triggers of a statement need no care: without the search index there is nothing that they
would change. -/
def repositoryHandler : (op : Op) → Store → Option (Answer op × Store)
  | .prepare tables, s => some (storeCall env s (prepareIn fts5 (tables.map Table.name)))
  | .exec script, s =>
      (handler env (.exec script) s.connection).map fun result =>
        match result.1 with
        | .ok () => (.ok (), { s with connection := result.2 }.afterScript script)
        | .error failure => (.error failure, { s with connection := result.2 })
  | op, s => (handler env op s.connection).map fun result =>
      (result.1, { s with connection := result.2 })

def storeHandler : (op : StoreOp) → Store → Option (StoreAnswer op × Store)
  | .repository op, s => repositoryHandler fts5 env op s
  | .setup call, s => some (storeCall env s (runSetup fts5 call))

end Handler

/-! ### Opening -/

abbrev Setup := ExceptT Error (Program StoreOp StoreAnswer)

/-- A call into SQLite, or its error. -/
def Setup.call (what context : String) (call : SetupCall) : Setup call.Output := do
  match ← (ExceptT.lift (Program.operation (StoreOp.setup call)) : Setup _) with
  | .ok value => pure value
  | .error failure => throw (sqliteError what context failure)

def Setup.attempt {α : Type} (program : Setup α) : Setup (Result α) := ExceptT.lift program.run

/-- What the repository's own programs do. -/
def Setup.repository {α : Type} (program : Repo α) : Setup α :=
  ExceptT.mk (Program.embed StoreOp.repository program.run)

def openPragmas (options : DatabaseOptions) : Bytes :=
  str "PRAGMA journal_mode = WAL;" ++ str "PRAGMA synchronous = NORMAL;"
    ++ str "PRAGMA foreign_keys = ON;" ++ str "PRAGMA temp_store = MEMORY;"
    ++ str "PRAGMA busy_timeout = " ++ decimal options.busyTimeoutMs.toNat
    ++ str ";PRAGMA cache_size = -" ++ decimal options.cacheSizeKb.toNat ++ str ";"

/-- `Database::open`, in a build without encryption. -/
def openDatabase (options : DatabaseOptions) : Setup Unit := do
  Setup.call "cannot open database" "storage.open" (.openFile options.path options.creates)
  Setup.call "exec failed" "storage.execute" (.pragmas (openPragmas options))

def userVersion : Setup Int32 := do
  Setup.call "prepare failed" "storage.prepare" (.prepare [])
  Setup.call "step failed" "storage.statement" .userVersion

/-- The statements of a migration and the note that it was applied. The empty checksum is bound as
NULL. -/
def migrationBody (migration : Migration) : Setup Unit := do
  Setup.call "exec failed" "storage.execute" (.define migration.sql)
  Setup.call "prepare failed" "storage.prepare" (.prepare ["schema_migrations"])
  let now ← Setup.repository (ask .now)
  Setup.call "step failed" "storage.statement" (.record
    [.integer migration.version.toInt64, .text (str migration.name), .integer (toUnixMillis now),
      .null])
  Setup.call "exec failed" "storage.execute" (.setUserVersion migration.version)

/-- The body of the loop in `Database::migrate`. -/
def applyMigration (migration : Migration) : Setup Unit := do
  let begun ← Setup.repository (attempt (exec .beginImmediate))
  let active := begun.toBool
  match ← Setup.attempt (migrationBody migration) with
  | .ok () => Setup.repository (commit active)
  | .error e =>
      Setup.repository (rollback active)
      throw e

def migrate : Setup Unit := do
  let current ← userVersion
  migrations.forM fun migration =>
    if migration.version ≤ current then pure () else applyMigration migration

/-- `SnapshotRepository::open`. -/
def openRepository (options : DatabaseOptions) : Setup Unit := do
  openDatabase options
  migrate

end ContextSnap.Storage
