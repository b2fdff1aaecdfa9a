import ContextSnap.Lib.Sql

/-!
# Rows that statements add and read

Inserted rows go to the end of their tables, so the tables after some inserts are the old ones with
rows appended. What an INSERT needs is stated for such tables, and a SELECT looks at the old and the
new rows one after the other.
-/

namespace ContextSnap.Sql

/-! ### The order of values -/

namespace SqlValue

theorem le_total (value other : SqlValue) : (value.le other || other.le value) = true := by
  cases value <;> cases other <;> simp [le, rank]
  case integer.integer i j => exact Int64.le_total i j
  case text.text s t => exact List.le_total s t

theorem le_trans {value other third : SqlValue} (h : value.le other = true)
    (h' : other.le third = true) : value.le third = true := by
  cases value <;> cases other <;> simp [le, rank] at h <;> cases third <;>
    simp [le, rank] at h' ⊢
  case integer.integer.integer i j k => exact Int64.le_trans h h'
  case text.text.text s t u => exact List.le_trans h h'

end SqlValue

section Append

variable {T : Type} [DecidableEq T] {schema : Schema T}

/-- The tables with rows added. -/
def appendRows (tables new : Tables T) : Tables T := fun table => tables table ++ new table

theorem appendRows_update (tables new : Tables T) (table : T) (row : Row) :
    Function.update (appendRows tables new) table (appendRows tables new table ++ [row])
      = appendRows tables (Function.update new table (new table ++ [row])) := by
  funext other
  by_cases h : other = table
  · subst h
    simp [appendRows]
  · simp [appendRows, h]

/-- An INSERT whose key is taken neither by an old row nor by one of the new ones. -/
theorem insertRow_append {tables new : Tables T} {table : T} {row : Row}
    (hadmits : admitsColumns schema table row = true)
    (hold : ∀ other ∈ tables table,
      other.key (schema table).primaryKey ≠ row.key (schema table).primaryKey)
    (hnew : ∀ other ∈ new table,
      other.key (schema table).primaryKey ≠ row.key (schema table).primaryKey)
    (hparents : ∀ foreignKey ∈ (schema table).foreignKeys,
      ∃ parent ∈ new foreignKey.parent, refersTo foreignKey row parent = true) :
    insertRow schema (appendRows tables new) table row
      = .ok (appendRows tables (Function.update new table (new table ++ [row]))) := by
  have htaken : isTaken schema (appendRows tables new) table row = false := by
    simp only [isTaken, appendRows, List.any_append, Bool.and_eq_false_iff, Bool.or_eq_false_iff,
      List.any_eq_false, beq_iff_eq]
    exact .inr ⟨hold, hnew⟩
  have hhas : hasParents schema (appendRows tables new) table row = true := by
    rw [hasParents, List.all_eq_true]
    intro foreignKey hkey
    obtain ⟨parent, hparent, hrefers⟩ := hparents foreignKey hkey
    exact List.any_eq_true.mpr ⟨parent, List.mem_append_right _ hparent, hrefers⟩
  rw [insertRow, hadmits, htaken, hhas, appendRows_update]
  rfl

end Append

/-! ### Constraints -/

/-- What the columns admit is seen from the values of the row in their order. -/
theorem admitsColumns_eq_zip {T : Type} (schema : Schema T) (table : T) (row : Row) :
    admitsColumns schema table row
      = ((schema table).columns.zip (row.key ((schema table).columns.map (·.name)))).all
          fun entry => entry.1.admits entry.2 := by
  rw [admitsColumns, Row.key, List.map_map]
  induction (schema table).columns with
  | nil => rfl
  | cons column columns ih =>
      simp only [List.all_cons, List.map_cons, List.zip_cons_cons, ih, Function.comp_apply]

section Constraints

variable {T : Type} {schema : TableSchema T} {rows : List Row}

/-- Rows that a table may hold, as far as its own constraints go. -/
structure Constrained (schema : TableSchema T) (rows : List Row) : Prop where
  admitted : ∀ row ∈ rows, ∀ column ∈ schema.columns, column.admits (row column.name) = true
  distinct : schema.primaryKey ≠ [] → (rows.map (·.key schema.primaryKey)).Nodup

theorem Constrained.sublist {fewer : List Row} (h : Constrained schema rows)
    (hfewer : fewer.Sublist rows) : Constrained schema fewer where
  admitted := fun row hrow => h.admitted row (hfewer.subset hrow)
  distinct := fun hkey => (h.distinct hkey).sublist (hfewer.map _)

/-- The value of a column that is NOT NULL and INTEGER. -/
theorem Constrained.integer (h : Constrained schema rows) {row : Row} (hrow : row ∈ rows)
    {column : Column} (hcolumn : column ∈ schema.columns) (hstorage : column.storage = .integer)
    (hnull : column.nullable = false) : ∃ i, row column.name = .integer i := by
  have hadmits := h.admitted row hrow column hcolumn
  cases hvalue : row column.name with
  | integer i => exact ⟨i, rfl⟩
  | null => simp [Column.admits, hvalue, hnull] at hadmits
  | real d => simp [Column.admits, hvalue, hstorage] at hadmits
  | text s => simp [Column.admits, hvalue, hstorage] at hadmits

end Constraints

end ContextSnap.Sql
