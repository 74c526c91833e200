import Mathlib.Data.List.Find
import DistrictAtlas.Proofs.Table.Resolution

/-!
# The order of columns does not matter

A table seen as its columns, each a name with the cells under it. What is resolved from a table
depends on the column that each field takes, and where names differ a field takes the same column
wherever this stands. So columns can change places, and columns that no field goes by can be added,
and the records stay as they are, or the same required fields are missing.
-/

namespace DistrictAtlas.Table

/-- A column of a table. -/
structure Column where
  /-- The cell of the header. -/
  name : String
  /-- The cells under it, row by row. -/
  cells : List String
deriving DecidableEq, Repr

/-- The columns of a table. A row that is too short has empty cells at its end. -/
def columnsOf (header : List String) (rows : List (List String)) : List Column :=
  header.mapIdx fun place name => ⟨name, rows.map (·.getD place "")⟩

/-- The column that a field takes: the first one with the first of the field's names that occurs. -/
def columnFor? (columns : List Column) (field : Field) : Option Column :=
  (field.aliases.map plainName).findSome? fun name =>
    columns.find? fun column => plainName column.name = name

/-- The records of a number of rows, each field taken from its column. -/
def recordsOf (columns : List Column) (number : Nat) : List Record :=
  (List.range number).map fun place => Record.ofFields fun field =>
    (columnFor? columns field).elim "" fun column => Text.trim (column.cells.getD place "")

/-- The place of the first of the names that the header has. -/
theorem findColumn_eq (header names : List String) :
    findColumn header names = names.findSome? fun name => header.findIdx? (· = name) := by
  induction names with
  | nil => rfl
  | cons name rest ih =>
    rw [findColumn, List.findSome?_cons]
    cases header.findIdx? (· = name) with
    | some index => rfl
    | none => exact ih

/-- What is found among things made of items, place by place, is made at the place where the item is
found. -/
theorem find?_mapIdx {α β : Type} (items : List α) (fallback : α) (make : Nat → α → β) (item : β → α)
    (hitem : ∀ place first, item (make place first) = first) (p : α → Bool) :
    (items.mapIdx make).find? (fun made => p (item made)) =
      (items.findIdx? p).map fun place => make place (items.getD place fallback) := by
  induction items generalizing make with
  | nil => rfl
  | cons first rest ih =>
    rw [List.mapIdx_cons, List.find?_cons, List.findIdx?_cons, hitem]
    cases p first with
    | true => rfl
    | false =>
      rw [ih (fun place => make (place + 1)) fun place => hitem (place + 1)]
      cases rest.findIdx? p <;> simp

/-- The column that a field takes stands at the place that is found in the header. -/
theorem columnFor?_columnsOf (header : List String) (rows : List (List String)) (field : Field) :
    columnFor? (columnsOf header rows) field =
      (column? (header.map plainName) field).map fun place =>
        ⟨header.getD place "", rows.map (·.getD place "")⟩ := by
  have hfind : ∀ name, (columnsOf header rows).find? (fun column => plainName column.name = name) =
      ((header.map plainName).findIdx? (· = name)).map fun place =>
        ⟨header.getD place "", rows.map (·.getD place "")⟩ := by
    intro name
    have hplace : (header.map plainName).findIdx? (· = name) =
        header.findIdx? fun cell => plainName cell = name := by
      rw [List.findIdx?_map, Function.comp_def]
    rw [hplace]
    exact find?_mapIdx header "" (fun place cell => Column.mk cell (rows.map (·.getD place "")))
      Column.name (fun _ _ => rfl) fun cell => plainName cell = name
  rw [columnFor?, column?, findColumn_eq, List.map_findSome?]
  exact congrArg (List.findSome? · _) (funext hfind)

/-- Blanks around the names of a header make no difference to its plain names. -/
theorem map_plainName_trim (header : List String) :
    (header.map Text.trim).map plainName = header.map plainName := by
  simp [plainName_trim]

/-- The records of rows are those of the columns. -/
theorem map_recordOf_eq (header : List String) (rows : List (List String)) :
    rows.map (recordOf (columns (header.map Text.trim))) =
      recordsOf (columnsOf header rows) rows.length := by
  refine List.ext_getElem (by simp [recordsOf]) fun place hleft hright => ?_
  have hplace : place < rows.length := by simpa using hleft
  simp only [recordsOf, List.getElem_map, List.getElem_range, recordOf, get?_columns, map_plainName_trim,
    columnFor?_columnsOf]
  refine congrArg Record.ofFields (funext fun field => ?_)
  cases column? (header.map plainName) field with
  | none => rfl
  | some index => simp [hplace]

/-- The required fields that take no column. -/
def fieldsWithout (columns : List Column) : List Field :=
  Field.required.filter fun field => (columnFor? columns field).isNone

/-- The required fields that are missing are those that take no column. -/
theorem missingFields_eq (header : List String) (rows : List (List String)) :
    missingFields (columns (header.map Text.trim)) = fieldsWithout (columnsOf header rows) := by
  refine List.filter_congr fun field _ => ?_
  rw [Entries.has, get?_columns, map_plainName_trim, columnFor?_columnsOf]
  cases column? (header.map plainName) field <;> rfl

/-- Where plain names differ a column is found by its name wherever it stands, also among columns of
other names. -/
theorem find?_of_perm {columns columns' extras : List Column} {name : String}
    (hdistinct : (columns.map (plainName ·.name)).Nodup)
    (hcolumns : columns'.Perm (columns ++ extras))
    (hextras : ∀ column ∈ extras, plainName column.name ≠ name) :
    (columns'.find? fun column => plainName column.name = name) =
      columns.find? fun column => plainName column.name = name := by
  have hmem : ∀ column ∈ columns', plainName column.name = name → column ∈ columns := by
    intro column hcolumn hname
    rcases List.mem_append.mp (hcolumns.mem_iff.mp hcolumn) with hold | hextra
    · exact hold
    · exact absurd hname (hextras column hextra)
  have hone : {column ∈ columns' | decide (plainName column.name = name) = true}.Subsingleton := by
    rintro column ⟨hcolumn, hname⟩ other ⟨hother, hname'⟩
    have hsame := (of_decide_eq_true hname).trans (of_decide_eq_true hname').symm
    exact List.inj_on_of_nodup_map hdistinct (hmem column hcolumn (of_decide_eq_true hname))
      (hmem other hother (of_decide_eq_true hname')) hsame
  have hnone : (extras.find? fun column => plainName column.name = name) = none :=
    List.find?_eq_none.mpr fun column hcolumn => by simpa using hextras column hcolumn
  rw [List.find?_eq_find?_of_perm hcolumns hone, List.find?_append, hnone, Option.or_none]

/-- Where plain names differ each field takes the same column wherever this stands, also among columns
that no field goes by. -/
theorem columnFor?_of_perm {columns columns' extras : List Column}
    (hdistinct : (columns.map (plainName ·.name)).Nodup)
    (hcolumns : columns'.Perm (columns ++ extras))
    (hextras : ∀ column ∈ extras, ∀ field, ¬IsNameOf field column.name) (field : Field) :
    columnFor? columns' field = columnFor? columns field := by
  have hname : ∀ name ∈ field.aliases, (columns'.find? fun column => plainName column.name =
      plainName name) = columns.find? fun column => plainName column.name = plainName name :=
    fun name hname => find?_of_perm hdistinct hcolumns fun column hcolumn heq =>
      hextras column hcolumn field ⟨name, hname, heq⟩
  rw [columnFor?, columnFor?, List.findSome?_map, List.findSome?_map]
  generalize field.aliases = names at hname ⊢
  induction names with
  | nil => rfl
  | cons name rest ih =>
    obtain ⟨hfirst, hrest⟩ := List.forall_mem_cons.mp hname
    rw [List.findSome?_cons, List.findSome?_cons, Function.comp_apply, Function.comp_apply, hfirst,
      ih hrest]

/-- The plain names of the columns are those of the header. -/
theorem map_name_columnsOf (header : List String) (rows : List (List String)) :
    (columnsOf header rows).map (plainName ·.name) = header.map plainName := by
  refine List.ext_getElem (by simp [columnsOf]) fun place hleft hright => ?_
  simp [columnsOf]

/-- Rows are resolved from their columns: into the records of these, or not for want of the required
fields that take no column. -/
theorem resolveRows_eq (delimiter : Char) (header : List String) (rows : List (List String)) :
    (fieldsWithout (columnsOf header rows) = [] ∧
        ∃ resolved, resolveRows delimiter (header :: rows) = .ok resolved ∧
          resolved.records = recordsOf (columnsOf header rows) rows.length) ∨
      resolveRows delimiter (header :: rows) =
        .error (.missing (fieldsWithout (columnsOf header rows))) ∧
          fieldsWithout (columnsOf header rows) ≠ [] := by
  unfold resolveRows
  dsimp only
  rw [missingFields_eq header rows]
  cases hwithout : fieldsWithout (columnsOf header rows) with
  | nil => exact Or.inl ⟨rfl, _, rfl, map_recordOf_eq header rows⟩
  | cons field fields => exact Or.inr ⟨rfl, List.cons_ne_nil field fields⟩

/-- The header of a table that is read has cells. -/
theorem header_ne_nil {delimiter : Char} {text : String} {header : List String}
    {rows : List (List String)} (h : rowsWith? delimiter text = some (header :: rows)) :
    header ≠ [] := by
  rintro rfl
  have hrows := (rowsWith?_eq_some_iff.mp h).2
  have hkept : [] ∈ (allRows delimiter (withoutMark text.toList)).filter (!isBlankRow ·) := by
    rw [← hrows]
    exact List.mem_cons_self
  exact absurd (List.mem_filter.mp hkept).2 (by decide)

/-- Tables that have a column in common have equally many rows. -/
theorem length_eq_of_perm {header header' : List String} {rows rows' : List (List String)}
    {extras : List Column} (hheader : header ≠ [])
    (hcolumns : (columnsOf header' rows').Perm (columnsOf header rows ++ extras)) :
    rows'.length = rows.length := by
  have hlength : ∀ {header : List String} {rows : List (List String)} {column : Column},
      column ∈ columnsOf header rows → column.cells.length = rows.length := by
    intro header rows column hcolumn
    obtain ⟨place, hplace, rfl⟩ := List.mem_mapIdx.mp hcolumn
    exact List.length_map _
  obtain ⟨column, hcolumn⟩ : ∃ column, column ∈ columnsOf header rows := by
    refine List.exists_mem_of_ne_nil _ fun hnil => hheader ?_
    simpa [columnsOf] using hnil
  have hcolumn' := hcolumns.mem_iff.mpr (List.mem_append_left extras hcolumn)
  rw [← hlength hcolumn, hlength hcolumn']

/-- Let the columns of one table be those of another in any order, with columns in any place that no
field goes by, and let the plain names of the other differ. Then the same records are resolved from
both, or both are refused for the same missing fields. -/
theorem resolved_in_any_column_order {text text' : String} {header header' : List String}
    {rows rows' : List (List String)} {extras : List Column}
    (hread : rowsWith? (delimiter text) text = some (header :: rows))
    (hread' : rowsWith? (delimiter text') text' = some (header' :: rows'))
    (hdistinct : (header.map plainName).Nodup)
    (hcolumns : (columnsOf header' rows').Perm (columnsOf header rows ++ extras))
    (hextras : ∀ column ∈ extras, ∀ field, ¬IsNameOf field column.name) :
    (∃ resolved resolved', resolve text = .ok resolved ∧ resolve text' = .ok resolved' ∧
        resolved.records = resolved'.records) ∨
      ∃ fields, resolve text = .error (.missing fields) ∧
        resolve text' = .error (.missing fields) := by
  have hresolve : resolve text = resolveRows (delimiter text) (header :: rows) := by
    unfold resolve
    dsimp only
    rw [hread]
  have hresolve' : resolve text' = resolveRows (delimiter text') (header' :: rows') := by
    unfold resolve
    dsimp only
    rw [hread']
  have hnames : ((columnsOf header rows).map (plainName ·.name)).Nodup := by
    rwa [map_name_columnsOf]
  have hfor : ∀ field, columnFor? (columnsOf header' rows') field =
      columnFor? (columnsOf header rows) field := columnFor?_of_perm hnames hcolumns hextras
  have hwithout : fieldsWithout (columnsOf header' rows') =
      fieldsWithout (columnsOf header rows) := by
    simp only [fieldsWithout, hfor]
  have hrecords : recordsOf (columnsOf header' rows') rows'.length =
      recordsOf (columnsOf header rows) rows.length := by
    simp only [recordsOf, hfor, length_eq_of_perm (header_ne_nil hread) hcolumns]
  have hends := resolveRows_eq (delimiter text) header rows
  have hends' := resolveRows_eq (delimiter text') header' rows'
  rw [← hresolve] at hends
  rw [← hresolve', hwithout, hrecords] at hends'
  rcases hends with ⟨hnone, resolved, hok, hsame⟩ | ⟨herror, hsome⟩
  · rcases hends' with ⟨-, resolved', hok', hsame'⟩ | ⟨-, hsome'⟩
    · exact Or.inl ⟨resolved, resolved', hok, hok', hsame.trans hsame'.symm⟩
    · exact absurd hnone hsome'
  · rcases hends' with ⟨hnone', -⟩ | ⟨herror', -⟩
    · exact absurd hnone' hsome
    · exact Or.inr ⟨_, herror, herror'⟩

/-- A table of three columns, one field by the last of its names. -/
def threeColumns : String := "pop;Prefixes;ID\n5;W1+;T1\n;EC1*;T2\n"

/-- The same columns in another order and with another delimiter, and a column of notes in front. -/
def fourColumns : String := "Notes,ID,pop,Prefixes\n\"a,b\",T1,5,W1+\n,T2,,EC1*\n"

/-- The column of notes. -/
def notes : Column := ⟨"Notes", ["a,b", ""]⟩

/-- The samples are resolved into the same records. -/
theorem fourColumns_resolved_as_threeColumns :
    rowsWith? (delimiter threeColumns) threeColumns =
        some [["pop", "Prefixes", "ID"], ["5", "W1+", "T1"], ["", "EC1*", "T2"]] ∧
      rowsWith? (delimiter fourColumns) fourColumns =
        some [["Notes", "ID", "pop", "Prefixes"], ["a,b", "T1", "5", "W1+"],
          ["", "T2", "", "EC1*"]] ∧
      (["pop", "Prefixes", "ID"].map plainName).Nodup ∧
      (columnsOf ["Notes", "ID", "pop", "Prefixes"]
          [["a,b", "T1", "5", "W1+"], ["", "T2", "", "EC1*"]]).Perm
        (columnsOf ["pop", "Prefixes", "ID"] [["5", "W1+", "T1"], ["", "EC1*", "T2"]] ++ [notes]) ∧
      (∀ column ∈ [notes], ∀ field, ¬IsNameOf field column.name) ∧
      ∃ resolved resolved', resolve threeColumns = .ok resolved ∧
        resolve fourColumns = .ok resolved' ∧ resolved.records = resolved'.records := by
  have hread : rowsWith? (delimiter threeColumns) threeColumns =
      some [["pop", "Prefixes", "ID"], ["5", "W1+", "T1"], ["", "EC1*", "T2"]] := by
    decide +kernel
  have hread' : rowsWith? (delimiter fourColumns) fourColumns =
      some [["Notes", "ID", "pop", "Prefixes"], ["a,b", "T1", "5", "W1+"],
        ["", "T2", "", "EC1*"]] := by
    decide +kernel
  have hdistinct : (["pop", "Prefixes", "ID"].map plainName).Nodup := by decide +kernel
  have hcolumns : (columnsOf ["Notes", "ID", "pop", "Prefixes"]
        [["a,b", "T1", "5", "W1+"], ["", "T2", "", "EC1*"]]).Perm
      (columnsOf ["pop", "Prefixes", "ID"] [["5", "W1+", "T1"], ["", "EC1*", "T2"]] ++ [notes]) := by
    decide +kernel
  have hextras : ∀ column ∈ [notes], ∀ field, ¬IsNameOf field column.name := by
    intro column hcolumn field
    rw [List.mem_singleton.mp hcolumn]
    cases field <;> decide +kernel
  refine ⟨hread, hread', hdistinct, hcolumns, hextras, ?_⟩
  rcases resolved_in_any_column_order hread hread' hdistinct hcolumns hextras with
    hrecords | ⟨fields, herror, -⟩
  · exact hrecords
  · have hok : (resolve threeColumns).isOk = true := by decide +kernel
    rw [herror] at hok
    cases hok

end DistrictAtlas.Table
