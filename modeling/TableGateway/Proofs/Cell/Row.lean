import TableGateway.Cell.Read
import TableGateway.Proofs.Fields
import TableGateway.Proofs.Text.Utf8

/-!
# What is kept of a result row

A result row is a list of columns with their cells, and the names of the columns are bytes.  The row
that it is mapped into is a map under the texts of the names, so columns whose names differ in
invalid bytes only share an entry.

* `Column.Named`, `Column.Holds` — what a column is called, with no reader in it, and what it holds.
* `LastNamed` — the last column of a name; `find?_ofCells` finds what it holds.
* `Distinct` — no two columns have one name.  Then the entries are those of the columns, in key
  order (`fields_perm`).
* **`Row.ofCells_keeps`** — which names a mapped row has and what it has under them.
-/

namespace TableGateway

/-- The bytes of the column's name read as the text. -/
def Column.Named (column : Column) (name : String) : Prop :=
  Text.Utf8.Reads column.name name.toList

/-- What a column holds: null where the cell is null or has been taken. -/
inductive Column.Holds (column : Column) : Option Cell → Value → Prop
  | taken : column.Holds none .null
  | null : column.Holds (some .null) .null
  | cell {c : Cell} (h : c ≠ .null) : column.Holds (some c) (c.toValue column.type)

namespace Column

variable {column : Column} {name : String} {cell : Option Cell} {value : Value}

lemma named_iff : column.Named name ↔ Text.Utf8.decodeLossy column.name = name :=
  Text.Utf8.reads_iff

/-- A column has one name. -/
lemma existsUnique_named (column : Column) : ∃! name, column.Named name :=
  ⟨_, named_iff.mpr rfl, fun _ h => (named_iff.mp h).symm⟩

lemma holds_iff : column.Holds cell value ↔ column.value cell = value := by
  constructor
  · rintro (_ | _ | _)
    all_goals rfl
  · rintro rfl
    cases cell with
    | none => exact .taken
    | some c =>
      by_cases hc : c = .null
      · subst hc
        exact .null
      · exact .cell hc

end Column

namespace Row

variable {cells others : List (Column × Option Cell)} {name : String} {value : Value}

/-- The last column of a name, with its cell. -/
def LastNamed (cells : List (Column × Option Cell)) (name : String) (column : Column)
    (cell : Option Cell) : Prop :=
  ∃ before after, cells = before ++ (column, cell) :: after ∧ column.Named name ∧
    ∀ e ∈ after, ¬e.1.Named name

/-- No two columns have one name. -/
def Distinct (cells : List (Column × Option Cell)) : Prop :=
  cells.Pairwise fun a b => ∀ name, a.1.Named name → ¬b.1.Named name

/-- The field that a column and its cell become. -/
def fieldOfCell (e : Column × Option Cell) : String × Value :=
  (Text.Utf8.decodeLossy e.1.name, e.1.value e.2)

/-- Each cell is read by itself. -/
lemma fieldsOfCells_eq_map (cells : List (Column × Option Cell)) :
    fieldsOfCells cells = cells.map fieldOfCell := by
  induction cells with
  | nil => rfl
  | cons e rest ih => rw [fieldsOfCells, ih, List.map_cons]; rfl

/-- The names that are read are those of the columns. -/
lemma mem_names_fieldsOfCells :
    name ∈ (fieldsOfCells cells).map (·.1) ↔ ∃ e ∈ cells, e.1.Named name := by
  simp [fieldsOfCells_eq_map, fieldOfCell, Column.named_iff]

lemma mem_names_ofCells : name ∈ (ofCells cells).names ↔ ∃ e ∈ cells, e.1.Named name :=
  Fields.mem_names_ofList.trans mem_names_fieldsOfCells

/-- The last column of a name gives its value. -/
theorem find?_ofCells : (ofCells cells).find? name = some value ↔
    ∃ column cell, LastNamed cells name column cell ∧ column.Holds cell value := by
  refine Fields.find?_ofList_eq_some.trans ⟨?_, ?_⟩
  · rintro ⟨before, after, h, hafter⟩
    rw [fieldsOfCells_eq_map, List.map_eq_append_iff] at h
    obtain ⟨before, tail, rfl, -, htail⟩ := h
    obtain ⟨⟨column, cell⟩, rest, rfl, hfield, rfl⟩ := List.map_eq_cons_iff.mp htail
    obtain ⟨hname, hvalue⟩ := Prod.mk.inj hfield
    refine ⟨column, cell, ⟨before, rest, rfl, Column.named_iff.mpr hname, ?_⟩,
      Column.holds_iff.mpr hvalue⟩
    rw [← fieldsOfCells_eq_map, mem_names_fieldsOfCells] at hafter
    exact fun e he hnamed => hafter ⟨e, he, hnamed⟩
  · rintro ⟨column, cell, ⟨before, after, rfl, hname, hafter⟩, hholds⟩
    refine ⟨fieldsOfCells before, fieldsOfCells after, ?_, ?_⟩
    · rw [← Column.named_iff.mp hname, ← Column.holds_iff.mp hholds]
      simp only [fieldsOfCells_eq_map, List.map_append, List.map_cons]
      rfl
    · rw [mem_names_fieldsOfCells]
      rintro ⟨e, he, hnamed⟩
      exact hafter e he hnamed

/-! ## Distinct names -/

/-- Columns have distinct names if their fields have. -/
lemma distinct_iff : Distinct cells ↔ ((fieldsOfCells cells).map (·.1)).Nodup := by
  rw [fieldsOfCells_eq_map, List.map_map, List.nodup_iff_pairwise_ne, List.pairwise_map, Distinct]
  simp [Column.named_iff, fieldOfCell, eq_comm]

/-- With distinct names no cell is lost. -/
theorem fields_perm (h : Distinct cells) : (ofCells cells).fields.Perm (cells.map fieldOfCell) := by
  rw [← fieldsOfCells_eq_map]
  exact Fields.ofList_perm (distinct_iff.mp h)

/-- With distinct names a row has as many names as there are cells. -/
lemma length_names_ofCells (h : Distinct cells) :
    (ofCells cells).names.length = cells.length := by
  rw [names, List.length_map, (fields_perm h).length_eq, List.length_map]

/-- No cell is lost. -/
lemma exists_find?_ofCells (h : Distinct cells) {e : Column × Option Cell} (he : e ∈ cells) :
    ∃ name value, e.1.Named name ∧ e.1.Holds e.2 value ∧
      (ofCells cells).find? name = some value := by
  refine ⟨_, _, Column.named_iff.mpr rfl, Column.holds_iff.mpr rfl, ?_⟩
  refine (Fields.find?_eq_some (ofCells cells).ascending.nodup).mpr ?_
  exact (fields_perm h).mem_iff.mpr (List.mem_map_of_mem he)

/-- With distinct names the order of the columns makes no difference. -/
lemma ofCells_eq_of_perm (h : Distinct cells) (hperm : others.Perm cells) :
    ofCells others = ofCells cells := by
  have hfields : (fieldsOfCells others).Perm (fieldsOfCells cells) := by
    simp only [fieldsOfCells_eq_map]
    exact hperm.map fieldOfCell
  rw [ofCells, ofCells, ofList, ofList, Row.mk.injEq]
  exact Fields.ofList_eq_of_perm (distinct_iff.mp h) hfields

/-! ## The whole row -/

/-- **A mapped row keeps what a result row has under the texts of its names.**  Every column has one
name; the names of the row are those of the columns, and under each the row has what the last column
of that name holds.  Where the names are distinct there are as many as columns, what every column
holds is found, and the order of the columns does not matter. -/
theorem ofCells_keeps (cells : List (Column × Option Cell)) :
    (∀ column : Column, ∃! name, column.Named name) ∧
    (∀ name, name ∈ (ofCells cells).names ↔ ∃ e ∈ cells, e.1.Named name) ∧
    (∀ name value, (ofCells cells).find? name = some value ↔
      ∃ column cell, LastNamed cells name column cell ∧ column.Holds cell value) ∧
    (Distinct cells →
      (ofCells cells).names.length = cells.length ∧
      (∀ e ∈ cells, ∃ name value, e.1.Named name ∧ e.1.Holds e.2 value ∧
        (ofCells cells).find? name = some value) ∧
      ∀ others, others.Perm cells → ofCells others = ofCells cells) :=
  ⟨Column.existsUnique_named, fun _ => mem_names_ofCells, fun _ _ => find?_ofCells, fun h =>
    ⟨length_names_ofCells h, fun _ => exists_find?_ofCells h, fun _ => ofCells_eq_of_perm h⟩⟩

/-- Two columns in either order, one of which has been taken. -/
theorem ofCells_keeps_taken :
    let id : Column × Option Cell := (⟨[0x69, 0x64], .other⟩, some (.int 7))
    let gone : Column × Option Cell := (⟨[0x69, 0xC3], .other⟩, none)
    Distinct [id, gone] ∧ (ofCells [id, gone]).names.length = 2 ∧
      ofCells [gone, id] = ofCells [id, gone] := by
  intro id gone
  have h : Distinct [id, gone] := distinct_iff.mpr (by decide)
  obtain ⟨-, -, -, hdistinct⟩ := ofCells_keeps [id, gone]
  obtain ⟨hlength, -, horder⟩ := hdistinct h
  exact ⟨h, hlength, horder [gone, id] (List.Perm.swap id gone [])⟩

/-- Names that differ in invalid bytes only are one name, and the last column has it. -/
example : (ofCells [(⟨[0xFF], .other⟩, some (.int 1)), (⟨[0xFE], .other⟩, none)]).fields =
    [("\uFFFD", .null)] := by
  rfl

end Row

end TableGateway
