import TableGateway.Proofs.Fields
import TableGateway.Proofs.Sql.RowOperation

/-!
# Rows that are inserted

Rows need not have the same names.  The columns of an insertion are all names of all rows, and a row
binds one value per column, null where it has none, so that values stand at places which the row
and the name alone determine.

* `FirstSeen` — names without repetition, in the order in which they first come up.
* `FirstSeen.addNames` — collecting names keeps that.
* `Row.Binds` — what a row binds for a name.
* `Statement.Inserts` — what an insertion says of each row and each name.
* **`Statement.insert_inserts`** — every insertion of rows that have any name says just that.
-/

namespace TableGateway

open SqlText

/-! ## Names in the order first seen -/

/-- The names that come up in a list, each once, in the order in which they come up first. -/
structure FirstSeen (names fields : List String) : Prop where
  mem : ∀ name, name ∈ fields ↔ name ∈ names
  nodup : fields.Nodup
  ordered : fields.Pairwise fun a b => names.idxOf a < names.idxOf b

namespace FirstSeen

variable {names fields : List String}

lemma nil : FirstSeen [] [] :=
  ⟨fun _ => Iff.rfl, List.nodup_nil, .nil⟩

/-- Where a name first comes up does not change with what comes later. -/
lemma ordered_append (h : FirstSeen names fields) (more : List String) :
    fields.Pairwise fun a b => (names ++ more).idxOf a < (names ++ more).idxOf b := by
  refine h.ordered.imp_of_mem fun ha hb hlt => ?_
  rwa [List.idxOf_append_of_mem ((h.mem _).mp ha), List.idxOf_append_of_mem ((h.mem _).mp hb)]

/-- A name that is new comes after all others. -/
lemma idxOf_lt_idxOf_new {a b : String} (ha : a ∈ names) (hb : b ∉ names) :
    (names ++ [b]).idxOf a < (names ++ [b]).idxOf b := by
  rw [List.idxOf_append_of_mem ha, List.idxOf_append_of_notMem hb, List.idxOf_cons_self]
  exact List.idxOf_lt_length_of_mem ha

/-- The next name is added if it is new. -/
lemma add (h : FirstSeen names fields) (name : String) :
    FirstSeen (names ++ [name]) (if fields.contains name then fields else fields ++ [name]) := by
  have hmem (a : String) : a ∈ names ++ [name] ↔ a ∈ fields ∨ a = name := by
    rw [List.mem_append, List.mem_singleton, h.mem]
  split
  · rename_i hname
    have hname : name ∈ fields := List.contains_iff_mem.mp hname
    refine ⟨fun a => ?_, h.nodup, h.ordered_append _⟩
    rw [hmem]
    exact ⟨.inl, fun ha => ha.elim id fun heq => heq ▸ hname⟩
  · rename_i hname
    have hname : name ∉ fields := fun hmem => hname (List.contains_iff_mem.mpr hmem)
    refine ⟨fun a => ?_, ?_, ?_⟩
    · rw [hmem, List.mem_append, List.mem_singleton]
    · exact List.nodup_append.mpr ⟨h.nodup, List.nodup_singleton _, by
        rintro a ha b hb rfl
        exact hname (List.mem_singleton.mp hb ▸ ha)⟩
    · refine List.pairwise_append.mpr ⟨h.ordered_append _, List.pairwise_singleton _ _, ?_⟩
      rintro a ha b hb
      obtain rfl := List.mem_singleton.mp hb
      exact idxOf_lt_idxOf_new ((h.mem a).mp ha) fun hmem => hname ((h.mem b).mpr hmem)

/-- Collecting names goes on from those that were seen. -/
theorem addNames (h : FirstSeen names fields) (more : List String) :
    FirstSeen (names ++ more) (Statement.addNames fields more) := by
  -- the invariant speaks of the names gone through so far, so each step moves one over to them
  induction more generalizing names fields with
  | nil =>
    rw [List.append_nil]
    exact h
  | cons name rest ih =>
    rw [Statement.addNames, ← List.singleton_append, ← List.append_assoc]
    exact ih (h.add name)

end FirstSeen

/-- Without declared fields, the columns of an insertion are the names of its rows. -/
lemma Statement.firstSeen_insertFields {decl : Option TableDecl} {rows : List Row}
    (hdecl : ∀ d, decl = some d → d.fields = []) :
    FirstSeen (rows.flatMap Row.names) (insertFields decl rows) := by
  have hnames : insertFields decl rows = addNames [] (rows.flatMap Row.names) := by
    cases decl with
    | none => rfl
    | some d =>
      obtain ⟨name, fields⟩ := d
      obtain rfl : fields = [] := hdecl _ rfl
      rfl
  rw [hnames]
  exact FirstSeen.nil.addNames (rows.flatMap Row.names)

/-! ## What a row binds -/

/-- What a row binds for a name: the value it has, or null where it has none. -/
inductive Row.Binds (row : Row) : String → Cell → Prop where
  | present {name : String} {value : Value} (h : (name, value) ∈ row.fields) :
      Binds row name value.toCell
  | absent {name : String} (h : name ∉ row.names) : Binds row name .null

namespace Statement

/-- A row's value is bound for its name. -/
lemma cellFor_of_mem {row : Row} {name : String} {value : Value}
    (h : (name, value) ∈ row.fields) : cellFor row name = value.toCell := by
  rw [cellFor, Row.find?, (Fields.find?_eq_some row.ascending.nodup).mpr h]
  rfl

/-- The builder binds what a row has for a name. -/
lemma binds_cellFor (row : Row) (name : String) : row.Binds name (cellFor row name) := by
  cases hfind : row.find? name with
  | none =>
    rw [cellFor, hfind]
    exact .absent (Fields.find?_eq_none.mp hfind)
  | some value =>
    rw [cellFor, hfind]
    exact .present ((Fields.find?_eq_some row.ascending.nodup).mp hfind)

end Statement

/-! ## Lists in chunks -/

section

variable {α β : Type} {as : List α} {f : α → List β} {n : Nat}

/-- Chunks of one length have that length together as often as there are chunks. -/
lemma length_flatMap_of_length (h : ∀ a ∈ as, (f a).length = n) :
    (as.flatMap f).length = as.length * n := by
  induction as with
  | nil => exact (Nat.zero_mul n).symm
  | cons a rest ih =>
    obtain ⟨ha, hrest⟩ := List.forall_mem_cons.mp h
    rw [List.flatMap_cons, List.length_append, ha, ih hrest, List.length_cons, Nat.succ_mul,
      Nat.add_comm]

/-- Lists of one length put one after the other are the chunks of that length. -/
lemma take_drop_flatMap (h : ∀ a ∈ as, (f a).length = n) {i : Nat} {a : α}
    (ha : as[i]? = some a) : ((as.flatMap f).drop (i * n)).take n = f a := by
  induction as generalizing i with
  | nil => simp at ha
  | cons b rest ih =>
    obtain ⟨hb, hrest⟩ := List.forall_mem_cons.mp h
    rw [List.flatMap_cons]
    cases i with
    | zero =>
      obtain rfl := Option.some.inj ha
      rw [Nat.zero_mul, List.drop_zero, List.take_left' hb]
    | succ i =>
      rw [Nat.succ_mul, Nat.add_comm, ← List.drop_drop, List.drop_left' hb]
      exact ih hrest ha

/-- The place of an item within chunks of one length. -/
lemma getElem?_flatMap (h : ∀ a ∈ as, (f a).length = n) {i j : Nat} {a : α}
    (ha : as[i]? = some a) (hj : j < n) : (as.flatMap f)[i * n + j]? = (f a)[j]? := by
  rw [← take_drop_flatMap h ha, List.getElem?_take_of_lt hj, List.getElem?_drop]

/-- Where an element of a chunk comes from. -/
lemma exists_of_getElem?_flatMap (h : ∀ a ∈ as, (f a).length = n) {k : Nat} {b : β}
    (hb : (as.flatMap f)[k]? = some b) :
    ∃ a, as[k / n]? = some a ∧ (f a)[k % n]? = some b := by
  have hk : k < as.length * n := by
    rw [← length_flatMap_of_length h]
    exact (List.getElem?_eq_some_iff.mp hb).1
  have hn : 0 < n := Nat.pos_of_ne_zero fun hn => by simp [hn] at hk
  have hi : k / n < as.length := Nat.div_lt_of_lt_mul (by rwa [Nat.mul_comm])
  refine ⟨as[k / n], List.getElem?_eq_getElem hi, ?_⟩
  rw [← getElem?_flatMap h (List.getElem?_eq_getElem hi) (Nat.mod_lt k hn), Nat.mul_comm,
    Nat.div_add_mod]
  exact hb

end

/-! ## Insertions -/

namespace Statement

/-- What an insertion says: one tuple of placeholders for each row, and in it, at the place of a
name, what the row binds for it. -/
structure Inserts (table : String) (fields : List String) (rows : List Row) (s : Statement) :
    Prop where
  text : s.sql = "INSERT INTO " ++ render (qualified table) ++ " (" ++
    ", ".intercalate (fields.map fun name => render [.name name]) ++ ") VALUES " ++
    ", ".intercalate (List.replicate rows.length
      ("(" ++ ", ".intercalate (List.replicate fields.length "?") ++ ")"))
  length : s.params.length = rows.length * fields.length
  /-- The values in chunks of one per column are what the rows bind. -/
  chunks : ∀ (i : Nat) (row : Row), rows[i]? = some row →
    List.Forall₂ row.Binds fields ((s.params.drop (i * fields.length)).take fields.length)
  /-- A value is at the place of its row and its name. -/
  found : ∀ (i : Nat) (row : Row) (name : String) (value : Value), rows[i]? = some row →
    (name, value) ∈ row.fields →
      s.params[i * fields.length + fields.idxOf name]? = some value.toCell
  /-- What is at a place is from the row and the name of that place. -/
  origin : ∀ (k : Nat) (cell : Cell), s.params[k]? = some cell →
    ∃ row name, rows[k / fields.length]? = some row ∧ fields[k % fields.length]? = some name ∧
      row.Binds name cell

variable {fields : List String} {rows : List Row}

/-- The text of a tuple. -/
lemma render_tuple (width : Nat) :
    render (tuple width) = "(" ++ ", ".intercalate (List.replicate width "?") ++ ")" := by
  have hplace : render [.placeholder] = "?" := rfl
  have hend : render [.verbatim ")"] = ")" := rfl
  rw [tuple, render_append, render_verbatim, render_join, List.map_replicate, hplace, hend]

/-- The text of an insertion. -/
lemma sql_of_insert {table : String} {s : Statement} (h : insert table fields rows = .ok s) :
    s.sql = "INSERT INTO " ++ render (qualified table) ++ " (" ++
      ", ".intercalate (fields.map fun name => render [.name name]) ++ ") VALUES " ++
      ", ".intercalate (List.replicate rows.length
        ("(" ++ ", ".intercalate (List.replicate fields.length "?") ++ ")")) := by
  obtain ⟨-, -, rfl⟩ := insert_eq_ok.mp h
  have htuples : (rows.map fun _ => tuple fields.length).map render =
      List.replicate rows.length
        ("(" ++ ", ".intercalate (List.replicate fields.length "?") ++ ")") := by
    rw [List.map_const', List.map_replicate, render_tuple]
  rw [sql, ← htuples]
  simp only [render_append, List.cons_append, render_verbatim, render_join, List.map_map,
    String.append_assoc]
  rfl

/-- An insertion binds a value for each row and field. -/
lemma length_params_of_insert {table : String} {s : Statement}
    (h : insert table fields rows = .ok s) : s.params.length = rows.length * fields.length := by
  obtain ⟨-, -, rfl⟩ := insert_eq_ok.mp h
  exact length_flatMap_of_length fun _ _ => List.length_map _

/-- The values of a row stand together, in the order of the columns. -/
lemma binds_of_insert {table : String} {s : Statement} (h : insert table fields rows = .ok s)
    {i : Nat} {row : Row} (hrow : rows[i]? = some row) :
    List.Forall₂ row.Binds fields ((s.params.drop (i * fields.length)).take fields.length) := by
  obtain ⟨-, -, rfl⟩ := insert_eq_ok.mp h
  rw [take_drop_flatMap (fun _ _ => List.length_map _) hrow, List.forall₂_map_right_iff,
    List.forall₂_same]
  exact fun name _ => binds_cellFor row name

/-- What the builder makes of rows inserts them, in the order of rows and of fields. -/
lemma inserts_of_insert {table : String} {s : Statement} (h : insert table fields rows = .ok s)
    (hnames : ∀ row ∈ rows, ∀ name ∈ row.names, name ∈ fields) :
    Inserts table fields rows s := by
  refine ⟨sql_of_insert h, length_params_of_insert h, fun i row hrow => binds_of_insert h hrow,
    fun i row name value hrow hvalue => ?_, fun k cell hcell => ?_⟩
  · obtain ⟨-, -, rfl⟩ := insert_eq_ok.mp h
    have hname : name ∈ fields :=
      hnames row (List.mem_of_getElem? hrow) name (List.mem_map_of_mem hvalue)
    rw [getElem?_flatMap (fun _ _ => List.length_map _) hrow (List.idxOf_lt_length_of_mem hname),
      List.getElem?_map, List.getElem?_idxOf hname, Option.map_some, cellFor_of_mem hvalue]
  · obtain ⟨-, -, rfl⟩ := insert_eq_ok.mp h
    obtain ⟨row, hrow, hcell⟩ := exists_of_getElem?_flatMap (fun _ _ => List.length_map _) hcell
    rw [List.getElem?_map, Option.map_eq_some_iff] at hcell
    obtain ⟨name, hname, rfl⟩ := hcell
    exact ⟨row, name, hrow, hname, binds_cellFor row name⟩

/-- **An insertion of several rows loses, doubles and shifts nothing.**  Where no fields are
declared, its columns are the names of all rows, each once and in the order first seen; it is built,
and holds for every row and every name what the row binds, at one place. -/
theorem insert_inserts (table : String) {decl : Option TableDecl} {rows : List Row}
    (hdecl : ∀ d, decl = some d → d.fields = []) (hrows : ∃ row ∈ rows, row.names ≠ []) :
    FirstSeen (rows.flatMap Row.names) (insertFields decl rows) ∧
      ∃ s, insert table (insertFields decl rows) rows = .ok s ∧
        Inserts table (insertFields decl rows) rows s := by
  have hseen : FirstSeen (rows.flatMap Row.names) (insertFields decl rows) :=
    firstSeen_insertFields hdecl
  have hmem : ∀ row ∈ rows, ∀ name ∈ row.names, name ∈ insertFields decl rows :=
    fun row hrow name hname => (hseen.mem name).mpr (List.mem_flatMap.mpr ⟨row, hrow, hname⟩)
  obtain ⟨row, hrow, hnames⟩ := hrows
  obtain ⟨name, hname⟩ := List.exists_mem_of_ne_nil _ hnames
  obtain ⟨s, hs⟩ : ∃ s, insert table (insertFields decl rows) rows = .ok s :=
    ⟨_, insert_eq_ok.mpr ⟨List.ne_nil_of_mem hrow, List.ne_nil_of_mem (hmem row hrow name hname),
      rfl⟩⟩
  exact ⟨hseen, s, hs, inserts_of_insert hs hmem⟩

/-- A name that only the second row has, and that comes before the other one in key order. -/
theorem insert_inserts_late :
    FirstSeen ["b", "a", "b"] ["b", "a"] ∧
      ∃ s, insert "t" ["b", "a"] [.ofList [("b", .int 1)],
          .ofList [("a", .string "x"), ("b", .int 2)]] = .ok s ∧
        s.params = [.int 1, .null, .int 2, .text "x"] ∧
        Inserts "t" ["b", "a"] [.ofList [("b", .int 1)],
          .ofList [("a", .string "x"), ("b", .int 2)]] s := by
  obtain ⟨hseen, s, hs, hinserts⟩ := insert_inserts "t"
    (show ∀ d, (none : Option TableDecl) = some d → d.fields = [] from nofun)
    (show ∃ row ∈ [Row.ofList [("b", .int 1)], .ofList [("a", .string "x"), ("b", .int 2)]],
        row.names ≠ [] from ⟨_, List.mem_cons_self, by decide⟩)
  have hparams : s.params = [.int 1, .null, .int 2, .text "x"] := by
    obtain ⟨-, -, rfl⟩ := insert_eq_ok.mp hs
    rfl
  exact ⟨hseen, s, hs, hparams, hinserts⟩

end Statement

end TableGateway
