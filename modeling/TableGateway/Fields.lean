/-!
# Fields in key order

Named entries in ascending order of their names, which is the order of code points.  The
functions work on plain lists; `Ascending` says that a list is in order and holds each name once,
and `ascending_insert` that writing an entry keeps it so.

* `insert` — write an entry: a present name takes the new value.
* `find?` — the value of a name.
* `ofList` — the entries of a list, a later one winning over an earlier one of the same name.
-/

namespace TableGateway.Fields

variable {α β : Type}

/-- Names ascend, so no two are equal. -/
def Ascending (fields : List (String × α)) : Prop :=
  fields.Pairwise fun a b => a.1 < b.1

/-- Write an entry at its place in the order. -/
def insert (name : String) (value : α) : List (String × α) → List (String × α)
  | [] => [(name, value)]
  | (n, v) :: rest =>
    if name < n then (name, value) :: (n, v) :: rest
    else if name = n then (name, value) :: rest
    else (n, v) :: insert name value rest

/-- The value of a name. -/
def find? (name : String) : List (String × α) → Option α
  | [] => none
  | (n, v) :: rest => if n = name then some v else find? name rest

/-- The entries of a list in order, a later one winning over an earlier one of the same name. -/
def ofList (entries : List (String × α)) : List (String × α) :=
  entries.foldl (fun acc e => insert e.1 e.2 acc) []

/-- Of two different names one comes first. -/
theorem lt_of_not_lt_of_ne {a b : String} (h : ¬a < b) (hne : a ≠ b) : b < a := by
  by_cases hlt : b < a
  · exact hlt
  · exact absurd (String.le_antisymm (String.not_lt.mp hlt) (String.not_lt.mp h)) hne

/-- A name of the list after writing is the written one or was there before. -/
theorem mem_insert {name : String} {value : α} {fields : List (String × α)} {e : String × α}
    (h : e ∈ insert name value fields) : e = (name, value) ∨ e ∈ fields := by
  induction fields with
  | nil => simpa [insert] using h
  | cons f rest ih =>
    unfold insert at h
    split at h
    · simpa using h
    · split at h
      · rcases List.mem_cons.mp h with h | h
        · exact .inl h
        · exact .inr (List.mem_cons_of_mem _ h)
      · rcases List.mem_cons.mp h with h | h
        · exact .inr (h ▸ List.mem_cons_self)
        · exact (ih h).imp_right (List.mem_cons_of_mem _)

/-- Writing an entry keeps the order. -/
theorem ascending_insert (name : String) (value : α) {fields : List (String × α)}
    (h : Ascending fields) : Ascending (insert name value fields) := by
  induction fields with
  | nil => simp [insert, Ascending]
  | cons f rest ih =>
    obtain ⟨hf, hrest⟩ := List.pairwise_cons.mp h
    unfold insert
    split
    · rename_i hlt
      refine List.pairwise_cons.mpr ⟨fun e he => ?_, h⟩
      rcases List.mem_cons.mp he with rfl | he
      · exact hlt
      · exact String.lt_trans hlt (hf e he)
    · rename_i hlt
      split
      · rename_i heq
        exact List.pairwise_cons.mpr ⟨fun e he => heq ▸ hf e he, hrest⟩
      · rename_i hne
        refine List.pairwise_cons.mpr ⟨fun e he => ?_, ih hrest⟩
        rcases mem_insert he with rfl | he
        · exact lt_of_not_lt_of_ne hlt hne
        · exact hf e he

/-- The entries of a list are in order. -/
theorem ascending_ofList (entries : List (String × α)) : Ascending (ofList entries) := by
  suffices h : ∀ acc : List (String × α), Ascending acc →
      Ascending (entries.foldl (fun acc e => insert e.1 e.2 acc) acc) from
    h [] List.Pairwise.nil
  induction entries with
  | nil => exact fun acc h => h
  | cons e rest ih => exact fun acc h => ih _ (ascending_insert e.1 e.2 h)

end TableGateway.Fields
