import TableGateway.Proofs.Value.Document

/-!
# Values without custom values

A custom value is written as a document, bound as a parameter and searched for by three recursions
of their own, and each of them reduces it to its canonical form by itself.  Here the reduction is a
function on values, and none of the three can tell a value from what it reduces to.

* `Value.induction` — what holds of values, by what they have inside.
* `Value.erase` — the value with its custom values replaced by their erased canonical forms.
* `Value.Plain` — a value without custom values, at any depth.
* `toJson_erase`, `toCell_erase`, `likeText_erase` — one of the three recursions each.
* **`Value.outputs_erase`** — erasing leaves a plain value, and every output as it was.
-/

namespace TableGateway.Value

/-! ## Values by what is inside them -/

/-- A value that has no other value inside it. -/
def isLeaf : Value → Bool
  | .array _ | .object _ | .custom _ => false
  | _ => true

/-- What holds of every leaf, of a list if of its items, of an object if of its values, and of a
custom value if of its canonical form, holds of every value. -/
@[elab_as_elim]
theorem induction {motive : Value → Prop}
    (leaf : ∀ v, v.isLeaf = true → motive v)
    (array : ∀ items, (∀ v ∈ items, motive v) → motive (.array items))
    (object : ∀ fields, (∀ f ∈ fields, motive f.2) → motive (.object fields))
    (custom : ∀ canonical, motive canonical → motive (.custom canonical)) :
    ∀ v, motive v :=
  Value.rec (motive_2 := fun items => ∀ v ∈ items, motive v)
    (motive_3 := fun fields => ∀ f ∈ fields, motive f.2) (motive_4 := fun f => motive f.2)
    (leaf _ rfl) (fun _ => leaf _ rfl) (fun _ => leaf _ rfl) (fun _ => leaf _ rfl)
    (fun _ => leaf _ rfl) (fun _ => leaf _ rfl) (fun _ => leaf _ rfl) (fun _ => leaf _ rfl)
    (fun _ => leaf _ rfl) (fun _ => leaf _ rfl) array object custom
    (by simp) (fun _ _ hv hitems => List.forall_mem_cons.mpr ⟨hv, hitems⟩) (by simp)
    (fun _ _ hf hfields => List.forall_mem_cons.mpr ⟨hf, hfields⟩) (fun _ _ h => h)

/-- A value without custom values, at any depth. -/
inductive Plain : Value → Prop where
  | leaf {v : Value} (h : v.isLeaf = true) : Plain v
  | array {items : List Value} (h : ∀ v ∈ items, Plain v) : Plain (.array items)
  | object {fields : List (String × Value)} (h : ∀ f ∈ fields, Plain f.2) : Plain (.object fields)

/-! ## Erasing custom values -/

mutual

/-- The value with every custom value in it replaced by its erased canonical form. -/
def erase : Value → Value
  | .array items => .array (eraseItems items)
  | .object fields => .object (eraseFields fields)
  | .custom canonical => erase canonical
  | v => v

/-- The values of a list, each erased. -/
def eraseItems : List Value → List Value
  | [] => []
  | v :: rest => erase v :: eraseItems rest

/-- Fields with their values erased. -/
def eraseFields : List (String × Value) → List (String × Value)
  | [] => []
  | (name, v) :: rest => (name, erase v) :: eraseFields rest

end

lemma eraseItems_eq_map (items : List Value) : eraseItems items = items.map erase := by
  induction items with
  | nil => rfl
  | cons v rest ih => rw [eraseItems, ih, List.map_cons]

lemma eraseFields_eq_map (fields : List (String × Value)) :
    eraseFields fields = fields.map fun f => (f.1, f.2.erase) := by
  induction fields with
  | nil => rfl
  | cons f rest ih => rw [eraseFields, ih, List.map_cons]

variable {v : Value}

/-- A leaf is left as it is. -/
lemma erase_of_isLeaf (h : v.isLeaf = true) : v.erase = v := by
  cases v with
  | array _ | object _ | custom _ => contradiction
  | _ => rfl

/-- Nothing custom is left after erasing. -/
lemma plain_erase (v : Value) : v.erase.Plain := by
  induction v using Value.induction with
  | leaf v h =>
    rw [erase_of_isLeaf h]
    exact .leaf h
  | array items ih =>
    rw [erase, eraseItems_eq_map]
    exact .array (List.forall_mem_map.mpr ih)
  | object fields ih =>
    rw [erase, eraseFields_eq_map]
    exact .object (List.forall_mem_map.mpr ih)
  | custom canonical ih => exact ih

/-- A value with nothing custom in it is left as it is. -/
lemma Plain.erase_eq (h : v.Plain) : v.erase = v := by
  induction h with
  | leaf h => exact erase_of_isLeaf h
  | @array items _ ih =>
    rw [erase, eraseItems_eq_map]
    exact congrArg Value.array ((List.map_congr_left ih).trans (List.map_id' items))
  | @object fields _ ih =>
    have hfield : ∀ f ∈ fields, (f.1, f.2.erase) = f := fun f hf => by rw [ih f hf]
    rw [erase, eraseFields_eq_map]
    exact congrArg Value.object ((List.map_congr_left hfield).trans (List.map_id' fields))

/-- Just the values without custom values are left as they are. -/
lemma erase_eq_self : v.erase = v ↔ v.Plain :=
  ⟨fun h => h ▸ plain_erase v, Plain.erase_eq⟩

/-! ## What is written, bound and searched for -/

/-- The document of a value is that of the value erased. -/
theorem toJson_erase (v : Value) : v.erase.toJson = v.toJson := by
  induction v using Value.induction with
  | leaf v h => rw [erase_of_isLeaf h]
  | array items ih =>
    rw [erase, toJson, toJson, eraseItems_eq_map, itemsToJson_eq_map, itemsToJson_eq_map,
      List.map_map]
    exact congrArg Json.array (List.map_congr_left ih)
  | object fields ih =>
    have hfield : ∀ f ∈ fields, (f.1, f.2.erase.toJson) = (f.1, f.2.toJson) := fun f hf => by
      rw [ih f hf]
    rw [erase, toJson, toJson, eraseFields_eq_map, fieldsToJson_eq_map, fieldsToJson_eq_map,
      List.map_map]
    exact congrArg Json.object (List.map_congr_left hfield)
  | custom canonical ih => exact ih

lemma jsonText_erase (v : Value) : v.erase.jsonText = v.jsonText := by
  rw [jsonText, toJson_erase, jsonText]

/-- Containers stay containers. -/
lemma isStructured_erase (h : v.isStructured = true) : v.erase.isStructured = true := by
  cases v with
  | array _ | object _ => rfl
  | _ => contradiction

/-- A list or an object is searched for by its JSON text. -/
lemma likeText_of_isStructured (h : v.isStructured = true) : v.likeText = v.jsonText := by
  cases v with
  | array _ | object _ => rfl
  | _ => contradiction

/-- What reduces custom values by itself, and takes lists and objects by their JSON text, does not
tell a value from its erasure. -/
lemma output_erase {α : Type} {output : Value → α} (text : String → α)
    (hcustom : ∀ canonical, output (.custom canonical) = output canonical)
    (hstructured : ∀ v : Value, v.isStructured = true → output v = text v.jsonText) (v : Value) :
    output v.erase = output v := by
  have hlist {v : Value} (h : v.isStructured = true) : output v.erase = output v := by
    rw [hstructured v h, hstructured v.erase (isStructured_erase h), jsonText_erase]
  induction v using Value.induction with
  | leaf v h => rw [erase_of_isLeaf h]
  | array items _ => exact hlist rfl
  | object fields _ => exact hlist rfl
  | custom canonical ih => rw [erase, ih, hcustom]

/-- A value is bound as the value erased. -/
theorem toCell_erase (v : Value) : v.erase.toCell = v.toCell :=
  output_erase Cell.text (fun canonical => by rw [toCell]) (fun _ => toCell_of_isStructured) v

theorem likeText_erase (v : Value) : v.erase.likeText = v.likeText :=
  output_erase id (fun canonical => by rw [likeText]) (fun _ => likeText_of_isStructured) v

/-- **Custom values leave no trace.**  Erasing gives a value without custom values, which is the
value itself exactly if it has none.  The erased value has the same document, binds as the same
cell and is searched for by the same pattern. -/
theorem outputs_erase (v : Value) :
    v.erase.Plain ∧ (v.erase = v ↔ v.Plain) ∧ v.erase.toJson = v.toJson ∧
      v.erase.toCell = v.toCell ∧ v.erase.likePattern = v.likePattern := by
  refine ⟨plain_erase v, erase_eq_self, toJson_erase v, toCell_erase v, ?_⟩
  rw [likePattern, likeText_erase, likePattern]

/-- A custom value inside an object inside a chain of two custom values. -/
example : (Value.custom (.custom (.object [("a", .custom (.string "1.50")), ("b", .null)]))).erase =
    .object [("a", .string "1.50"), ("b", .null)] := by
  rfl

end TableGateway.Value
