import TableGateway.Cell.Read
import TableGateway.Cell.Write
import TableGateway.Proofs.Json
import TableGateway.Proofs.Value.Json

/-!
# Values and documents back and forth

A document is read as a value and written again without loss, and so is a value that a document can
hold.  The way back to a document brings the members of objects into key order, and nothing else.

* `Value.IsDocument` — the values that a document holds as they are: scalars, and lists and objects
  of such values.
* `Value.sameAs_toJson_ofJson` — the document of a document's value is that document.
* `Value.IsDocument.ofJson_toJson` — the value of a value's document is that value.
* `Value.ofJson_eq_of_sameAs` — documents that are the same have the same value.
* **`Value.toJson_lossless`** — both ways, and the way through a bound cell and its JSON text.
-/

namespace TableGateway.Value

/-- A value that a document holds as it is. -/
inductive IsDocument : Value → Prop where
  | scalar {v : Value} (h : v.IsScalar) : IsDocument v
  | array {items : List Value} (h : ∀ v ∈ items, IsDocument v) : IsDocument (.array items)
  | object {fields : List (String × Value)} (hascending : Fields.Ascending fields)
      (h : ∀ f ∈ fields, IsDocument f.2) : IsDocument (.object fields)

/-! ## Lists and fields -/

lemma itemsToJson_eq_map (items : List Value) : itemsToJson items = items.map toJson := by
  induction items with
  | nil => rfl
  | cons v rest ih => rw [itemsToJson, ih, List.map_cons]

lemma itemsOfJson_eq_map (items : List Json) : itemsOfJson items = items.map ofJson := by
  induction items with
  | nil => rfl
  | cons j rest ih => rw [itemsOfJson, ih, List.map_cons]

lemma fieldsToJson_eq_map (fields : List (String × Value)) :
    fieldsToJson fields = fields.map fun f => (f.1, f.2.toJson) := by
  induction fields with
  | nil => rfl
  | cons f rest ih => rw [fieldsToJson, ih, List.map_cons]

lemma fieldsOfJson_eq_map (members : List (String × Json)) :
    fieldsOfJson members = members.map fun m => (m.1, ofJson m.2) := by
  induction members with
  | nil => rfl
  | cons m rest ih => rw [fieldsOfJson, ih, List.map_cons]

/-! ## Objects read and written -/

section

variable {members : List (String × Json)}

/-- What is found in the value of an object. -/
lemma find?_ofFields (hkeys : (members.map (·.1)).Nodup) (key : String) :
    Fields.find? key (Fields.ofList (fieldsOfJson members)) =
      (Json.member? key members).map ofJson := by
  have hfields : ((fieldsOfJson members).map (·.1)).Nodup := by
    simpa [fieldsOfJson_eq_map, Function.comp_def] using hkeys
  rw [Fields.find?_ofList, Fields.find?_reverse hfields, fieldsOfJson_eq_map, Fields.find?_map,
    Json.member?_eq_find?]

/-- What is found in an object that was read and written again. -/
lemma member?_toJson_ofJson (hkeys : (members.map (·.1)).Nodup) (key : String) :
    Json.member? key (fieldsToJson (Fields.ofList (fieldsOfJson members))) =
      (Json.member? key members).map fun j => (ofJson j).toJson := by
  rw [Json.member?_eq_find?, fieldsToJson_eq_map, Fields.find?_map, find?_ofFields hkeys,
    Option.map_map]
  rfl

/-- Fields in ascending order have distinct keys in a document. -/
lemma nodup_fieldsToJson {fields : List (String × Value)} (h : Fields.Ascending fields) :
    ((fieldsToJson fields).map (·.1)).Nodup := by
  rw [fieldsToJson_eq_map, List.map_map]
  exact h.nodup

end

/-! ## Documents read and written -/

/-- A number is written as it was read. -/
lemma toJson_ofNumber (n : Json.Number) : (ofNumber n).toJson = .number n := by
  cases n with
  | integer n hrange =>
    obtain ⟨hlow, hhigh⟩ := hrange
    rw [ofNumber]
    split
    · rename_i hsigned
      have hn : (Int64.ofInt n).toInt = n := Int64.toInt_ofInt_of_le hlow hsigned
      simp only [toJson, hn]
    · rename_i hsigned
      have hn : ((UInt64.ofNat n.toNat).toNat : Int) = n := by
        rw [UInt64.toNat_ofNat_of_lt' (by simp only [UInt64.size]; omega)]
        omega
      simp only [toJson, hn]
  | float x hfinite => exact floatToJson_of_finite hfinite

/-- The document of a document's value is that document. -/
theorem sameAs_toJson_ofJson {j : Json} (h : j.Distinct) : (ofJson j).toJson.SameAs j := by
  induction h with
  | @scalar j h =>
    have hj : (ofJson j).toJson = j := by
      cases j with
      | number n => exact toJson_ofNumber n
      | array _ | object _ => contradiction
      | _ => rfl
    rw [hj]
    exact .scalar h
  | @array items _ ih =>
    rw [ofJson, toJson, itemsToJson_eq_map, itemsOfJson_eq_map, List.map_map]
    refine .array (List.length_map _) fun i j k hj hk => ?_
    rw [List.getElem?_map, hk] at hj
    obtain rfl := Option.some.inj hj
    exact ih k (List.mem_of_getElem? hk)
  | @object members hkeys _ ih =>
    rw [ofJson, ofFields, toJson]
    refine .object (fun key => ?_) fun key j k hj hk => ?_
    · rw [member?_toJson_ofJson hkeys, Option.map_eq_none_iff]
    · rw [member?_toJson_ofJson hkeys, hk] at hj
      obtain rfl := Option.some.inj hj
      rw [Json.member?_eq_find?, Fields.find?_eq_some hkeys] at hk
      exact ih _ hk

/-- The document of a document's value repeats no key. -/
lemma distinct_toJson_ofJson {j : Json} (h : j.Distinct) : (ofJson j).toJson.Distinct := by
  induction h with
  | @scalar j h =>
    cases j with
    | number n =>
      rw [ofJson, toJson_ofNumber]
      exact .scalar rfl
    | array _ | object _ => contradiction
    | _ => exact .scalar rfl
  | @array items _ ih =>
    rw [ofJson, toJson, itemsToJson_eq_map, itemsOfJson_eq_map, List.map_map]
    exact .array (List.forall_mem_map.mpr ih)
  | @object members hkeys _ ih =>
    rw [ofJson, ofFields, toJson]
    have hnodup := nodup_fieldsToJson (Fields.ascending_ofList (fieldsOfJson members))
    refine .object hnodup fun m hm => ?_
    rw [← Fields.find?_eq_some hnodup, ← Json.member?_eq_find?, member?_toJson_ofJson hkeys,
      Option.map_eq_some_iff] at hm
    obtain ⟨j, hj, hm⟩ := hm
    rw [Json.member?_eq_find?, Fields.find?_eq_some hkeys] at hj
    exact hm ▸ ih _ hj

/-- Documents that are the same have the same value: the order of members leaves no trace. -/
theorem ofJson_eq_of_sameAs {j k : Json} (h : j.SameAs k) (hj : j.Distinct) (hk : k.Distinct) :
    ofJson j = ofJson k := by
  induction h with
  | scalar _ => rfl
  | @array items others hlength _ ih =>
    cases hj with
    | scalar h => contradiction
    | array hitems =>
      cases hk with
      | scalar h => contradiction
      | array hothers =>
        rw [ofJson, ofJson, itemsOfJson_eq_map, itemsOfJson_eq_map]
        refine congrArg array (List.ext_getElem (by simpa using hlength) fun i hi hi' => ?_)
        rw [List.getElem_map, List.getElem_map]
        exact ih i _ _ (List.getElem?_eq_getElem _) (List.getElem?_eq_getElem _)
          (hitems _ (List.getElem_mem _)) (hothers _ (List.getElem_mem _))
  | @object members others hsame _ ih =>
    cases hj with
    | scalar h => contradiction
    | object hkeys hmembers =>
      cases hk with
      | scalar h => contradiction
      | object hkeys' hothers =>
        rw [ofJson, ofJson, ofFields, ofFields]
        -- both sides are in key order, so it is enough to find the same under each key
        refine congrArg object ((Fields.ascending_ofList _).ext (Fields.ascending_ofList _)
          fun key => ?_)
        rw [find?_ofFields hkeys, find?_ofFields hkeys']
        cases hj : Json.member? key members with
        | none => rw [(hsame key).mp hj]
        | some j =>
          cases hk : Json.member? key others with
          | none => rw [(hsame key).mpr hk] at hj; contradiction
          | some k =>
            have hvalue := ih key j k hj hk
            rw [Json.member?_eq_find?, Fields.find?_eq_some hkeys] at hj
            rw [Json.member?_eq_find?, Fields.find?_eq_some hkeys'] at hk
            rw [Option.map_some, Option.map_some, hvalue (hmembers _ hj) (hothers _ hk)]

/-! ## Values written and read -/

variable {v : Value}

/-- The value of a value's document is that value. -/
theorem IsDocument.ofJson_toJson (h : v.IsDocument) : ofJson v.toJson = v := by
  induction h with
  | scalar h => exact h.ofJson_toJson
  | @array items _ ih =>
    rw [toJson, ofJson, itemsToJson_eq_map, itemsOfJson_eq_map, List.map_map]
    exact congrArg Value.array ((List.map_congr_left ih).trans (List.map_id' items))
  | @object fields hascending _ ih =>
    have hfields : fieldsOfJson (fieldsToJson fields) = fields := by
      have hfield : ∀ f ∈ fields, (f.1, ofJson f.2.toJson) = f := fun f hf => by rw [ih f hf]
      rw [fieldsToJson_eq_map, fieldsOfJson_eq_map, List.map_map]
      exact (List.map_congr_left hfield).trans (List.map_id' fields)
    rw [toJson, ofJson, hfields, ofFields, Fields.ofList_of_ascending hascending]

/-- The document of a value repeats no key. -/
lemma IsDocument.distinct_toJson (h : v.IsDocument) : v.toJson.Distinct := by
  induction h with
  | scalar h => exact .scalar h.isContainer_toJson
  | @array items _ ih =>
    rw [toJson, itemsToJson_eq_map]
    exact .array (List.forall_mem_map.mpr ih)
  | @object fields hascending _ ih =>
    rw [toJson]
    refine .object (nodup_fieldsToJson hascending) ?_
    rw [fieldsToJson_eq_map]
    exact List.forall_mem_map.mpr ih

/-- A scalar is the same as itself. -/
lemma IsScalar.same_self (h : v.IsScalar) : v.same v = true := by
  cases h with
  | float hfinite => exact Double.same_self_iff.mpr (Double.isNaN_of_isFinite hfinite)
  | _ => simp [same]

/-- Items that are the same as themselves make an array that is. -/
lemma sameItems_self {items : List Value} (h : ∀ v ∈ items, v.same v = true) :
    sameItems items items = true := by
  induction items with
  | nil => rfl
  | cons v rest ih =>
    obtain ⟨hv, hrest⟩ := List.forall_mem_cons.mp h
    rw [sameItems, hv, ih hrest, Bool.and_self]

lemma sameFields_self {fields : List (String × Value)} (h : ∀ f ∈ fields, f.2.same f.2 = true) :
    sameFields fields fields = true := by
  induction fields with
  | nil => rfl
  | cons f rest ih =>
    obtain ⟨hf, hrest⟩ := List.forall_mem_cons.mp h
    rw [sameFields, hf, ih hrest, beq_self_eq_true, Bool.and_self, Bool.and_self]

/-- A value that a document holds equals itself: it has no number that is none. -/
lemma IsDocument.same_self (h : v.IsDocument) : v.same v = true := by
  induction h with
  | scalar h => exact h.same_self
  | array _ ih => exact sameItems_self ih
  | object _ _ ih => exact sameFields_self ih

/-! ## Lists and objects through a cell -/

/-- A list or an object binds as its JSON text. -/
lemma toCell_of_isStructured (h : v.isStructured = true) : v.toCell = .text v.jsonText := by
  cases v with
  | array _ | object _ => rfl
  | _ => contradiction

/-- The text that a list or an object binds as is what is read back. -/
lemma toValue_toCell_of_isStructured (h : v.isStructured = true) (type : ColumnType) :
    v.toCell.toValue type = .string v.jsonText := by
  rw [toCell_of_isStructured h, Cell.text, Cell.toValue, Cell.bytesToValue,
    Text.Utf8.decode?_encode]

/-- **Documents and values are converted without loss**, in both directions.  The document of a
document's value is that document, its objects compared by what they hold under each key.  The value
of a value's document is that value.  A list or an object that was bound and is read back is a
string, and where the reader of documents makes of a text that was printed the document that was
printed, the value of that string's document is the list or the object. -/
theorem toJson_lossless :
    (∀ j : Json, j.Distinct → (ofJson j).toJson.Distinct ∧ (ofJson j).toJson.SameAs j) ∧
    (∀ v : Value, v.IsDocument → ofJson v.toJson = v ∧ (ofJson v.toJson == v) = true) ∧
    ∀ (v : Value) (type : ColumnType) (k : Json), v.IsDocument → v.isStructured = true →
      Json.parse? v.toJson.compact = some k → k.SameAs v.toJson →
      ∃ s, v.toCell.toValue type = .string s ∧ (Json.parse? s).map ofJson = some v := by
  refine ⟨fun j hj => ⟨distinct_toJson_ofJson hj, sameAs_toJson_ofJson hj⟩, fun v hv => ?_,
    fun v type k hv hstructured hparse hsame => ?_⟩
  · rw [hv.ofJson_toJson]
    exact ⟨rfl, hv.same_self⟩
  · have hk : ofJson k = v :=
      (ofJson_eq_of_sameAs hsame (Json.distinct_of_parse? hparse) hv.distinct_toJson).trans
        hv.ofJson_toJson
    exact ⟨v.jsonText, toValue_toCell_of_isStructured hstructured type, by
      rw [jsonText, hparse, Option.map_some, hk]⟩

/-- An object whose keys are out of order, with the least integer that is not a signed one. -/
theorem toJson_lossless_unsorted :
    (ofJson (.object [("b", .number (.integer 0x8000000000000000 (by decide))),
      ("a", .array [.null, .bool true])])).toJson.SameAs
        (.object [("b", .number (.integer 0x8000000000000000 (by decide))),
          ("a", .array [.null, .bool true])]) ∧
    ofJson (object [("a", .array [.null, .bool true]), ("b", .uint 0x8000000000000000)]).toJson =
      object [("a", .array [.null, .bool true]), ("b", .uint 0x8000000000000000)] ∧
    ∃ s, (object [("a", .array [.null, .bool true]),
        ("b", .uint 0x8000000000000000)]).toCell.toValue .other = .string s ∧
      (Json.parse? s).map ofJson =
        some (object [("a", .array [.null, .bool true]), ("b", .uint 0x8000000000000000)]) := by
  have hj : (Json.object [("b", .number (.integer 0x8000000000000000 (by decide))),
      ("a", .array [.null, .bool true])]).Distinct := by
    refine .object (by decide) (List.forall_mem_cons.mpr ⟨.scalar rfl, ?_⟩)
    refine List.forall_mem_singleton.mpr (.array (List.forall_mem_cons.mpr ⟨.scalar rfl, ?_⟩))
    exact List.forall_mem_singleton.mpr (.scalar rfl)
  have hv : (object [("a", .array [.null, .bool true]),
      ("b", .uint 0x8000000000000000)]).IsDocument := by
    refine .object (List.pairwise_pair.mpr (by decide)) (List.forall_mem_cons.mpr ⟨?_, ?_⟩)
    · refine .array (List.forall_mem_cons.mpr ⟨.scalar .null, ?_⟩)
      exact List.forall_mem_singleton.mpr (.scalar (.bool true))
    · exact List.forall_mem_singleton.mpr (.scalar (.uint (by decide)))
  have hparse : Json.parse? (object [("a", .array [.null, .bool true]),
      ("b", .uint 0x8000000000000000)]).toJson.compact =
        some (object [("a", .array [.null, .bool true]), ("b", .uint 0x8000000000000000)]).toJson :=
    rfl
  exact ⟨(toJson_lossless.1 _ hj).2, (toJson_lossless.2.1 _ hv).1,
    toJson_lossless.2.2 _ .other _ hv rfl hparse hv.distinct_toJson.sameAs_self⟩

end TableGateway.Value
