import TableGateway.Proofs.Except
import TableGateway.Proofs.Value.Canonical

/-!
# Equality of values

Equality descends into lists, objects and canonical forms and compares the numbers it meets as
numbers.  One level of it is a relation over any relation for what is inside; it can be turned round
and composed, and equality is the relation that is one level over itself.  Laws of equality are then
laws of one level.

* `Value.Alike` — one level of equality, with `Alike.flip` and `Alike.comp`.
* `same_iff_alike`, `same_induction` — equality by its levels.
* `same_symm`, `same_trans` — equality is a partial equivalence.
* `Value.Contains`, `Value.Numeric`, `same_self_iff` — a value equals itself if no NaN is inside it.
* `same_toJson` — equal values have equal documents.
* **`Value.same_partialEquiv`** — all of this at once.
-/

namespace TableGateway.Value

variable {R S T : Value → Value → Prop} {a b c : Value}

/-! ## One level of equality -/

/-- A value that equals just itself: a leaf that is no floating-point number. -/
def isExact : Value → Bool
  | .float _ | .array _ | .object _ | .custom _ => false
  | _ => true

/-- Fields of one name whose values are related. -/
def FieldBy (R : Value → Value → Prop) (f g : String × Value) : Prop :=
  f.1 = g.1 ∧ R f.2 g.2

/-- One level of equality: values of one kind, with what they have inside related by `R`. -/
inductive Alike (R : Value → Value → Prop) : Value → Value → Prop where
  | leaf {v : Value} (h : v.isExact = true) : Alike R v v
  | float {x y : Double} (h : x.same y = true) : Alike R (.float x) (.float y)
  | array {items others : List Value} (h : List.Forall₂ R items others) :
      Alike R (.array items) (.array others)
  | object {fields others : List (String × Value)} (h : List.Forall₂ (FieldBy R) fields others) :
      Alike R (.object fields) (.object others)
  | custom {v w : Value} (h : R v w) : Alike R (.custom v) (.custom w)

/-- Values that are alike by a relation are alike by a wider one. -/
lemma Alike.imp (hRS : ∀ v w, R v w → S v w) (h : Alike R a b) : Alike S a b := by
  cases h with
  | leaf h => exact .leaf h
  | float h => exact .float h
  | array h => exact .array (h.imp hRS)
  | object h => exact .object (h.imp fun f g hfg => ⟨hfg.1, hRS f.2 g.2 hfg.2⟩)
  | custom h => exact .custom (hRS _ _ h)

/-- Being alike may be read from the other side. -/
theorem Alike.flip (h : Alike R a b) : Alike (flip R) b a := by
  cases h with
  | leaf h => exact .leaf h
  | float h => exact .float (Double.same_symm h)
  | array h => exact .array h.flip
  | object h => exact .object (h.imp fun f g hfg => ⟨hfg.1.symm, hfg.2⟩).flip
  | custom h => exact .custom h

/-- Values that are alike to one value each are alike by the composed relation. -/
theorem Alike.comp (hT : ∀ u v w, R u v → S v w → T u w) (hab : Alike R a b)
    (hbc : Alike S b c) : Alike T a c := by
  cases hab with
  | leaf h =>
    cases hbc with
    | leaf _ => exact .leaf h
    | _ => contradiction
  | float hab =>
    cases hbc with
    | leaf h => contradiction
    | float hbc => exact .float (Double.same_trans hab hbc)
  | array hab =>
    cases hbc with
    | leaf h => contradiction
    | array hbc => exact .array (forall₂_comp hT hab hbc)
  | object hab =>
    cases hbc with
    | leaf h => contradiction
    | object hbc =>
      refine .object (forall₂_comp (fun e f g hef hfg => ?_) hab hbc)
      exact ⟨hef.1.trans hfg.1, hT _ _ _ hef.2 hfg.2⟩
  | custom hab =>
    cases hbc with
    | leaf h => contradiction
    | custom hbc => exact .custom (hT _ _ _ hab hbc)

/-! ## Equality by its levels -/

lemma sameItems_iff {items others : List Value} :
    sameItems items others = true ↔ List.Forall₂ (fun v w => v.same w = true) items others := by
  induction items generalizing others with
  | nil => cases others <;> simp [sameItems]
  | cons v rest ih => cases others <;> simp [sameItems, ih]

lemma sameFields_iff {fields others : List (String × Value)} :
    sameFields fields others = true ↔
      List.Forall₂ (FieldBy fun v w => v.same w = true) fields others := by
  induction fields generalizing others with
  | nil => cases others <;> simp [sameFields]
  | cons f rest ih => cases others <;> simp [sameFields, FieldBy, ih, and_assoc]

/-- Exact values are the same only as themselves. -/
lemma same_iff_eq (h : a.isExact = true) : a.same b = true ↔ a = b := by
  cases a with
  | float _ | array _ | object _ | custom _ => contradiction
  | _ => cases b <;> simp [same]

/-- Values are the same if they are alike by being the same. -/
theorem same_iff_alike : a.same b = true ↔ Alike (fun v w => v.same w = true) a b := by
  constructor
  · intro h
    cases a with
    | float x =>
      cases b with
      | float y => exact .float h
      | _ => simp [same] at h
    | array items =>
      cases b with
      | array others => exact .array (sameItems_iff.mp h)
      | _ => simp [same] at h
    | object fields =>
      cases b with
      | object others => exact .object (sameFields_iff.mp h)
      | _ => simp [same] at h
    | custom canonical =>
      cases b with
      | custom other => exact .custom h
      | _ => simp [same] at h
    | _ =>
      obtain rfl := (same_iff_eq rfl).mp h
      exact .leaf rfl
  · intro h
    cases h with
    | leaf h => exact (same_iff_eq h).mpr rfl
    | float h => exact h
    | array h => exact sameItems_iff.mpr h
    | object h => exact sameFields_iff.mpr h
    | custom h => exact h

/-- What holds of alike values if it holds of what is equal inside them, holds of equal values. -/
theorem same_induction {motive : Value → Value → Prop}
    (alike : ∀ v w, Alike (fun v w => v.same w = true ∧ motive v w) v w → motive v w)
    (h : a.same b = true) : motive a b := by
  induction a using Value.induction generalizing b with
  | leaf v _ =>
    refine alike v b ?_
    cases same_iff_alike.mp h with
    | leaf hleaf => exact .leaf hleaf
    | float hxy => exact .float hxy
    | _ => contradiction
  | array items ih =>
    refine alike (.array items) b ?_
    cases same_iff_alike.mp h with
    | leaf hleaf => contradiction
    | array hitems =>
      have hboth := (List.forall₂_and_left _ _).mpr ⟨ih, hitems⟩
      exact .array (hboth.imp fun v w hvw => ⟨hvw.2, hvw.1 hvw.2⟩)
  | object fields ih =>
    refine alike (.object fields) b ?_
    cases same_iff_alike.mp h with
    | leaf hleaf => contradiction
    | object hfields =>
      have hboth := (List.forall₂_and_left _ _).mpr ⟨ih, hfields⟩
      exact .object (hboth.imp fun f g hfg => ⟨hfg.2.1, hfg.2.2, hfg.1 hfg.2.2⟩)
  | custom canonical ih =>
    refine alike (.custom canonical) b ?_
    cases same_iff_alike.mp h with
    | leaf hleaf => contradiction
    | custom hcanonical => exact .custom ⟨hcanonical, ih hcanonical⟩

theorem same_symm (h : a.same b = true) : b.same a = true := by
  refine same_induction (motive := fun v w => w.same v = true) (fun v w hvw => ?_) h
  exact same_iff_alike.mpr (hvw.flip.imp fun _ _ hinside => hinside.2)

theorem same_trans (hab : a.same b = true) (hbc : b.same c = true) : a.same c = true := by
  -- the induction is on the first equality, so what it gives inside is for any third value
  refine same_induction (motive := fun v w => ∀ u, w.same u = true → v.same u = true)
    (fun v w hvw u hwu => ?_) hab c hbc
  exact same_iff_alike.mpr (hvw.comp (fun _ _ u hinside => hinside.2 u) (same_iff_alike.mp hwu))

instance : PartialEquivBEq Value := ⟨same_symm, same_trans⟩

/-! ## Values that equal themselves -/

/-- What is inside a value, itself included: in the items of lists, in the values of objects, and in
canonical forms. -/
inductive Contains : Value → Value → Prop where
  | self (v : Value) : Contains v v
  | item {items : List Value} {v w : Value} (hv : v ∈ items) (h : Contains v w) :
      Contains (.array items) w
  | field {fields : List (String × Value)} {f : String × Value} {w : Value} (hf : f ∈ fields)
      (h : Contains f.2 w) : Contains (.object fields) w
  | canonical {v w : Value} (h : Contains v w) : Contains (.custom v) w

/-- No floating-point number inside the value is NaN. -/
def Numeric (v : Value) : Prop :=
  ∀ x : Double, v.Contains (.float x) → x.isNaN = false

/-- A float is numeric unless it is no number. -/
lemma numeric_float {x : Double} : Numeric (.float x) ↔ x.isNaN = false := by
  constructor
  · exact fun h => h x (.self _)
  · intro h y hy
    cases hy
    exact h

/-- Exact values are numeric. -/
lemma numeric_of_isExact (h : a.isExact = true) : a.Numeric := by
  intro x hx
  cases hx <;> contradiction

lemma numeric_array {items : List Value} :
    Numeric (.array items) ↔ ∀ v ∈ items, v.Numeric := by
  constructor
  · exact fun h v hv x hx => h x (.item hv hx)
  · intro h x hx
    cases hx with
    | item hv hx => exact h _ hv x hx

lemma numeric_object {fields : List (String × Value)} :
    Numeric (.object fields) ↔ ∀ f ∈ fields, f.2.Numeric := by
  constructor
  · exact fun h f hf x hx => h x (.field hf hx)
  · intro h x hx
    cases hx with
    | field hf hx => exact h _ hf x hx

lemma numeric_custom : Numeric (.custom a) ↔ a.Numeric := by
  constructor
  · exact fun h x hx => h x (.canonical hx)
  · intro h x hx
    cases hx with
    | canonical hx => exact h x hx

/-- Just the values with no NaN inside equal themselves. -/
theorem same_self_iff : a.same a = true ↔ a.Numeric := by
  induction a using Value.induction with
  | leaf v hv =>
    cases v with
    | float x => rw [numeric_float, same, Double.same_self_iff]
    | array _ | object _ | custom _ => contradiction
    | _ => exact iff_of_true ((same_iff_eq rfl).mpr rfl) (numeric_of_isExact rfl)
  | array items ih =>
    rw [numeric_array, same, sameItems_iff, List.forall₂_same]
    exact forall₂_congr ih
  | object fields ih =>
    rw [numeric_object, same, sameFields_iff, List.forall₂_same]
    exact forall₂_congr fun f hf => (and_iff_right rfl).trans (ih f hf)
  | custom canonical ih => rw [numeric_custom, same, ih]

/-! ## The documents of equal values -/

lemma orderedItems_iff {items : List Value} :
    OrderedItems items ↔ ∀ v ∈ items, v.Ordered := by
  induction items with
  | nil => simp [OrderedItems]
  | cons v rest ih => rw [OrderedItems, ih, List.forall_mem_cons]

lemma orderedFields_iff {fields : List (String × Value)} :
    OrderedFields fields ↔ ∀ f ∈ fields, f.2.Ordered := by
  induction fields with
  | nil => simp [OrderedFields]
  | cons f rest ih => rw [OrderedFields, ih, List.forall_mem_cons]

/-- Floats that are the same have the same document. -/
lemma same_floatToJson {x y : Double} (h : x.same y = true) :
    (floatToJson x).same (floatToJson y) = true := by
  have hfinite := Double.isFinite_eq_of_same h
  by_cases hx : x.isFinite = true
  · rw [floatToJson_of_finite hx, floatToJson_of_finite (hfinite ▸ hx)]
    exact h
  · have hy : ¬y.isFinite = true := hfinite ▸ hx
    rw [floatToJson, dif_neg hx, floatToJson, dif_neg hy, Json.same]

/-- The document of an exact value is a scalar. -/
lemma isContainer_toJson (h : a.isExact = true) : a.toJson.isContainer = false := by
  cases a with
  | float _ | array _ | object _ | custom _ => contradiction
  | _ => rfl

/-- Fields that correspond have the same names. -/
lemma names_of_fieldBy {fields others : List (String × Value)}
    (h : List.Forall₂ (FieldBy R) fields others) : others.map (·.1) = fields.map (·.1) :=
  map_eq_of_forall₂ h fun _ _ hfg => hfg.1.symm

/-- Ordered values that are the same have the same document. -/
theorem same_toJson (ha : a.Ordered) (h : a.same b = true) : a.toJson.same b.toJson = true := by
  refine same_induction
    (motive := fun v w => v.Ordered → v.toJson.same w.toJson = true) (fun v w h hv => ?_) h ha
  cases h with
  | leaf h => exact Json.same_self_of_scalar (isContainer_toJson h)
  | float h => exact same_floatToJson h
  | array h =>
    have hboth := (List.forall₂_and_left _ _).mpr ⟨orderedItems_iff.mp hv, h⟩
    rw [toJson, toJson, Json.same, Json.sameItems_iff, itemsToJson_eq_map, itemsToJson_eq_map,
      List.forall₂_map_left_iff, List.forall₂_map_right_iff]
    exact hboth.imp fun v w hvw => hvw.2.2 hvw.1
  | object h =>
    obtain ⟨hascending, hfields⟩ := hv
    have hboth := (List.forall₂_and_left _ _).mpr ⟨orderedFields_iff.mp hfields, h⟩
    rw [toJson, toJson]
    refine Json.same_object ?_ ?_
    -- both objects have the same names, so it is enough that those of the first are distinct
    · rw [fieldsToJson_eq_map, List.map_map]
      exact (names_of_fieldBy h) ▸ hascending.nodup
    · rw [fieldsToJson_eq_map, fieldsToJson_eq_map, List.forall₂_map_left_iff,
        List.forall₂_map_right_iff]
      exact hboth.imp fun f g hfg => ⟨hfg.2.1, hfg.2.2.2 hfg.1⟩
  | custom h => exact h.2 hv

/-- An object that is built of ordered values is ordered. -/
lemma ordered_ofFields {fields : List (String × Value)} (h : ∀ f ∈ fields, f.2.Ordered) :
    (ofFields fields).Ordered := by
  have hascending := Fields.ascending_ofList fields
  refine ⟨hascending, orderedFields_iff.mpr fun f hf => h f ?_⟩
  rw [← Fields.find?_eq_some hascending.nodup, Fields.find?_ofList_eq_some] at hf
  obtain ⟨before, after, rfl, -⟩ := hf
  exact List.mem_append_right before List.mem_cons_self

/-- **Equality of values is a partial equivalence.**  It is symmetric and transitive, and a value
equals itself exactly if no number that is reached through items, fields and canonical forms is NaN.
A custom value equals no value that is not custom.  Equal values have equal documents; their objects
are taken to hold their fields in key order, as every object does that is built of fields. -/
theorem same_partialEquiv :
    (∀ a b : Value, (a == b) = true → (b == a) = true) ∧
    (∀ a b c : Value, (a == b) = true → (b == c) = true → (a == c) = true) ∧
    (∀ a : Value, (a == a) = true ↔ ∀ x : Double, a.Contains (.float x) → x.isNaN = false) ∧
    (∀ canonical v : Value, (∀ other, v ≠ .custom other) →
      (Value.custom canonical == v) = false ∧ (v == Value.custom canonical) = false) ∧
    ∀ a b : Value, a.Ordered → (a == b) = true → a.toJson.same b.toJson = true := by
  refine ⟨fun _ _ => same_symm, fun _ _ _ => same_trans, fun _ => same_self_iff,
    fun canonical v hv => ?_, fun _ _ => same_toJson⟩
  have hne : (Value.custom canonical == v) = false := by
    refine Bool.eq_false_iff.mpr fun h => ?_
    cases same_iff_alike.mp h with
    | leaf hleaf => contradiction
    | custom _ => exact hv _ rfl
  exact ⟨hne, BEq.comm.trans hne⟩

/-- Zero and its negative inside lists inside objects, a NaN behind a canonical form, and a decimal
number beside its text. -/
theorem same_partialEquiv_zeros :
    (ofFields [("b", .custom .null), ("a", .array [.float ⟨0⟩])] ==
      ofFields [("a", .array [.float ⟨0x8000000000000000⟩]), ("b", .custom .null)]) = true ∧
    (ofFields [("a", .array [.float ⟨0x8000000000000000⟩]), ("b", .custom .null)] ==
      ofFields [("b", .custom .null), ("a", .array [.float ⟨0⟩])]) = true ∧
    (ofFields [("b", .custom .null), ("a", .array [.float ⟨0⟩])] ==
      ofFields [("b", .custom .null), ("a", .array [.float ⟨0⟩])]) = true ∧
    ¬(array [.custom (.float ⟨0x7FF8000000000000⟩)] ==
      array [.custom (.float ⟨0x7FF8000000000000⟩)]) = true ∧
    (Value.custom (.string "1.50") == .string "1.50") = false ∧
    (ofFields [("b", .custom .null), ("a", .array [.float ⟨0⟩])]).toJson.same
      (ofFields [("a", .array [.float ⟨0x8000000000000000⟩]), ("b", .custom .null)]).toJson =
        true := by
  obtain ⟨hsymm, htrans, hself, hcustom, hjson⟩ := same_partialEquiv
  have hzeros : (ofFields [("b", .custom .null), ("a", .array [.float ⟨0⟩])] ==
      ofFields [("a", .array [.float ⟨0x8000000000000000⟩]), ("b", .custom .null)]) = true := by
    decide
  have hordered : (ofFields [("b", .custom .null), ("a", .array [.float ⟨0⟩])]).Ordered := by
    refine ordered_ofFields (List.forall_mem_cons.mpr ⟨trivial, ?_⟩)
    exact List.forall_mem_singleton.mpr ⟨trivial, trivial⟩
  refine ⟨hzeros, hsymm _ _ hzeros, htrans _ _ _ hzeros (hsymm _ _ hzeros), fun h => ?_,
    (hcustom _ _ fun _ => Value.noConfusion).1, hjson _ _ hordered hzeros⟩
  have hnumber := (hself _).mp h ⟨0x7FF8000000000000⟩
    (.item List.mem_cons_self (.canonical (.self _)))
  exact absurd hnumber (by decide)

end TableGateway.Value
