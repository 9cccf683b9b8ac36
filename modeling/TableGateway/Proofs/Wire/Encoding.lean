import TableGateway.Proofs.Value.Json
import TableGateway.Proofs.Wire.Decoding

/-!
# Writing criteria for the wire

Criteria of any depth have a document that decodes to them, tree for tree: every comparison and
every group is an object of its own with a single entry, and a single entry stands for itself
wherever the decoder meets it.

* `encode` — the document of criteria.  A comparison by equality may leave its operator out.
* `Writable` — the criteria that can be written.
* **`criteriaOf_encode`** — the document of criteria decodes to them.
-/

namespace TableGateway.Wire

/-! ## The document of criteria -/

/-- The key of a comparison: the field and the operator, where `brief` may leave equality out. -/
def keyOf (brief : Comparison → Bool) (c : Comparison) : String :=
  if c.operator = .eq ∧ brief c = true then c.field else c.field ++ "!" ++ c.operator.name

/-- The key of a group. -/
def groupKey : Combinator → String
  | .and => andKey
  | .or => orKey

mutual

/-- The document of criteria: an object of one entry, which is the comparison, or the group with the
documents of its members for branches. -/
def encode (brief : Comparison → Bool) : Criterion → Json
  | .comparison c => .object [(keyOf brief c, c.value.toJson)]
  | .group kind members => .object [(groupKey kind, .array (encodeAll brief members))]

/-- The documents of a list of criteria. -/
def encodeAll (brief : Comparison → Bool) : List Criterion → List Json
  | [] => []
  | c :: rest => encode brief c :: encodeAll brief rest

end

/-- Criteria that can be written: every group has members, every field has a name without `!`, and
every value is a scalar. -/
inductive Writable : Criterion → Prop where
  | comparison {c : Comparison} (hfield : c.field ≠ "") (hmark : '!' ∉ c.field.toList)
      (hvalue : c.value.IsScalar) : Writable (.comparison c)
  | group (kind : Combinator) {members : List Criterion} (hne : members ≠ [])
      (h : ∀ c ∈ members, Writable c) : Writable (.group kind members)

variable {brief : Comparison → Bool} {c : Criterion}

lemma encodeAll_eq_map (members : List Criterion) :
    encodeAll brief members = members.map (encode brief) := by
  induction members with
  | nil => rfl
  | cons c rest ih => rw [encodeAll, ih, List.map_cons]

/-! ## Keys read back -/

section

variable {field : String}

lemma forall_ne_mark (hmark : '!' ∉ field.toList) :
    ∀ d ∈ field.toList, decide (d ≠ '!') = true := by
  intro d hd
  have hne : d ≠ '!' := fun h => hmark (h ▸ hd)
  simpa using hne

/-- A key without a mark is a field. -/
lemma splitKey_field (hmark : '!' ∉ field.toList) : splitKey field = (field, none) := by
  have hall := forall_ne_mark hmark
  simp only [splitKey, List.takeWhile_eq_self_iff.mpr hall, List.dropWhile_eq_nil_iff.mpr hall,
    String.ofList_toList]

lemma splitKey_append (hmark : '!' ∉ field.toList) (name : String) :
    splitKey (field ++ "!" ++ name) = (field, some name) := by
  have hall := forall_ne_mark hmark
  have hlist : (field ++ "!" ++ name).toList = field.toList ++ '!' :: name.toList := by simp
  simp only [splitKey, hlist, List.takeWhile_append_of_pos hall, List.dropWhile_append_of_pos hall]
  simp

end

/-- The key of a comparison gives back its field and operator. -/
lemma splitKey_keyOf (brief : Comparison → Bool) {c : Comparison}
    (hmark : '!' ∉ c.field.toList) :
    ∃ part, splitKey (keyOf brief c) = (c.field, part) ∧ operatorOf part = .ok c.operator := by
  rw [keyOf]
  split
  · rename_i hbrief
    exact ⟨none, splitKey_field hmark, by rw [operatorOf, hbrief.1, Operator.default]⟩
  · exact ⟨some c.operator.name, splitKey_append hmark _, by
      rw [operatorOf, Operator.ofName?_name]⟩

/-- The key of a group is read as its kind. -/
lemma groupOf?_groupKey (kind : Combinator) : groupOf? (groupKey kind) = some kind := by
  cases kind with
  | and => rfl
  | or => rfl

/-- The key of a comparison names no group: such a key has no field. -/
lemma groupOf?_keyOf {c : Comparison} (hfield : c.field ≠ "") (hmark : '!' ∉ c.field.toList) :
    groupOf? (keyOf brief c) = none := by
  obtain ⟨part, hsplit, -⟩ := splitKey_keyOf brief hmark
  cases hkey : groupOf? (keyOf brief c) with
  | none => rfl
  | some kind =>
    refine absurd (congrArg Prod.fst hsplit).symm ?_
    obtain ⟨horKey, -⟩ | ⟨handKey, -⟩ := groupOf?_eq_some.mp hkey
    · rw [horKey]
      exact hfield
    · rw [handKey]
      exact hfield

/-! ## Documents read back -/

/-- A comparison is decoded from its key and value. -/
lemma comparisonOf_keyOf {c : Comparison} (hfield : c.field ≠ "") (hmark : '!' ∉ c.field.toList)
    (hvalue : c.value.IsScalar) :
    comparisonOf (keyOf brief c) c.value.toJson = .ok (.comparison c) := by
  obtain ⟨part, hsplit, hop⟩ := splitKey_keyOf brief hmark
  simp only [comparisonOf, hsplit, hop]
  change (if c.field = "" then _ else _) = _
  simp [hfield, hvalue.isContainer_toJson, hvalue.ofJson_toJson, Criterion.compare]

section

variable {key : String} {value : Json}

/-- An object of one entry decodes as it. -/
lemma entriesOf_single (h : entryOf key value = .ok c) : entriesOf [(key, value)] = .ok [c] :=
  entriesOf_eq_ok.mpr (.cons h .nil)

/-- A branch of a single entry is that entry. -/
lemma branchAt_single {group : String} (h : entryOf key value = .ok c) :
    branchAt group (.object [(key, value)]) = .ok c := by
  rw [branchAt, entriesOf_single h]
  rfl

end

/-- The document of criteria is an object of one entry, and that entry decodes to them. -/
lemma exists_entry_encode (brief : Comparison → Bool) (h : Writable c) :
    ∃ key value, encode brief c = .object [(key, value)] ∧ entryOf key value = .ok c := by
  induction h with
  | comparison hfield hmark hvalue =>
    refine ⟨_, _, rfl, ?_⟩
    rw [entryOf_of_none (groupOf?_keyOf hfield hmark)]
    exact comparisonOf_keyOf hfield hmark hvalue
  | @group kind members hne _ ih =>
    refine ⟨_, _, rfl, ?_⟩
    have hbranches : branchesOf (groupKey kind) (encodeAll brief members) = .ok members := by
      rw [encodeAll_eq_map]
      refine (sequence_eq_ok (branchAt _) (branchesOf _) rfl (branchesOf_cons _)).mpr ?_
      refine List.forall₂_map_left_iff.mpr (List.forall₂_same.mpr fun c hc => ?_)
      obtain ⟨key, value, hencode, hentry⟩ := ih c hc
      rw [hencode]
      exact branchAt_single hentry
    have hsome : encodeAll brief members ≠ [] := by
      rw [encodeAll_eq_map]
      simpa using hne
    rw [entryOf_group (groupOf?_groupKey kind) hsome, hbranches]
    rfl

/-- **Criteria can be written at any depth.**  Their document decodes to the same tree, whichever of
the comparisons by equality leave their operator out.  A group of one member stays a group, and a
group inside another of its kind stays where it is. -/
theorem criteriaOf_encode (brief : Comparison → Bool) (h : Writable c) :
    criteriaOf (encode brief c) = .ok (some c) := by
  obtain ⟨key, value, hencode, hentry⟩ := exists_entry_encode brief h
  rw [hencode, criteriaOf, entriesOf_single hentry]
  rfl

/-- A conjunction of a conjunction with one member, a comparison that leaves its operator out, and a
disjunction. -/
theorem criteriaOf_encode_nested :
    criteriaOf (.object [("!and", .array [
        .object [("!and", .array [.object [("a!gt", .bool true)]])],
        .object [("b", .null)],
        .object [("!or", .array [
          .object [("c!like", .string "x")],
          .object [("d!ne", .number (.integer 0xFFFFFFFFFFFFFFFF (by decide)))]])]])]) =
      .ok (some (.group .and [
        .group .and [.comparison ⟨"a", .gt, .bool true⟩],
        .comparison ⟨"b", .eq, .null⟩,
        .group .or [.comparison ⟨"c", .like, .string "x"⟩,
          .comparison ⟨"d", .ne, .uint 0xFFFFFFFFFFFFFFFF⟩]])) := by
  have hinner : Writable (.group .and [.comparison ⟨"a", .gt, .bool true⟩]) :=
    .group .and (List.cons_ne_nil _ _) (List.forall_mem_singleton.mpr
      (.comparison (by decide) (by decide) (.bool true)))
  have hequal : Writable (.comparison ⟨"b", .eq, .null⟩) :=
    .comparison (by decide) (by decide) .null
  have heither : Writable (.group .or [.comparison ⟨"c", .like, .string "x"⟩,
      .comparison ⟨"d", .ne, .uint 0xFFFFFFFFFFFFFFFF⟩]) :=
    .group .or (List.cons_ne_nil _ _) (List.forall_mem_cons.mpr
      ⟨.comparison (by decide) (by decide) (.string "x"), List.forall_mem_singleton.mpr
        (.comparison (by decide) (by decide) (.uint (by decide)))⟩)
  exact criteriaOf_encode (fun _ => true) (.group .and (List.cons_ne_nil _ _)
    (List.forall_mem_cons.mpr ⟨hinner, List.forall_mem_cons.mpr
      ⟨hequal, List.forall_mem_singleton.mpr heither⟩⟩))

end TableGateway.Wire
