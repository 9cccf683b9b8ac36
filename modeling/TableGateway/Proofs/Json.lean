import TableGateway.Json.Reader
import TableGateway.Proofs.Except
import TableGateway.Proofs.Fields

/-!
# Documents as maps

The objects of a document are maps from keys to values: the reader never leaves two members of one
key, and documents are compared by what their objects hold under each key.

* `Json.induction` — what holds of documents, by containers.
* `Json.Distinct` — no object, at any depth, has two members of one key.
* `Json.SameAs` — equality where the order of members does not matter.
* `Json.same` — the same with numbers compared as numbers, so that zero equals its negative.
* `ofMembers_of_nodup` — members without a repeated key are an object as they are written.
* `distinct_of_parse?` — every document that is read is distinct.
-/

namespace TableGateway.Json

/-- What holds of everything that is no list and no object, of a list if of its items, and of an
object if of its values, holds of every document. -/
@[elab_as_elim]
theorem induction {motive : Json → Prop}
    (scalar : ∀ j, j.isContainer = false → motive j)
    (array : ∀ items, (∀ j ∈ items, motive j) → motive (.array items))
    (object : ∀ members, (∀ m ∈ members, motive m.2) → motive (.object members)) :
    ∀ j, motive j :=
  Json.rec (motive_2 := fun items => ∀ j ∈ items, motive j)
    (motive_3 := fun members => ∀ m ∈ members, motive m.2) (motive_4 := fun m => motive m.2)
    (scalar _ rfl) (fun _ => scalar _ rfl) (fun _ => scalar _ rfl) (fun _ => scalar _ rfl) array
    object (by simp) (fun _ _ hj hitems => List.forall_mem_cons.mpr ⟨hj, hitems⟩) (by simp)
    (fun _ _ hm hmembers => List.forall_mem_cons.mpr ⟨hm, hmembers⟩) (fun _ _ h => h)

/-- No object in a document has two members of one key, at any depth. -/
inductive Distinct : Json → Prop where
  | scalar {j : Json} (h : j.isContainer = false) : Distinct j
  | array {items : List Json} (h : ∀ j ∈ items, Distinct j) : Distinct (.array items)
  | object {members : List (String × Json)} (hkeys : (members.map (·.1)).Nodup)
      (h : ∀ m ∈ members, Distinct m.2) : Distinct (.object members)

/-- Equality of documents.  Lists are equal place by place, and objects if they have the same keys
and equal values under each of them. -/
inductive SameAs : Json → Json → Prop where
  | scalar {j : Json} (h : j.isContainer = false) : SameAs j j
  | array {items others : List Json} (hlength : items.length = others.length)
      (h : ∀ (i : Nat) (j k : Json), items[i]? = some j → others[i]? = some k → SameAs j k) :
      SameAs (.array items) (.array others)
  | object {members others : List (String × Json)}
      (hkeys : ∀ key, member? key members = none ↔ member? key others = none)
      (h : ∀ (key : String) (j k : Json), member? key members = some j →
        member? key others = some k → SameAs j k) :
      SameAs (.object members) (.object others)

/-- A member is found as a field is. -/
lemma member?_eq_find? (key : String) (members : List (String × Json)) :
    member? key members = Fields.find? key members := by
  induction members with
  | nil => rfl
  | cons m rest ih =>
    obtain ⟨k, v⟩ := m
    rw [member?, Fields.find?, ih]

/-- A document is the same as itself. -/
lemma Distinct.sameAs_self {j : Json} (h : j.Distinct) : j.SameAs j := by
  induction h with
  | scalar h => exact .scalar h
  | array _ ih =>
    refine .array rfl fun i j k hj hk => ?_
    obtain rfl := Option.some.inj (hj.symm.trans hk)
    exact ih j (List.mem_of_getElem? hj)
  | object hkeys _ ih =>
    refine .object (fun _ => Iff.rfl) fun key j k hj hk => ?_
    obtain rfl := Option.some.inj (hj.symm.trans hk)
    rw [member?_eq_find?, Fields.find?_eq_some hkeys] at hj
    exact ih (key, j) hj

/-! ## Documents with their numbers compared as numbers -/

/-- Equality of numbers.  An integer equals no number that has a fraction or an exponent. -/
def Number.same : Number → Number → Bool
  | .integer a _, .integer b _ => a == b
  | .float x _, .float y _ => x.same y
  | _, _ => false

mutual

/-- Equality of documents with their numbers compared as numbers.  Objects are equal if they have as
many members, and each of one equals what the other holds under its key. -/
def same : Json → Json → Bool
  | .null, .null => true
  | .bool a, .bool b => a == b
  | .number m, .number n => m.same n
  | .string s, .string t => s == t
  | .array items, .array others => sameItems items others
  | .object members, .object others =>
    members.length == others.length && sameMembers members others
  | _, _ => false

/-- Equality of lists of documents, place by place. -/
def sameItems : List Json → List Json → Bool
  | [], [] => true
  | j :: js, k :: ks => same j k && sameItems js ks
  | _, _ => false

/-- Every member equals what is held under its key among the others. -/
def sameMembers : List (String × Json) → List (String × Json) → Bool
  | [], _ => true
  | (key, j) :: rest, others =>
    (match member? key others with
      | some k => same j k
      | none => false) && sameMembers rest others

end

/-- Arrays are the same if they are so item by item. -/
lemma sameItems_iff {items others : List Json} :
    sameItems items others = true ↔ List.Forall₂ (fun j k => j.same k = true) items others := by
  induction items generalizing others with
  | nil => cases others <;> simp [sameItems]
  | cons j rest ih => cases others <;> simp [sameItems, ih]

/-- Objects are compared member by member, by their keys. -/
lemma sameMembers_iff {members others : List (String × Json)} :
    sameMembers members others = true ↔
      ∀ m ∈ members, ∃ k, member? m.1 others = some k ∧ m.2.same k = true := by
  induction members with
  | nil => simp [sameMembers]
  | cons m rest ih =>
    obtain ⟨key, j⟩ := m
    cases h : member? key others <;> simp [sameMembers, h, ih]

/-- A number of a document is a finite one. -/
lemma Number.same_self (n : Number) : n.same n = true := by
  cases n with
  | integer n _ => exact beq_self_eq_true n
  | float x hfinite => exact Double.same_self_iff.mpr (Double.isNaN_of_isFinite hfinite)

/-- A scalar is the same as itself. -/
lemma same_self_of_scalar {j : Json} (h : j.isContainer = false) : j.same j = true := by
  cases j with
  | number n => exact n.same_self
  | array _ | object _ => contradiction
  | _ => simp [same]

/-- Objects whose members are equal in the order written are equal. -/
lemma same_object {members others : List (String × Json)} (hkeys : (others.map (·.1)).Nodup)
    (h : List.Forall₂ (fun m n => m.1 = n.1 ∧ m.2.same n.2 = true) members others) :
    (object members).same (object others) = true := by
  rw [same, h.length_eq, beq_self_eq_true, Bool.true_and, sameMembers_iff]
  intro m hm
  obtain ⟨n, hn, hkey, hsame⟩ := exists_of_mem_right h.flip hm
  refine ⟨n.2, ?_, hsame⟩
  rw [member?_eq_find?, Fields.find?_eq_some hkeys, hkey]
  exact hn

/-! ## Members that are written -/

section

variable {key : String} {value : Json} {members : List (String × Json)}

/-- A member that is written is among the members afterwards, with those from before. -/
lemma mem_setMember {m : String × Json} (h : m ∈ setMember key value members) :
    m = (key, value) ∨ m ∈ members := by
  induction members with
  | nil => simpa [setMember] using h
  | cons n rest ih =>
    obtain ⟨k, v⟩ := n
    rw [setMember] at h
    split at h
    · rename_i hk
      rcases List.mem_cons.mp h with h | h
      · exact .inl (h.trans (by rw [hk]))
      · exact .inr (List.mem_cons_of_mem _ h)
    · rcases List.mem_cons.mp h with h | h
      · exact .inr (h ▸ List.mem_cons_self)
      · exact (ih h).imp_right (List.mem_cons_of_mem _)

/-- Writing a member adds no second one of its key. -/
lemma nodup_setMember (h : (members.map (·.1)).Nodup) :
    ((setMember key value members).map (·.1)).Nodup := by
  induction members with
  | nil => simp [setMember]
  | cons m rest ih =>
    obtain ⟨k, v⟩ := m
    obtain ⟨hk, hrest⟩ := List.nodup_cons.mp h
    rw [setMember]
    split
    · exact h
    · rename_i hne
      refine List.nodup_cons.mpr ⟨fun hmem => ?_, ih hrest⟩
      obtain ⟨n, hn, hnk⟩ := List.mem_map.mp hmem
      rcases mem_setMember hn with rfl | hn
      · exact hne hnk.symm
      · exact hk (hnk ▸ List.mem_map_of_mem hn)

/-- A member with a new key goes to the end. -/
lemma setMember_of_notMem (h : key ∉ members.map (·.1)) :
    setMember key value members = members ++ [(key, value)] := by
  induction members with
  | nil => rfl
  | cons m rest ih =>
    obtain ⟨k, v⟩ := m
    have hk : k ≠ key := fun hk => h (hk ▸ List.mem_cons_self)
    rw [setMember, if_neg hk, ih fun hrest => h (List.mem_cons_of_mem _ hrest), List.cons_append]

/-- Members without a repeated key are the object's as they are written. -/
theorem ofMembers_of_nodup (h : (members.map (·.1)).Nodup) :
    ofMembers members = .object members := by
  suffices hfold : ∀ acc : List (String × Json), ((acc ++ members).map (·.1)).Nodup →
      members.foldl (fun acc m => setMember m.1 m.2 acc) acc = acc ++ members from
    congrArg Json.object (hfold [] h)
  clear h
  induction members with
  | nil => exact fun acc _ => (List.append_nil acc).symm
  | cons m rest ih =>
    intro acc hacc
    have hm : m.1 ∉ acc.map (·.1) := by
      rw [List.map_append, List.map_cons, List.nodup_append] at hacc
      exact fun hmem => hacc.2.2 _ hmem _ List.mem_cons_self rfl
    rw [List.foldl_cons, setMember_of_notMem hm, ih _ (by simpa using hacc), List.append_assoc]
    rfl

end

/-! ## Documents that are read -/

/-- Members of an object that is being read. -/
def DistinctMembers (members : List (String × Json)) : Prop :=
  (members.map (·.1)).Nodup ∧ ∀ m ∈ members, m.2.Distinct

/-- What a container holds so far is distinct. -/
def Frame.Distinct : Frame → Prop
  | .array items => ∀ j ∈ items, j.Distinct
  | .object members _ => DistinctMembers members

/-- What the reader holds is distinct. -/
def Reading.Distinct : Reading → Prop
  | .value around | .firstItem around | .firstKey around => ∀ f ∈ around, f.Distinct
  | .key around members | .colon around members _ =>
    (∀ f ∈ around, f.Distinct) ∧ DistinctMembers members
  | .complete around v => (∀ f ∈ around, f.Distinct) ∧ v.Distinct

/-- Writing a member leaves the keys distinct. -/
lemma DistinctMembers.set {key : String} {value : Json} {members : List (String × Json)}
    (h : DistinctMembers members) (hvalue : value.Distinct) :
    DistinctMembers (setMember key value members) := by
  refine ⟨nodup_setMember h.1, fun m hm => ?_⟩
  rcases mem_setMember hm with rfl | hm
  · exact hvalue
  · exact h.2 m hm

/-- A value that starts keeps the keys read so far distinct. -/
lemma distinct_startValue {around : List Frame} {t : Token} {r : Reading}
    (h : ∀ f ∈ around, f.Distinct) (hr : startValue around t = some r) : r.Distinct := by
  cases t with
  | openArray | openObject =>
    rw [startValue, Option.ite_none_right_eq_some] at hr
    obtain rfl := Option.some.inj hr.2
    exact h
  | null | bool _ | number _ | string _ =>
    obtain rfl := Option.some.inj hr
    exact ⟨h, .scalar rfl⟩
  | _ => simp [startValue] at hr

/-- What follows a value keeps the keys read so far distinct. -/
lemma distinct_continueAfter {value : Json} {around : List Frame} {t : Token} {r : Reading}
    (h : ∀ f ∈ around, f.Distinct) (hvalue : value.Distinct)
    (hr : continueAfter value around t = some r) : r.Distinct := by
  cases around with
  | nil => simp [continueAfter] at hr
  | cons f around =>
    obtain ⟨hf, haround⟩ := List.forall_mem_cons.mp h
    cases f with
    | array items =>
      have hitems : ∀ j ∈ value :: items, j.Distinct := List.forall_mem_cons.mpr ⟨hvalue, hf⟩
      cases t with
      | comma =>
        obtain rfl := Option.some.inj hr
        exact List.forall_mem_cons.mpr ⟨hitems, haround⟩
      | closeArray =>
        obtain rfl := Option.some.inj hr
        exact ⟨haround, .array fun j hj => hitems j (List.mem_reverse.mp hj)⟩
      | _ => simp [continueAfter] at hr
    | object members key =>
      have hmembers : DistinctMembers (setMember key value members) := hf.set hvalue
      cases t with
      | comma =>
        obtain rfl := Option.some.inj hr
        exact ⟨haround, hmembers⟩
      | closeObject =>
        obtain rfl := Option.some.inj hr
        exact ⟨haround, .object hmembers.1 hmembers.2⟩
      | _ => simp [continueAfter] at hr

/-- Reading a token keeps what is held distinct. -/
lemma Reading.Distinct.step {r next : Reading} {t : Token} (h : r.Distinct)
    (hstep : r.step t = some next) : next.Distinct := by
  unfold Reading.step at hstep
  split at hstep
  · exact distinct_startValue h hstep
  · obtain rfl := Option.some.inj hstep
    exact ⟨h, .array (by simp)⟩
  · refine distinct_startValue (List.forall_mem_cons.mpr ⟨?_, h⟩) hstep
    exact fun j hj => absurd hj List.not_mem_nil
  · obtain rfl := Option.some.inj hstep
    exact ⟨h, .object List.nodup_nil (by simp)⟩
  · obtain rfl := Option.some.inj hstep
    exact ⟨h, List.nodup_nil, by simp⟩
  · contradiction
  · obtain rfl := Option.some.inj hstep
    exact h
  · contradiction
  · obtain rfl := Option.some.inj hstep
    exact List.forall_mem_cons.mpr ⟨h.2, h.1⟩
  · contradiction
  · exact distinct_continueAfter h.1 h.2 hstep

/-- A reading that starts with distinct keys ends with distinct keys.  The induction is on the
tokens. -/
lemma Reading.Distinct.read {r last : Reading} {tokens : List Token} (h : r.Distinct)
    (hread : tokens.foldlM Reading.step r = some last) : last.Distinct := by
  induction tokens generalizing r with
  | nil =>
    obtain rfl := Option.some.inj hread
    exact h
  | cons t rest ih =>
    obtain ⟨next, hnext, hrest⟩ := Option.bind_eq_some_iff.mp hread
    exact ih (h.step hnext) hrest

/-- Every document that is read is distinct: a key that is repeated in the text takes its last value
and stays a single member. -/
theorem distinct_of_parse? {s : String} {j : Json} (h : parse? s = some j) : j.Distinct := by
  obtain ⟨tokens, -, h⟩ := Option.bind_eq_some_iff.mp h
  obtain ⟨last, hlast, hresult⟩ := Option.bind_eq_some_iff.mp h
  have hdistinct : last.Distinct :=
    Reading.Distinct.read (r := .value []) (fun f hf => absurd hf List.not_mem_nil) hlast
  unfold Reading.result? at hresult
  split at hresult
  · obtain rfl := Option.some.inj hresult
    exact hdistinct.2
  · contradiction

end TableGateway.Json
