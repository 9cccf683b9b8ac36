import TableGateway.Proofs.Sql.RowOperation

/-!
# What a LIKE comparison finds

A comparison by LIKE binds its operand between two wildcards and leaves the operand as it is.  What
it finds are the texts with a part that the operand, read as a pattern of its own, accepts; where
the operand has no mark of patterns, these are the texts that contain it.

* `Like.Part`, `Like.parts` — patterns as the engine reads them: a percent sign, an underscore, and
  a backslash before any character.
* `Like.Accepts` — the texts that a pattern accepts, characters being compared exactly.
* `Like.accepts_append` — a pattern in two parts accepts texts in two parts.
* **`Like.holds_operand`** — what is bound for an operand, and the texts that it finds.
* `Like.holds_percent` — an operand with a percent sign finds a text that does not contain it.
-/

namespace TableGateway

namespace Like

/-! ## Patterns -/

/-- A part of a pattern. -/
inductive Part where
  /-- Any run of characters, also an empty one. -/
  | run
  /-- Any one character. -/
  | one
  | char (c : Char)
  deriving DecidableEq, Repr

/-- What a character stands for that is not escaped. -/
def part (c : Char) : Part :=
  if c = '%' then .run else if c = '_' then .one else .char c

/-- The mark that makes the next character stand for itself. -/
def escape : Char := '\\'

/-- Whether characters end in a mark that has nothing to escape, read on from a mark or not. -/
def isOpen (escaped : Bool) : List Char → Bool
  | [] => escaped
  | c :: rest => isOpen (!escaped && c == escape) rest

/-- The parts of characters, read on from a mark or not.  A mark at the end is left open. -/
def partsFrom (escaped : Bool) : List Char → List Part
  | [] => []
  | c :: rest =>
    if escaped then .char c :: partsFrom false rest
    else if c = escape then partsFrom true rest
    else part c :: partsFrom false rest

/-- The parts of a pattern.  A mark with nothing to escape stands for itself. -/
def parts (cs : List Char) : List Part :=
  partsFrom false cs ++ if isOpen false cs then [.char escape] else []

/-- The texts that the parts of a pattern accept. -/
inductive Accepts : List Part → List Char → Prop where
  | done : Accepts [] []
  | run (skipped : List Char) {ps : List Part} {text : List Char} :
      Accepts ps text → Accepts (.run :: ps) (skipped ++ text)
  | one (c : Char) {ps : List Part} {text : List Char} :
      Accepts ps text → Accepts (.one :: ps) (c :: text)
  | char (c : Char) {ps : List Part} {text : List Char} :
      Accepts ps text → Accepts (.char c :: ps) (c :: text)

/-- A text is like a pattern. -/
def Holds (text pattern : String) : Prop :=
  Accepts (parts pattern.toList) text.toList

/-! ## Reading patterns part by part -/

/-- Whether a pattern ends in an escape is found from left to right. -/
lemma isOpen_append (escaped : Bool) (cs more : List Char) :
    isOpen escaped (cs ++ more) = isOpen (isOpen escaped cs) more := by
  induction cs generalizing escaped with
  | nil => rfl
  | cons c rest ih => exact ih _

/-- The parts of a pattern are found from left to right. -/
lemma partsFrom_append (escaped : Bool) (cs more : List Char) :
    partsFrom escaped (cs ++ more) =
      partsFrom escaped cs ++ partsFrom (isOpen escaped cs) more := by
  induction cs generalizing escaped with
  | nil => rfl
  | cons c rest ih =>
    rw [List.cons_append, partsFrom, partsFrom, isOpen]
    cases escaped with
    | true => exact congrArg (_ :: ·) (ih false)
    | false =>
      by_cases hc : c = escape
      · simp [hc, ih]
      · have hmark : (c == escape) = false := beq_eq_false_iff_ne.mpr hc
        simp [hc, hmark, ih]

/-- Characters that no mark is among stand for themselves. -/
lemma partsFrom_plain {cs : List Char} (h : ∀ c ∈ cs, c ≠ '%' ∧ c ≠ '_' ∧ c ≠ '\\') :
    partsFrom false cs = cs.map .char ∧ isOpen false cs = false := by
  induction cs with
  | nil => exact ⟨rfl, rfl⟩
  | cons c rest ih =>
    obtain ⟨⟨hpercent, hunderscore, hescape⟩, hrest⟩ := List.forall_mem_cons.mp h
    obtain ⟨hparts, hopen⟩ := ih hrest
    have hescape : c ≠ escape := hescape
    have hmark : (c == escape) = false := beq_eq_false_iff_ne.mpr hescape
    have hpart : part c = .char c := by rw [part, if_neg hpercent, if_neg hunderscore]
    simp [partsFrom, isOpen, hescape, hmark, hpart, hparts, hopen]

/-- Between two wildcards the operand stands as it is, but for an open mark at its end, which takes
the second wildcard for a character. -/
lemma parts_wrapped (cs : List Char) :
    parts ('%' :: (cs ++ ['%'])) = .run :: (partsFrom false cs ++
      [if isOpen false cs then .char '%' else .run]) := by
  have hopen : isOpen false ('%' :: (cs ++ ['%'])) = false := by
    change isOpen false (cs ++ ['%']) = false
    rw [isOpen_append]
    cases isOpen false cs <;> rfl
  have hparts : partsFrom false ('%' :: (cs ++ ['%'])) =
      .run :: partsFrom false (cs ++ ['%']) := rfl
  rw [parts, hopen, hparts, partsFrom_append]
  cases isOpen false cs <;> simp <;> rfl

/-! ## Accepting part by part -/

/-- A text is accepted by two patterns in turn if it can be cut for them. -/
theorem accepts_append {ps qs : List Part} {text : List Char} :
    Accepts (ps ++ qs) text ↔ ∃ a b, text = a ++ b ∧ Accepts ps a ∧ Accepts qs b := by
  constructor
  · intro h
    induction ps generalizing text with
    | nil => exact ⟨[], text, rfl, .done, h⟩
    | cons p ps ih =>
      cases h with
      | run skipped h =>
        obtain ⟨a, b, rfl, ha, hb⟩ := ih h
        exact ⟨skipped ++ a, b, (List.append_assoc _ _ _).symm, ha.run skipped, hb⟩
      | one c h =>
        obtain ⟨a, b, rfl, ha, hb⟩ := ih h
        exact ⟨c :: a, b, rfl, ha.one c, hb⟩
      | char c h =>
        obtain ⟨a, b, rfl, ha, hb⟩ := ih h
        exact ⟨c :: a, b, rfl, ha.char c, hb⟩
  · rintro ⟨a, b, rfl, ha, hb⟩
    induction ha with
    | done => exact hb
    | run skipped _ ih =>
      rw [List.append_assoc]
      exact ih.run skipped
    | one c _ ih => exact ih.one c
    | char c _ ih => exact ih.char c

/-- A wildcard accepts every text. -/
lemma accepts_run (text : List Char) : Accepts [.run] text := by
  have h := Accepts.done.run text
  rwa [List.append_nil] at h

lemma accepts_run_cons {ps : List Part} {text : List Char} :
    Accepts (.run :: ps) text ↔ ∃ a b, text = a ++ b ∧ Accepts ps b := by
  constructor
  · intro h
    cases h with
    | run skipped h => exact ⟨skipped, _, rfl, h⟩
  · rintro ⟨a, b, rfl, h⟩
    exact h.run a

lemma accepts_chars {cs text : List Char} : Accepts (cs.map .char) text ↔ text = cs := by
  constructor
  · intro h
    induction cs generalizing text with
    | nil =>
      cases h
      rfl
    | cons c rest ih =>
      cases h with
      | char _ h => rw [ih h]
  · rintro rfl
    induction text with
    | nil => exact .done
    | cons c rest ih => exact ih.char c

/-- Between two wildcards, a pattern accepts the texts with a part that it accepts. -/
lemma accepts_between {ps : List Part} {text : List Char} :
    Accepts (.run :: (ps ++ [.run])) text ↔ ∃ found, found <:+: text ∧ Accepts ps found := by
  rw [accepts_run_cons]
  constructor
  · rintro ⟨a, b, rfl, h⟩
    obtain ⟨found, rest, rfl, hfound, -⟩ := accepts_append.mp h
    exact ⟨found, ⟨a, rest, List.append_assoc _ _ _⟩, hfound⟩
  · rintro ⟨found, ⟨a, rest, rfl⟩, hfound⟩
    exact ⟨a, found ++ rest, List.append_assoc _ _ _,
      accepts_append.mpr ⟨found, rest, rfl, hfound, accepts_run rest⟩⟩

/-- After one wildcard and before a character, a pattern accepts the texts that end in a part that
it accepts and that character. -/
lemma accepts_before {ps : List Part} {c : Char} {text : List Char} :
    Accepts (.run :: (ps ++ [.char c])) text ↔
      ∃ found, found ++ [c] <:+ text ∧ Accepts ps found := by
  rw [accepts_run_cons]
  constructor
  · rintro ⟨a, b, rfl, h⟩
    obtain ⟨found, rest, rfl, hfound, hrest⟩ := accepts_append.mp h
    obtain rfl : rest = [c] := accepts_chars.mp hrest
    exact ⟨found, ⟨a, rfl⟩, hfound⟩
  · rintro ⟨found, ⟨a, rfl⟩, hfound⟩
    exact ⟨a, found ++ [c], rfl,
      accepts_append.mpr ⟨found, [c], rfl, hfound, Accepts.done.char c⟩⟩

/-! ## Operands -/

/-- Between two wildcards, an operand without marks of patterns finds the texts that contain it. -/
lemma holds_plain {operand text : String}
    (h : ∀ c ∈ operand.toList, c ≠ '%' ∧ c ≠ '_' ∧ c ≠ '\\') :
    Holds text ("%" ++ operand ++ "%") ↔ operand.toList <:+: text.toList := by
  have hpattern : ("%" ++ operand ++ "%").toList = '%' :: (operand.toList ++ ['%']) := by simp
  obtain ⟨hparts, hopen⟩ := partsFrom_plain h
  have hwrapped : parts ('%' :: (operand.toList ++ ['%'])) =
      .run :: (operand.toList.map .char ++ [.run]) := by
    rw [parts_wrapped, hparts, hopen]
    rfl
  rw [Holds, hpattern, hwrapped, accepts_between]
  simp only [accepts_chars, exists_eq_right]

/-- **A comparison by LIKE finds the texts with a part that its operand accepts.**  It binds the
operand between two wildcards.  An operand without marks of patterns finds the texts that contain
it; any other finds those with a part that it accepts as a pattern.  An open mark at its end takes
the second wildcard for a character, at which the text then ends. -/
theorem holds_operand (field operand text : String) :
    ∃ (p : Predicate) (pattern : String),
      Predicate.ofCriteria (some (.compare field .like (.string operand))) = .ok p ∧
      p.text.render = SqlText.render [.name field] ++ " LIKE ?" ∧ p.params = [.text pattern] ∧
      ((∀ c ∈ operand.toList, c ≠ '%' ∧ c ≠ '_' ∧ c ≠ '\\') →
        (Holds text pattern ↔ operand.toList <:+: text.toList)) ∧
      (isOpen false operand.toList = false → (Holds text pattern ↔
        ∃ found, found <:+: text.toList ∧ Accepts (parts operand.toList) found)) ∧
      (isOpen false operand.toList = true → (Holds text pattern ↔
        ∃ found, found ++ ['%'] <:+ text.toList ∧
          Accepts (partsFrom false operand.toList) found)) := by
  have hpattern : ("%" ++ operand ++ "%").toList = '%' :: (operand.toList ++ ['%']) := by simp
  have hclosed (h : isOpen false operand.toList = false) : Holds text ("%" ++ operand ++ "%") ↔
      ∃ found, found <:+: text.toList ∧ Accepts (partsFrom false operand.toList) found := by
    rw [Holds, hpattern, parts_wrapped, h]
    exact accepts_between
  refine ⟨_, "%" ++ operand ++ "%", rfl, ?_, rfl, fun hplain => ?_, fun h => ?_, fun h => ?_⟩
  · change SqlText.render ([.name field] ++ [.verbatim " LIKE ", .placeholder]) = _
    rw [SqlText.render_append]
    rfl
  · obtain ⟨hparts, hopen⟩ := partsFrom_plain hplain
    rw [hclosed hopen, hparts]
    simp only [accepts_chars, exists_eq_right]
  · rw [hclosed h, parts, h]
    simp
  · rw [Holds, hpattern, parts_wrapped, h]
    exact accepts_before

/-- An operand with a percent sign finds a text that does not contain it. -/
theorem holds_percent :
    Predicate.ofCriteria (some (.compare "name" .like (.string "a%b"))) =
        .ok ⟨[.name "name", .verbatim " LIKE ", .placeholder], [.text "%a%b%"]⟩ ∧
      Holds "axb" "%a%b%" ∧ ¬ "a%b".toList <:+: "axb".toList := by
  refine ⟨rfl, ?_, by decide⟩
  exact (((((Accepts.done.run []).char 'b').run ['x']).char 'a').run [])

end Like

end TableGateway
