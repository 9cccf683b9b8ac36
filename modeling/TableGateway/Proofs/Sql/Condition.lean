import TableGateway.Proofs.Sql.Predicate

/-!
# Conditions read back

How the engine understands the text of a condition, and that it understands criteria as they are
meant.  Of the compiler of criteria nothing is used to say the first.

* `Condition` — what a condition says, with `Condition.eval` for its truth value.
* `Derives` — the grammar: AND binds tighter than OR, both group from the left, and parentheses
  group what is inside.  The n-th placeholder takes the n-th bound value.
* `Condition.read` — the reader: it goes through the tokens once, and keeps for each open
  parenthesis what stands to its left.
* **`readTokens_of_derives`** — the reader finds every derivation, so a text has one reading at
  most.
* **`read_ofCriteria`** — the text of a predicate is derived and read as a condition that has the
  truth value of the criteria, with and without parentheses around it.
-/

namespace TableGateway.Sql

/-! ## What a condition says -/

/-- A condition over columns and bound values. -/
inductive Condition where
  | comparison (field : String) (operator : Operator) (value : Cell)
  | and (left right : Condition)
  | or (left right : Condition)
  deriving DecidableEq, Repr

/-- The truth value of a condition, given those of its comparisons. -/
def Condition.eval (truth : String → Operator → Cell → Truth) : Condition → Truth
  | .comparison field operator value => truth field operator value
  | .and left right => (left.eval truth).and (right.eval truth)
  | .or left right => (left.eval truth).or (right.eval truth)

/-- The operator that a token is in the engine's language. -/
def operator? : Token → Option Operator
  | .sign "=" => some .eq
  | .sign "<>" => some .ne
  | .sign ">" => some .gt
  | .sign "<" => some .lt
  | .sign ">=" => some .gte
  | .sign "<=" => some .lte
  | .word "LIKE" => some .like
  | _ => none

/-! ## The grammar -/

/-- The parts of a condition, from the tightest to the loosest. -/
inductive Level where
  | operand
  | conjunction
  | disjunction

/-- Tokens, with the values of their placeholders, are a part of a condition. -/
inductive Derives : Level → List Token → List Cell → Condition → Prop where
  | comparison {field : String} {t : Token} {op : Operator} {value : Cell}
      (h : operator? t = some op) :
      Derives .operand [.name field, t, .placeholder] [value] (.comparison field op value)
  | parentheses {ts : List Token} {values : List Cell} {e : Condition}
      (h : Derives .disjunction ts values e) :
      Derives .operand (.mark '(' :: ts ++ [.mark ')']) values e
  | operand {ts : List Token} {values : List Cell} {e : Condition}
      (h : Derives .operand ts values e) : Derives .conjunction ts values e
  | and {ts us : List Token} {vs ws : List Cell} {l r : Condition}
      (hl : Derives .conjunction ts vs l) (hr : Derives .operand us ws r) :
      Derives .conjunction (ts ++ .word "AND" :: us) (vs ++ ws) (.and l r)
  | conjunction {ts : List Token} {values : List Cell} {e : Condition}
      (h : Derives .conjunction ts values e) : Derives .disjunction ts values e
  | or {ts us : List Token} {vs ws : List Cell} {l r : Condition}
      (hl : Derives .disjunction ts vs l) (hr : Derives .conjunction us ws r) :
      Derives .disjunction (ts ++ .word "OR" :: us) (vs ++ ws) (.or l r)

/-! ## The reader -/

/-- What stands to the left of an operand inside its parentheses: the condition before the last OR,
and the one between that and the AND just before the operand. -/
structure Left where
  disjunct : Option Condition
  conjunct : Option Condition

/-- A condition after what may stand before an AND. -/
def conjoin : Option Condition → Condition → Condition
  | none, e => e
  | some l, e => .and l e

/-- A condition after what may stand before an OR. -/
def disjoin : Option Condition → Condition → Condition
  | none, e => e
  | some l, e => .or l e

mutual

/-- Read on where an operand must follow. -/
def readOperand (outer : List Left) (left : Left) : List Token → List Cell → Option Condition
  | .mark '(' :: ts, values => readOperand (left :: outer) ⟨none, none⟩ ts values
  | .name field :: t :: .placeholder :: ts, value :: values =>
    match operator? t with
    | some op =>
      readOperator outer left.disjunct (conjoin left.conjunct (.comparison field op value)) ts
        values
    | none => none
  | _, _ => none

/-- Read on after an operand. -/
def readOperator (outer : List Left) (disjunct : Option Condition) (conjunct : Condition) :
    List Token → List Cell → Option Condition
  | .word "AND" :: ts, values => readOperand outer ⟨disjunct, some conjunct⟩ ts values
  | .word "OR" :: ts, values => readOperand outer ⟨some (disjoin disjunct conjunct), none⟩ ts values
  | .mark ')' :: ts, values =>
    match outer with
    | left :: outer =>
      readOperator outer left.disjunct (conjoin left.conjunct (disjoin disjunct conjunct)) ts values
    | [] => none
  | [], [] => if outer.isEmpty then some (disjoin disjunct conjunct) else none
  | _, _ => none

end

/-- The condition that tokens are, with the bound values of their placeholders in order. -/
def readTokens (ts : List Token) (values : List Cell) : Option Condition :=
  readOperand [] ⟨none, none⟩ ts values

/-- The condition that a text is, with the bound values of its placeholders in order. -/
def Condition.read (sql : String) (values : List Cell) : Option Condition :=
  (lex sql).bind fun ts => readTokens ts values

/-! ## The reader finds every derivation -/

/-- What the reader does with a part of a condition, whatever stands before and after it.  Only a
disjunction is not yet complete: what is read last of it may still be followed by an AND. -/
def Reads : Level → List Token → List Cell → Condition → Prop
  | .operand, ts, vs, e => ∀ outer left ts' vs',
    readOperand outer left (ts ++ ts') (vs ++ vs')
      = readOperator outer left.disjunct (conjoin left.conjunct e) ts' vs'
  | .conjunction, ts, vs, e => ∀ outer disjunct ts' vs',
    readOperand outer ⟨disjunct, none⟩ (ts ++ ts') (vs ++ vs')
      = readOperator outer disjunct e ts' vs'
  | .disjunction, ts, vs, e => ∀ outer, ∃ disjunct conjunct, disjoin disjunct conjunct = e ∧
    ∀ ts' vs', readOperand outer ⟨none, none⟩ (ts ++ ts') (vs ++ vs')
      = readOperator outer disjunct conjunct ts' vs'

/-- What the grammar derives is read, by induction on the derivation. -/
lemma reads_of_derives {level : Level} {ts : List Token} {vs : List Cell} {e : Condition}
    (h : Derives level ts vs e) : Reads level ts vs e := by
  induction h with
  | comparison h =>
    intro outer left ts' vs'
    simp [readOperand, h]
  | parentheses _ ih =>
    intro outer left ts' vs'
    obtain ⟨disjunct, conjunct, rfl, hread⟩ := ih (left :: outer)
    simp only [List.cons_append, List.append_assoc, readOperand]
    rw [hread]
    simp [readOperator]
  | operand _ ih =>
    intro outer disjunct ts' vs'
    exact ih outer ⟨disjunct, none⟩ ts' vs'
  | and _ _ ihl ihr =>
    intro outer disjunct ts' vs'
    rw [List.append_assoc, List.append_assoc, ihl]
    simp only [List.cons_append, readOperator]
    rw [ihr]
    rfl
  | conjunction _ ih =>
    intro outer
    exact ⟨none, _, rfl, fun ts' vs' => ih outer none ts' vs'⟩
  | or _ _ ihl ihr =>
    intro outer
    obtain ⟨disjunct, conjunct, rfl, hread⟩ := ihl outer
    refine ⟨some (disjoin disjunct conjunct), _, rfl, fun ts' vs' => ?_⟩
    rw [List.append_assoc, List.append_assoc, hread]
    simp only [List.cons_append, readOperator]
    rw [ihr]

/-- **One reading at most.**  The reader finds every derivation of a whole text. -/
theorem readTokens_of_derives {ts : List Token} {vs : List Cell} {e : Condition}
    (h : Derives .disjunction ts vs e) : readTokens ts vs = some e := by
  obtain ⟨disjunct, conjunct, rfl, hread⟩ := reads_of_derives h []
  have hall := hread [] []
  rw [List.append_nil, List.append_nil] at hall
  rw [readTokens, hall]
  simp [readOperator]

/-! ## Criteria are read as they are meant -/

/-- The truth value of a comparison, given those of columns and bound values. -/
def boundTruth (truth : String → Operator → Cell → Truth) (c : Comparison) : Truth :=
  truth c.field c.operator c.param

/-- A predicate is a part of a condition that has the truth value of a criterion. -/
def Says (level : Level) (c : Criterion) (p : Predicate) : Prop :=
  ∃ e, Derives level p.text.tokens p.params e ∧ ∀ truth, e.eval truth = c.eval (boundTruth truth)

/-- The token of an operator is the engine's for it. -/
lemma operator?_token (op : Operator) :
    ∃ t, (Piece.verbatim (" " ++ op.token ++ " ")).tokens = [t] ∧ operator? t = some op := by
  cases op with
  | eq => exact ⟨.sign "=", by decide, by decide⟩
  | ne => exact ⟨.sign "<>", by decide, by decide⟩
  | gt => exact ⟨.sign ">", by decide, by decide⟩
  | lt => exact ⟨.sign "<", by decide, by decide⟩
  | gte => exact ⟨.sign ">=", by decide, by decide⟩
  | lte => exact ⟨.sign "<=", by decide, by decide⟩
  | like => exact ⟨.word "LIKE", by decide, by decide⟩

/-- The text of a comparison says the comparison. -/
lemma says_ofComparison (c : Comparison) :
    Says .operand (.comparison c) (.ofComparison c) := by
  obtain ⟨t, htoken, hop⟩ := operator?_token c.operator
  refine ⟨.comparison c.field c.operator c.param, ?_, fun truth => rfl⟩
  have htext : c.text.tokens = [.name c.field, t, .placeholder] := by
    simp [Comparison.text, htoken]
  rw [Predicate.ofComparison, htext]
  exact .comparison hop

/-- Parentheses are two tokens around a predicate. -/
lemma tokens_parenthesized (p : Predicate) :
    p.parenthesized.text.tokens = .mark '(' :: p.text.tokens ++ [.mark ')'] := by
  have hopen : (Piece.verbatim "(").tokens = [.mark '('] := by decide
  have hclose : (Piece.verbatim ")").tokens = [.mark ')'] := by decide
  simp [Predicate.parenthesized, hopen, hclose]

/-- Between the parts of a combination stand keywords. -/
lemma tokens_combine (kind : Combinator) (p : Predicate) (parts : List Predicate) :
    (Predicate.combine kind (p :: parts)).text.tokens
      = p.text.tokens ++ parts.flatMap fun q => .word kind.keyword :: q.text.tokens := by
  have hseparator : (Piece.verbatim (" " ++ kind.keyword ++ " ")).tokens
      = [.word kind.keyword] := by
    cases kind <;> rfl
  simp [Predicate.combine, SqlText.tokens_join_cons, hseparator, List.flatMap_map]

/-- Parentheses make an operand of any condition, without another meaning. -/
lemma Says.parenthesized {c : Criterion} {p : Predicate} (h : Says .disjunction c p) :
    Says .operand c p.parenthesized := by
  obtain ⟨e, hderives, heval⟩ := h
  refine ⟨e, ?_, heval⟩
  rw [tokens_parenthesized]
  exact .parentheses hderives

/-- The part of a condition that a group is. -/
def levelOf : Combinator → Level
  | .and => .conjunction
  | .or => .disjunction

/-- A condition grows by an operand at its end, as the combinator says. -/
lemma derives_step (kind : Combinator) {ts us : List Token} {vs ws : List Cell} {l r : Condition}
    (hl : Derives (levelOf kind) ts vs l) (hr : Derives .operand us ws r) :
    ∃ e, Derives (levelOf kind) (ts ++ .word kind.keyword :: us) (vs ++ ws) e ∧
      ∀ truth, e.eval truth = kind.apply (l.eval truth) (r.eval truth) := by
  cases kind with
  | and => exact ⟨.and l r, .and hl hr, fun truth => rfl⟩
  | or => exact ⟨.or l r, .or hl (.operand hr), fun truth => rfl⟩

/-- The members of a group follow the first one, by induction on their list. -/
lemma derives_members (kind : Combinator) {members : List Criterion} {parts : List Predicate}
    (h : List.Forall₂ (Says .operand) members parts) {ts : List Token} {vs : List Cell}
    {l : Condition} (hl : Derives (levelOf kind) ts vs l) :
    ∃ e, Derives (levelOf kind)
        (ts ++ parts.flatMap fun p => .word kind.keyword :: p.text.tokens)
        (vs ++ parts.flatMap (·.params)) e ∧
      ∀ truth, e.eval truth
        = kind.apply (l.eval truth) (Criterion.evalAll (boundTruth truth) kind members) := by
  -- The engine groups from the left and a criterion from the right, so the induction carries what
  -- has been read already.
  induction h generalizing ts vs l with
  | nil => exact ⟨l, by simpa using hl, fun truth => by simp [Criterion.evalAll]⟩
  | @cons c p members parts hc _ ih =>
    obtain ⟨r, hr, hreval⟩ := hc
    obtain ⟨e, he, heval⟩ := derives_step kind hl hr
    obtain ⟨e', he', heval'⟩ := ih he
    refine ⟨e', by simpa using he', fun truth => ?_⟩
    rw [heval', heval, hreval, Combinator.apply_assoc, Criterion.evalAll]

/-- A group with members is a condition without parentheses. -/
lemma says_combine (kind : Combinator) {members : List Criterion} {parts : List Predicate}
    (hne : members ≠ []) (h : List.Forall₂ (Says .operand) members parts) :
    Says .disjunction (.group kind members) (.combine kind parts) := by
  cases h with
  | nil => exact absurd rfl hne
  | @cons c p members parts hc hrest =>
    obtain ⟨l, hl, hleval⟩ := hc
    have hl : Derives (levelOf kind) p.text.tokens p.params l := by
      cases kind with
      | and => exact .operand hl
      | or => exact .conjunction (.operand hl)
    obtain ⟨e, he, heval⟩ := derives_members kind hrest hl
    refine ⟨e, ?_, fun truth => ?_⟩
    · have he : Derives (levelOf kind) (Predicate.combine kind (p :: parts)).text.tokens
          (Predicate.combine kind (p :: parts)).params e := by
        rw [tokens_combine]
        exact he
      cases kind with
      | and => exact .conjunction he
      | or => exact he
    · rw [heval, hleval, Criterion.eval, Criterion.evalAll]

/-- The predicate of a criterion says it, wherever the criterion stands. -/
lemma says_inner {c : Criterion} {p : Predicate} (h : Predicate.inner c = .ok p) :
    Says .operand c p :=
  Predicate.inner_induction says_ofComparison
    (fun kind _ _ hne hparts => (says_combine kind hne hparts).parenthesized) h

/-- An operand is a condition by itself. -/
lemma Says.disjunction {c : Criterion} {p : Predicate} (h : Says .operand c p) :
    Says .disjunction c p := by
  obtain ⟨e, hderives, heval⟩ := h
  exact ⟨e, .conjunction (.operand hderives), heval⟩

/-- An outermost criterion that asks for something is a condition. -/
lemma says_ofCriteria {c : Criterion} {p : Predicate}
    (h : Predicate.ofCriteria (some c) = .ok p) (hne : p.text ≠ []) : Says .disjunction c p := by
  obtain ⟨kind, rfl, rfl⟩ | ⟨x, rfl, rfl⟩ | ⟨kind, members, parts, rfl, hmembers, hparts, rfl⟩ :=
    Predicate.ofCriteria_cases h
  · exact absurd rfl hne
  · exact (says_ofComparison x).disjunction
  · exact says_combine kind hmembers (hparts.imp fun _ _ => says_inner)

/-- Where no group is without members, criteria compile to a condition. -/
lemma exists_says {c : Criterion} (h : c.Filled) :
    ∃ p, Predicate.ofCriteria (some c) = .ok p ∧ Says .disjunction c p := by
  cases h with
  | comparison x => exact ⟨_, rfl, (says_ofComparison x).disjunction⟩
  | @group kind members hne hmembers =>
    obtain ⟨parts, hparts⟩ := Predicate.exists_innerAll fun c hc =>
      Predicate.exists_inner (hmembers c hc)
    refine ⟨.combine kind parts, ?_, ?_⟩
    · cases members with
      | nil => exact absurd rfl hne
      | cons c rest =>
        rw [Predicate.ofCriteria, hparts]
        rfl
    · exact says_combine kind hne ((Predicate.innerAll_eq_ok.mp hparts).imp fun _ _ => says_inner)

/-- A condition has tokens and values. -/
lemma Derives.ne_nil {level : Level} {ts : List Token} {vs : List Cell} {e : Condition}
    (h : Derives level ts vs e) : ts ≠ [] ∧ vs ≠ [] := by
  induction h with
  | comparison h => simp
  | parentheses _ ih => simpa using ih.2
  | operand _ ih => exact ih
  | and _ _ ihl _ => simp [ihl.2]
  | conjunction _ ih => exact ih
  | or _ _ ihl _ => simp [ihl.2]

/-- **Criteria mean what they say.**  The text of a predicate is a condition by the grammar.  Read
with its bound values as the engine reads it, it has the truth value of the criteria for every
truth value of the comparisons.  Parentheses around it change nothing, so leaving them out groups
nothing differently. -/
theorem read_ofCriteria {c : Criterion} {p : Predicate}
    (h : Predicate.ofCriteria (some c) = .ok p) (hne : p.text.render ≠ "") :
    ∃ ts e, lex p.text.render = some ts ∧ Derives .disjunction ts p.params e ∧
      Condition.read p.text.render p.params = some e ∧
      Condition.read ("(" ++ p.text.render ++ ")") p.params = some e ∧
      ∀ truth, e.eval truth = c.eval fun x => truth x.field x.operator x.param := by
  have hpieces : p.text ≠ [] := fun htext => hne (by rw [htext]; rfl)
  have hspaced := Predicate.spaced_ofCriteria h
  have hlex := SqlText.lex_render hspaced
  obtain ⟨e, hderives, heval⟩ := says_ofCriteria h hpieces
  -- The parentheses written around the text are those that the text would have inside a group.
  have hparens : "(" ++ p.text.render ++ ")" = p.parenthesized.text.render := by
    simp [Predicate.parenthesized, SqlText.render, Piece.chars, String.append_assoc]
  refine ⟨_, e, hlex, hderives, ?_, ?_, heval⟩
  · rw [Condition.read, hlex]
    exact readTokens_of_derives hderives
  · rw [Condition.read, hparens, SqlText.lex_render (Predicate.spaced_parenthesized hspaced),
      Option.bind_some, tokens_parenthesized]
    exact readTokens_of_derives (.conjunction (.operand (.parentheses hderives)))

/-- Groups inside a group, with a field that has a backtick and a question mark in its name. -/
theorem read_ofCriteria_nested :
    ∃ p, Predicate.ofCriteria (some (.group .and [
        .group .or [.compare "a" .eq (.int 1), .compare "b\x60?" .like (.string "x")],
        .compare "AND" .gte (.int 3)])) = .ok p ∧ p.text.render ≠ "" ∧
      ∃ e, Condition.read p.text.render p.params = some e ∧
        Condition.read ("(" ++ p.text.render ++ ")") p.params = some e ∧
        ∀ truth, e.eval truth
          = ((truth "a" .eq (Value.int 1).toCell).or
              (truth "b\x60?" .like (Value.string "%x%").toCell)).and
            (truth "AND" .gte (Value.int 3).toCell) := by
  obtain ⟨ts, e, -, -, hread, hparens, heval⟩ := read_ofCriteria (c := .group .and [
    .group .or [.compare "a" .eq (.int 1), .compare "b\x60?" .like (.string "x")],
    .compare "AND" .gte (.int 3)]) rfl (by decide)
  refine ⟨_, rfl, by decide, e, hread, hparens, fun truth => (heval truth).trans ?_⟩
  -- The pattern of LIKE is the only value that is not bound as it stands.
  have hpattern : (Value.string "x").likePattern = .string "%x%" :=
    congrArg Value.string (by decide)
  simp [Criterion.eval, Criterion.evalAll, Criterion.compare, Combinator.apply, Combinator.neutral,
    Comparison.param, hpattern]

end TableGateway.Sql
