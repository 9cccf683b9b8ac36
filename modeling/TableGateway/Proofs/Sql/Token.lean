import TableGateway.Sql.Text
import Mathlib.Data.List.Chain

/-!
# The tokens of SQL text

How the engine cuts a statement into tokens, written without regard to how statements are put
together here: the lexer sees characters only, and knows names between backticks, strings between
quotes, comments, words, comparison signs and single marks.  It runs character by character, with a
`Mode` for the token that is open.

* `Sql.lex` — the tokens of a text; none if it ends inside a name, a string or a comment.
* `SqlText.tokens` — the tokens of text in pieces, each piece by itself.
* `SqlText.Spaced` — what the builders keep to: verbatim text holds no quoting character, and two
  pieces that could run together have a blank or a mark between them.
* **`lex_render`** — the lexer reads spaced text as the tokens of its pieces.  So a name is read
  where it was written and nowhere else, whatever its characters are.
-/

namespace TableGateway.Sql

open Piece (backtick doubled quote)

/-! ## Tokens and the lexer -/

/-- A token of SQL text. -/
inductive Token where
  /-- A name between backticks, each doubled one inside read as one. -/
  | name (payload : String)
  /-- The place of a bound value. -/
  | placeholder
  /-- A keyword, a number, or a name without backticks. -/
  | word (text : String)
  /-- A comparison sign. -/
  | sign (text : String)
  /-- A string between quotes. -/
  | string (text : String)
  /-- Any other character, by itself. -/
  | mark (c : Char)
  deriving DecidableEq, Repr

/-- The characters that separate tokens and belong to none. -/
def blanks : List Char := [' ', '\t', '\n', '\x0b', '\x0c', '\r']

def isBlank (c : Char) : Bool :=
  blanks.contains c

/-- Characters of words: ASCII letters and digits, `_` and `$`, and everything outside ASCII. -/
def isWordChar (c : Char) : Bool :=
  c.isAlphanum || c = '_' || c = '$' || 0x80 ≤ c.toNat

/-- Characters of comparison signs, which are read as long as possible. -/
def isSignChar (c : Char) : Bool :=
  c = '<' || c = '=' || c = '>' || c = '!'

/-- The token that is open, with its characters so far. -/
inductive Mode where
  /-- No token is open. -/
  | gap
  | word (seen : List Char)
  | sign (seen : List Char)
  /-- Inside backticks. -/
  | name (seen : List Char)
  /-- At a backtick inside backticks: it ends the name unless another one follows. -/
  | nameEnd (seen : List Char)
  /-- Inside quotes. -/
  | string (mark : Char) (seen : List Char)
  /-- At a backslash inside quotes. -/
  | stringEscape (mark : Char) (seen : List Char)
  /-- At a quote inside quotes: it ends the string unless another one follows. -/
  | stringEnd (mark : Char) (seen : List Char)
  | dash
  /-- At two dashes: a comment if a blank follows. -/
  | dashes
  | slash
  /-- In a comment up to the end of the line. -/
  | lineComment
  /-- In a comment up to `*/`. -/
  | blockComment
  /-- At a star in such a comment. -/
  | blockCommentStar
  deriving DecidableEq, Repr

namespace Mode

/-- A name, a string or a comment is open, and its end has not been seen. -/
def isOpen : Mode → Bool
  | .name _ | .string _ _ | .stringEscape _ _ | .blockComment | .blockCommentStar => true
  | _ => false

/-- The tokens that are complete if the text goes on with something else or ends. -/
def pending : Mode → List Token
  | .word seen => [.word (String.ofList seen)]
  | .sign seen => [.sign (String.ofList seen)]
  | .nameEnd seen => [.name (String.ofList seen)]
  | .stringEnd _ seen => [.string (String.ofList seen)]
  | .dash => [.mark '-']
  | .dashes => [.mark '-', .mark '-']
  | .slash => [.mark '/']
  | _ => []

/-- A character where no token is open. -/
def start (c : Char) : Mode × List Token :=
  if isBlank c then (.gap, [])
  else if isWordChar c then (.word [c], [])
  else if isSignChar c then (.sign [c], [])
  else if c = backtick then (.name [], [])
  else if c = '?' then (.gap, [.placeholder])
  else if c = '\x22' ∨ c = '\x27' then (.string c [], [])
  else if c = '#' then (.lineComment, [])
  else if c = '-' then (.dash, [])
  else if c = '/' then (.slash, [])
  else (.gap, [.mark c])

/-- A character that does not belong to the open token. -/
def breakOff (m : Mode) (c : Char) : Mode × List Token :=
  ((start c).1, m.pending ++ (start c).2)

/-- One character: the mode after it, and the tokens completed by it. -/
def step : Mode → Char → Mode × List Token
  | .gap, c => start c
  | .word seen, c => if isWordChar c then (.word (seen ++ [c]), []) else breakOff (.word seen) c
  | .sign seen, c => if isSignChar c then (.sign (seen ++ [c]), []) else breakOff (.sign seen) c
  | .name seen, c => if c = backtick then (.nameEnd seen, []) else (.name (seen ++ [c]), [])
  | .nameEnd seen, c =>
    if c = backtick then (.name (seen ++ [c]), []) else breakOff (.nameEnd seen) c
  | .string mark seen, c =>
    if c = '\\' then (.stringEscape mark seen, [])
    else if c = mark then (.stringEnd mark seen, [])
    else (.string mark (seen ++ [c]), [])
  | .stringEscape mark seen, c => (.string mark (seen ++ [c]), [])
  | .stringEnd mark seen, c =>
    if c = mark then (.string mark (seen ++ [c]), []) else breakOff (.stringEnd mark seen) c
  | .dash, c => if c = '-' then (.dashes, []) else breakOff .dash c
  | .dashes, c => if isBlank c then (.lineComment, []) else breakOff .dashes c
  | .slash, c => if c = '*' then (.blockComment, []) else breakOff .slash c
  | .lineComment, c => (if c = '\n' then .gap else .lineComment, [])
  | .blockComment, c => (if c = '*' then .blockCommentStar else .blockComment, [])
  | .blockCommentStar, c =>
    (if c = '/' then .gap else if c = '*' then .blockCommentStar else .blockComment, [])

end Mode

/-- The tokens of a text that is read on in a mode. -/
def lexFrom : Mode → List Char → Option (List Token)
  | m, [] => if m.isOpen then none else some m.pending
  | m, c :: rest => (lexFrom (m.step c).1 rest).map ((m.step c).2 ++ ·)

/-- The tokens of a text. -/
def lex (s : String) : Option (List Token) :=
  lexFrom .gap s.toList

/-! ## Reading on

A text is read in parts: `Mode.run` is what a first part leaves behind, and `lexFrom_append` goes on
from there.
-/

/-- A part of a text: the mode after it, and the tokens completed in it. -/
def Mode.run : Mode → List Char → Mode × List Token
  | m, [] => (m, [])
  | m, c :: rest => ((run (m.step c).1 rest).1, (m.step c).2 ++ (run (m.step c).1 rest).2)

/-- Reading a text is reading its first part and then the rest. -/
lemma lexFrom_append (m : Mode) (cs rest : List Char) :
    lexFrom m (cs ++ rest) = (lexFrom (m.run cs).1 rest).map ((m.run cs).2 ++ ·) := by
  induction cs generalizing m with
  | nil => simp [Mode.run]
  | cons c cs ih =>
    rw [List.cons_append, lexFrom, ih]
    simp [Mode.run, Function.comp_def]

/-- A text is read from left to right. -/
lemma Mode.run_append (m : Mode) (cs rest : List Char) :
    m.run (cs ++ rest)
      = (((m.run cs).1.run rest).1, (m.run cs).2 ++ ((m.run cs).1.run rest).2) := by
  induction cs generalizing m with
  | nil => simp [Mode.run]
  | cons c cs ih => simp [Mode.run, ih]

/-- A character that breaks the open token off is read as if no token had been open. -/
lemma lexFrom_of_breakOff {m : Mode} {c : Char} (h : m.step c = m.breakOff c)
    (rest : List Char) :
    lexFrom m (c :: rest) = (lexFrom .gap (c :: rest)).map (m.pending ++ ·) := by
  rw [lexFrom, lexFrom, h]
  simp [Mode.breakOff, Mode.step, Function.comp_def]

/-! ## Plain characters

Verbatim text is made of words, comparison signs, blanks and a few marks.  On these the lexer never
opens a name, a string or a comment.
-/

/-- The marks that verbatim text contains.  Each is a token by itself. -/
def marks : List Char := ['(', ')', ',', '.', '*']

/-- Characters that end whatever word, sign or name comes before them. -/
def isSeparator (c : Char) : Bool :=
  ('?' :: blanks ++ marks).contains c

/-- The characters of verbatim text. -/
def isPlain (c : Char) : Bool :=
  c ≠ '?' && (isSeparator c || isWordChar c || isSignChar c)

/-- Tokens that carry nothing of a caller's: neither a name nor the place of a value. -/
def Token.isFixed : Token → Bool
  | .name _ | .placeholder => false
  | _ => true

/-- A separator belongs to no word, no sign and no name, and leaves no token open. -/
lemma separator_facts {c : Char} (h : isSeparator c = true) :
    isWordChar c = false ∧ isSignChar c = false ∧ c ≠ backtick ∧ (Mode.start c).1 = .gap := by
  have all : ('?' :: blanks ++ marks).all (fun c =>
      !isWordChar c && !isSignChar c && c != backtick && (Mode.start c).1 == .gap) = true := by
    decide
  simpa [and_assoc] using List.all_eq_true.mp all c (List.contains_iff_mem.mp h)

/-- A separator that is no placeholder is a fixed token or none. -/
lemma isFixed_of_isSeparator {c : Char} (h : isSeparator c = true) (hc : c ≠ '?') :
    ∀ t ∈ (Mode.start c).2, t.isFixed = true := by
  have all : ('?' :: blanks ++ marks).all (fun c =>
      c == '?' || (Mode.start c).2.all Token.isFixed) = true := by
    decide
  simpa [hc] using List.all_eq_true.mp all c (List.contains_iff_mem.mp h)

namespace Mode

/-- The modes in which verbatim text is read: no token is open, or a word, or a sign. -/
def isBare : Mode → Bool
  | .gap | .word _ | .sign _ => true
  | _ => false

/-- The modes that a separator ends: those of verbatim text, and the end of a name. -/
def isSettled : Mode → Bool
  | .gap | .word _ | .sign _ | .nameEnd _ => true
  | _ => false

/-- Outside of quotes what was read may be broken off. -/
lemma isSettled_of_isBare {m : Mode} (h : m.isBare = true) : m.isSettled = true := by
  cases m with
  | gap => rfl
  | word seen => rfl
  | sign seen => rfl
  | _ => simp [isBare] at h

lemma isOpen_of_isBare {m : Mode} (h : m.isBare = true) : m.isOpen = false := by
  cases m with
  | gap => rfl
  | word seen => rfl
  | sign seen => rfl
  | _ => simp [isBare] at h

/-- Outside of quotes what is left to emit is fixed. -/
lemma isFixed_of_pending {m : Mode} (h : m.isBare = true) :
    ∀ t ∈ m.pending, t.isFixed = true := by
  cases m with
  | gap => simp [pending]
  | word seen => simp [pending, Token.isFixed]
  | sign seen => simp [pending, Token.isFixed]
  | _ => simp [isBare] at h

/-- A separator ends what was read so far. -/
lemma step_of_isSeparator {m : Mode} (hm : m.isSettled = true) {c : Char}
    (h : isSeparator c = true) : m.step c = m.breakOff c := by
  obtain ⟨hword, hsign, htick, -⟩ := separator_facts h
  cases m with
  | gap => rfl
  | word seen => simp [step, hword]
  | sign seen => simp [step, hsign]
  | nameEnd seen => simp [step, htick]
  | _ => simp [isSettled] at hm

/-- A plain character where no token is open opens a word or a sign, or is read at once. -/
lemma start_of_isPlain {c : Char} (h : isPlain c = true) :
    (start c).1.isBare = true ∧ ∀ t ∈ (start c).2, t.isFixed = true := by
  obtain ⟨hne, hclass⟩ : c ≠ '?' ∧ ((isSeparator c = true ∨ isWordChar c = true) ∨
      isSignChar c = true) := by simpa [isPlain] using h
  by_cases hsep : isSeparator c = true
  · refine ⟨?_, isFixed_of_isSeparator hsep hne⟩
    rw [(separator_facts hsep).2.2.2]
    rfl
  · have hblank : isBlank c = false := by
      by_contra hb
      refine hsep (List.contains_iff_mem.mpr ?_)
      simp only [isBlank, Bool.not_eq_false, List.contains_iff_mem] at hb
      simp [hb]
    by_cases hword : isWordChar c = true
    · simp [start, hblank, hword, isBare]
    · have hsign : isSignChar c = true := by simpa [hsep, hword] using hclass
      simp [start, hblank, hword, hsign, isBare]

/-- On plain characters the lexer stays in verbatim text and finds fixed tokens only. -/
lemma step_of_isPlain {m : Mode} (hm : m.isBare = true) {c : Char} (h : isPlain c = true) :
    (m.step c).1.isBare = true ∧ ∀ t ∈ (m.step c).2, t.isFixed = true := by
  have hbreak : (m.breakOff c).1.isBare = true ∧ ∀ t ∈ (m.breakOff c).2, t.isFixed = true := by
    refine ⟨(start_of_isPlain h).1, fun t ht => ?_⟩
    rcases List.mem_append.mp ht with ht | ht
    · exact isFixed_of_pending hm t ht
    · exact (start_of_isPlain h).2 t ht
  cases m with
  | gap => exact start_of_isPlain h
  | word seen =>
    rw [step]
    split
    · simp [isBare]
    · exact hbreak
  | sign seen =>
    rw [step]
    split
    · simp [isBare]
    · exact hbreak
  | _ => simp [isBare] at hm

/-- Plain characters never open a quote, and their tokens are fixed. -/
lemma run_of_isPlain {m : Mode} (hm : m.isBare = true) {cs : List Char}
    (h : ∀ c ∈ cs, isPlain c = true) :
    (m.run cs).1.isBare = true ∧ ∀ t ∈ (m.run cs).2, t.isFixed = true := by
  induction cs generalizing m with
  | nil => simpa [run] using hm
  | cons c cs ih =>
    obtain ⟨hbare, hfixed⟩ := step_of_isPlain hm (h c List.mem_cons_self)
    obtain ⟨hbare', hfixed'⟩ := ih hbare fun d hd => h d (List.mem_cons_of_mem _ hd)
    refine ⟨hbare', fun t ht => ?_⟩
    rcases List.mem_append.mp ht with ht | ht
    · exact hfixed t ht
    · exact hfixed' t ht

/-- After plain text that ends in a separator no token is open. -/
lemma run_of_isSeparator {m : Mode} (hm : m.isBare = true) {cs : List Char}
    (h : ∀ c ∈ cs, isPlain c = true) (hend : cs.getLast?.any isSeparator = true) :
    (m.run cs).1 = .gap := by
  obtain ⟨c, hlast, hc⟩ := (Option.any_eq_true _ _).mp hend
  obtain ⟨front, rfl⟩ := List.getLast?_eq_some_iff.mp hlast
  have hfront := (run_of_isPlain hm fun d hd => h d (List.mem_append_left _ hd)).1
  rw [run_append]
  simp [run, step_of_isSeparator (isSettled_of_isBare hfront) hc, breakOff,
    (separator_facts hc).2.2.2]

/-! ## Names

Inside backticks nothing but a backtick means anything, and every backtick that the name has is
followed by another one.  Only the last one is not, unless the text goes on with a backtick.
-/

/-- The characters of a name between its backticks are read as the name. -/
lemma run_doubled (seen cs : List Char) :
    (Mode.name seen).run (doubled cs) = (.name (seen ++ cs), []) := by
  induction cs generalizing seen with
  | nil => simp [doubled, run]
  | cons c cs ih =>
    by_cases hc : c = backtick
    · simp [doubled, hc, run, step, ih]
    · simp [doubled, hc, run, step, ih]

/-- A quoted name leaves the lexer at its last backtick. -/
lemma run_quote (name : String) : Mode.gap.run (quote name) = (.nameEnd name.toList, []) := by
  have hopen : start backtick = (.name [], []) := by decide
  simp [quote, run, run_append, run_doubled, hopen, step]

end Mode

/-! ## Words -/

/-- No character of a word is blank. -/
lemma isBlank_of_isWordChar {c : Char} (h : isWordChar c = true) : isBlank c = false := by
  by_contra hblank
  rw [Bool.not_eq_false, isBlank, List.contains_iff_mem] at hblank
  have hsep : isSeparator c = true := List.contains_iff_mem.mpr (by simp [hblank])
  rw [(separator_facts hsep).1] at h
  exact Bool.false_ne_true h

/-- A word goes on through characters of words. -/
lemma Mode.run_word (seen : List Char) {cs : List Char} (h : ∀ c ∈ cs, isWordChar c = true) :
    (Mode.word seen).run cs = (.word (seen ++ cs), []) := by
  induction cs generalizing seen with
  | nil => simp [run]
  | cons c cs ih =>
    have hstep : (Mode.word seen).step c = (.word (seen ++ [c]), []) := by
      simp [step, h c List.mem_cons_self]
    rw [run, hstep, ih _ fun d hd => h d (List.mem_cons_of_mem _ hd)]
    simp

/-- Characters of words are one word. -/
lemma lex_word {text : String} (hne : text ≠ "") (h : ∀ c ∈ text.toList, isWordChar c = true) :
    lex text = some [.word text] := by
  have hchars : text.toList ≠ [] := fun hnil => hne (String.toList_eq_nil_iff.mp hnil)
  obtain ⟨c, cs, hcs⟩ := List.exists_cons_of_ne_nil hchars
  rw [hcs] at h
  have hc : isWordChar c = true := h c List.mem_cons_self
  have hstart : Mode.start c = (.word [c], []) := by
    simp [Mode.start, isBlank_of_isWordChar hc, hc]
  have hrest : ∀ d ∈ cs, isWordChar d = true := fun d hd => h d (List.mem_cons_of_mem _ hd)
  have hrun : Mode.gap.run text.toList = (.word text.toList, []) := by
    rw [hcs, Mode.run, Mode.step, hstart, Mode.run_word _ hrest]
    rfl
  rw [lex, ← List.append_nil text.toList, lexFrom_append, hrun]
  simp [lexFrom, Mode.isOpen, Mode.pending]

/-- A settled mode before the end of the text or a separator is as good as none. -/
lemma lexFrom_of_isSettled {m : Mode} (hm : m.isSettled = true) {rest : List Char}
    (h : m = .gap ∨ ∀ c ∈ rest.head?, isSeparator c = true) :
    lexFrom m rest = (lexFrom .gap rest).map (m.pending ++ ·) := by
  rcases h with rfl | h
  · simp [Mode.pending]
  · cases rest with
    | nil => cases m <;> simp_all [lexFrom, Mode.isOpen, Mode.pending, Mode.isSettled]
    | cons c rest =>
      exact lexFrom_of_breakOff (Mode.step_of_isSeparator hm (h c rfl)) rest

end TableGateway.Sql

namespace TableGateway

open Sql

/-! ## Text in pieces -/

namespace Piece

/-- The tokens of a piece by itself. -/
def tokens : Piece → List Token
  | .verbatim text => (lex text).getD []
  | .name text => [.name text]
  | .placeholder => [.placeholder]

@[simp] lemma tokens_name (text : String) : (name text).tokens = [.name text] := rfl

@[simp] lemma tokens_placeholder : placeholder.tokens = [.placeholder] := rfl

/-- A verbatim piece has plain characters only. -/
def isPlain : Piece → Bool
  | .verbatim text => text.toList.all Sql.isPlain
  | _ => true

/-- A piece starts with a separator, so that no token before it goes on into it. -/
def startsClear (p : Piece) : Bool :=
  p.chars.head?.any isSeparator

/-- A piece ends with a separator, so that no token of it goes on after it. -/
def endsClear (p : Piece) : Bool :=
  p.chars.getLast?.any isSeparator

/-- Two pieces do not run together. -/
def Apart (p q : Piece) : Prop :=
  p.endsClear = true ∨ q.startsClear = true

/-- A piece that starts clear starts with a separator. -/
lemma isSeparator_of_startsClear {p : Piece} (h : p.startsClear = true) (rest : List Char) :
    ∀ c ∈ (p.chars ++ rest).head?, isSeparator c = true := by
  intro c hc
  obtain ⟨d, hd, hsep⟩ := (Option.any_eq_true _ _).mp h
  obtain rfl : d = c := by simpa [List.head?_append, hd] using hc
  exact hsep

/-- Text is plain if its parts are. -/
lemma isPlain_append (a b : String) :
    (verbatim (a ++ b)).isPlain = ((verbatim a).isPlain && (verbatim b).isPlain) := by
  simp [isPlain]

lemma startsClear_append {a : String} (h : (verbatim a).startsClear = true) (b : String) :
    (verbatim (a ++ b)).startsClear = true := by
  obtain ⟨c, hc, hsep⟩ := (Option.any_eq_true _ _).mp h
  refine (Option.any_eq_true _ _).mpr ⟨c, ?_, hsep⟩
  rw [chars] at hc
  simp [chars, List.head?_append, hc]

/-- The tokens of plain text are those it is read as from a gap. -/
lemma tokens_verbatim {text : String} (h : (verbatim text).isPlain = true) :
    (verbatim text).tokens
      = (Mode.gap.run text.toList).2 ++ (Mode.gap.run text.toList).1.pending := by
  have hbare := (Mode.run_of_isPlain (m := .gap) rfl (List.all_eq_true.mp h)).1
  have hlex : lex text
      = some ((Mode.gap.run text.toList).2 ++ (Mode.gap.run text.toList).1.pending) := by
    rw [lex, ← List.append_nil text.toList, lexFrom_append]
    simp [lexFrom, Mode.isOpen_of_isBare hbare]
  rw [tokens, hlex, Option.getD_some]

/-- The tokens of verbatim text carry nothing of a caller's. -/
lemma isFixed_of_verbatim {text : String} (h : (verbatim text).isPlain = true) :
    ∀ t ∈ (verbatim text).tokens, t.isFixed = true := by
  obtain ⟨hbare, hfixed⟩ := Mode.run_of_isPlain (m := .gap) rfl (List.all_eq_true.mp h)
  rw [tokens_verbatim h]
  intro t ht
  rcases List.mem_append.mp ht with ht | ht
  · exact hfixed t ht
  · exact Mode.isFixed_of_pending hbare t ht

/-- **Reading a piece.**  Where a piece and what follows do not run together, the lexer finds the
tokens of the piece and then those of the rest. -/
theorem lexFrom_chars {p : Piece} (hp : p.isPlain = true) {rest : List Char}
    (h : p.endsClear = true ∨ ∀ c ∈ rest.head?, isSeparator c = true) :
    lexFrom .gap (p.chars ++ rest) = (lexFrom .gap rest).map (p.tokens ++ ·) := by
  rw [lexFrom_append]
  cases p with
  | verbatim text =>
    have hplain := List.all_eq_true.mp hp
    have hbare := (Mode.run_of_isPlain (m := .gap) rfl hplain).1
    have hclear : (Mode.gap.run text.toList).1 = .gap ∨ ∀ c ∈ rest.head?, isSeparator c = true :=
      h.imp_left (Mode.run_of_isSeparator rfl hplain)
    rw [chars, lexFrom_of_isSettled (Mode.isSettled_of_isBare hbare) hclear, tokens_verbatim hp]
    simp [Function.comp_def]
  | name text =>
    -- A name ends with a backtick, so what follows must be the separator.
    have htick : isSeparator backtick = false := by decide
    have hlast : (name text).endsClear = false := by
      simp [endsClear, chars, quote, List.getLast?_cons, htick]
    have hrest := h.resolve_left (by simp [hlast])
    rw [chars, Mode.run_quote, lexFrom_of_isSettled (m := .nameEnd text.toList) rfl (.inr hrest)]
    simp [tokens, Mode.pending, Function.comp_def]
  | placeholder =>
    have hrun : Mode.gap.run placeholder.chars = (.gap, [.placeholder]) := by decide
    rw [hrun]
    rfl

end Piece

namespace SqlText

variable {a b text : SqlText}

/-- The tokens of text in pieces, piece by piece. -/
def tokens (text : SqlText) : List Token :=
  text.flatMap Piece.tokens

@[simp] lemma tokens_nil : tokens [] = [] := rfl

@[simp] lemma tokens_cons (p : Piece) (text : SqlText) :
    tokens (p :: text) = p.tokens ++ tokens text := rfl

@[simp] lemma tokens_append (a b : SqlText) : tokens (a ++ b) = tokens a ++ tokens b :=
  List.flatMap_append

/-- The tokens of separated texts: those of the first, then for each other one the separator's and
its own. -/
lemma tokens_join_cons (separator : String) (first : SqlText) (rest : List SqlText) :
    tokens (join separator (first :: rest))
      = tokens first ++ rest.flatMap fun t => (Piece.verbatim separator).tokens ++ tokens t := by
  induction rest generalizing first with
  | nil => simp [join]
  | cons u rest ih => simp [join, ih]

/-- Verbatim text is plain, and no two pieces run together. -/
structure Spaced (text : SqlText) : Prop where
  plain : ∀ p ∈ text, p.isPlain = true
  apart : text.IsChain Piece.Apart

/-- A text starts with a separator, or there is nothing of it. -/
def startsClear (text : SqlText) : Bool :=
  text.head?.all Piece.startsClear

/-- Spaced text is read as the tokens of its pieces, if what follows does not run together with
it. -/
lemma lexFrom_flatMap (h : text.Spaced) {rest : List Char}
    (hrest : ∀ c ∈ rest.head?, isSeparator c = true) :
    lexFrom .gap (text.flatMap Piece.chars ++ rest)
      = (lexFrom .gap rest).map (text.tokens ++ ·) := by
  -- Only the first character of the rest bears on how a piece is read.
  induction text with
  | nil => simp
  | cons p tail ih =>
    have htail : Spaced tail := ⟨fun q hq => h.plain q (List.mem_cons_of_mem _ hq), h.apart.tail⟩
    rw [List.flatMap_cons, List.append_assoc, Piece.lexFrom_chars (h.plain p List.mem_cons_self),
      ih htail]
    · simp [Function.comp_def]
    · cases tail with
      | nil => exact .inr hrest
      | cons q tail =>
        refine (List.isChain_cons_cons.mp h.apart).1.imp_right fun hq => ?_
        rw [List.flatMap_cons, List.append_assoc]
        exact Piece.isSeparator_of_startsClear hq _

/-- **Every name where it was written.**  The lexer reads spaced text as the tokens of its
pieces. -/
theorem lex_render (h : text.Spaced) : lex text.render = some text.tokens := by
  have hread : lexFrom .gap (text.flatMap Piece.chars ++ [])
      = (lexFrom .gap []).map (text.tokens ++ ·) := lexFrom_flatMap h (by simp)
  rw [lex, render, String.toList_ofList, ← List.append_nil (text.flatMap Piece.chars), hread]
  simp [lexFrom, Mode.isOpen, Mode.pending]

/-- Two verbatim texts that do not run together may be written as one. -/
lemma tokens_verbatim_append {a b : String} (ha : (Piece.verbatim a).isPlain = true)
    (hb : (Piece.verbatim b).isPlain = true) (h : Piece.Apart (.verbatim a) (.verbatim b)) :
    (Piece.verbatim (a ++ b)).tokens = (Piece.verbatim a).tokens ++ (Piece.verbatim b).tokens := by
  have hspaced : Spaced [.verbatim a, .verbatim b] :=
    ⟨by simp [ha, hb], List.isChain_cons_cons.mpr ⟨h, List.isChain_singleton _⟩⟩
  have hrender : a ++ b = render [.verbatim a, .verbatim b] := by simp [render, Piece.chars]
  rw [Piece.tokens, hrender, lex_render hspaced]
  simp

/-! ### Spaced text put together -/

lemma spaced_nil : Spaced [] := ⟨by simp, List.isChain_nil⟩

lemma spaced_singleton {p : Piece} (hp : p.isPlain = true) : Spaced [p] :=
  ⟨by simpa using hp, List.isChain_singleton p⟩

/-- A piece that ends clear may stand before spaced ones. -/
lemma Spaced.cons {p : Piece} (h : text.Spaced) (hp : p.isPlain = true)
    (hend : p.endsClear = true) : Spaced (p :: text) :=
  ⟨List.forall_mem_cons.mpr ⟨hp, h.plain⟩, List.isChain_cons.mpr ⟨fun _ _ => .inl hend, h.apart⟩⟩

lemma Spaced.append (ha : a.Spaced) (hb : b.Spaced) (hstart : b.startsClear = true) :
    (a ++ b).Spaced := by
  refine ⟨fun p hp => ?_, List.isChain_append.mpr ⟨ha.apart, hb.apart, fun p _ q hq => .inr ?_⟩⟩
  · rcases List.mem_append.mp hp with hp | hp
    · exact ha.plain p hp
    · exact hb.plain p hp
  · rw [startsClear, hq] at hstart
    exact hstart

/-- Separated texts are spaced if the separator is one at both of its ends. -/
lemma spaced_join {separator : String} (hplain : (Piece.verbatim separator).isPlain = true)
    (hstart : (Piece.verbatim separator).startsClear = true)
    (hend : (Piece.verbatim separator).endsClear = true) {texts : List SqlText}
    (h : ∀ t ∈ texts, t.Spaced) : (join separator texts).Spaced := by
  induction texts with
  | nil => exact spaced_nil
  | cons t rest ih =>
    obtain ⟨ht, hrest⟩ := List.forall_mem_cons.mp h
    cases rest with
    | nil => exact ht
    | cons u rest => exact ht.append ((ih hrest).cons hplain hend) hstart

/-- Every part of a dotted name is a name by itself. -/
lemma spaced_qualified (name : String) : (qualified name).Spaced := by
  refine spaced_join (by decide) (by decide) (by decide) fun t ht => ?_
  obtain ⟨part, -, rfl⟩ := List.mem_map.mp ht
  exact spaced_singleton rfl

end SqlText

end TableGateway
