import Mathlib.Data.List.Basic
import TableGateway.Text.Utf8

/-!
# What bytes read as

Any bytes fall into characters and invalid parts, and in one way only: where the bytes of a
character stand the character is read, and elsewhere the longest beginning of a character is an
invalid part, or a single byte where no character begins.  The lossy reader knows of neither: it
keeps what the character begun so far still owes.

* `Begins`, `InvalidPart`, `Reads` — bytes taken apart, with no reader in them.
* `Owed.Completes`, `Owed.Stuck` — what may come of a character that has begun.  One of them does
  (`Owed.completes_or_stuck`), and `Owed.Stuck.length_le` says that the other does not.
* `Owed.completes_iff` — the bounds on owed bytes are those of UTF-8: what a first byte owes is
  completed by the rest of the characters that begin with it.
* `InvalidPart.unique` — an invalid part is as long as it is, whoever looks.
* `reads_iff` — **the lossy text of bytes is what the bytes read as**.
-/

namespace TableGateway.Text.Utf8

open String (utf8EncodeChar)

/-- The bytes are the beginning of a character's, or all of them. -/
def Begins (part : List UInt8) : Prop :=
  ∃ c : Char, part <+: utf8EncodeChar c

/-- A maximal invalid part, with the bytes that follow it: no character stands there, and the part
is the longest beginning of one, or a single byte. -/
structure InvalidPart (part rest : List UInt8) : Prop where
  ne_nil : part ≠ []
  noChar : ∀ c : Char, ¬utf8EncodeChar c <+: part ++ rest
  begins : 1 < part.length → Begins part
  maximal : ∀ longer, longer <+: part ++ rest → Begins longer → longer.length ≤ part.length

/-- The characters that bytes read as, with U+FFFD for each maximal invalid part. -/
inductive Reads : List UInt8 → List Char → Prop
  | nil : Reads [] []
  | char {rest : List UInt8} {cs : List Char} (c : Char) (h : Reads rest cs) :
      Reads (utf8EncodeChar c ++ rest) (c :: cs)
  | invalid {part rest : List UInt8} {cs : List Char} (hpart : InvalidPart part rest)
      (h : Reads rest cs) : Reads (part ++ rest) (replacement :: cs)

variable {o : Owed} {b b₁ b₂ b₃ : UInt8} {bs part rest : List UInt8} {c : Char}

/-! ## A character that has begun -/

namespace Owed

/-- The byte continues the character. -/
def Admits (o : Owed) (b : UInt8) : Prop :=
  o.low ≤ b.toNat ∧ b.toNat ≤ o.high

/-- What is owed after a byte that continues the character. -/
def after (o : Owed) (b : UInt8) : Owed :=
  ⟨o.count - 1, 0x80, 0xBF, o.value * 0x40 + (b.toNat - 0x80)⟩

/-- The bytes pay all that is owed, and the character is read. -/
inductive Completes : Owed → List UInt8 → Char → Prop
  | last {o : Owed} {b : UInt8} (h : o.Admits b) (hcount : o.count ≤ 1) :
      Completes o [b] (Char.ofNat (o.after b).value)
  | next {o : Owed} {b : UInt8} {bs : List UInt8} {c : Char} (h : o.Admits b)
      (hcount : 1 < o.count) (hrest : Completes (o.after b) bs c) : Completes o (b :: bs) c

/-- The bytes continue the character, and what follows them neither does nor need not. -/
inductive Stuck : Owed → List UInt8 → List UInt8 → Prop
  | stop {o : Owed} {rest : List UInt8} (h : ∀ b ∈ rest.head?, ¬o.Admits b) : Stuck o [] rest
  | next {o : Owed} {b : UInt8} {part rest : List UInt8} (h : o.Admits b) (hcount : 1 < o.count)
      (hrest : Stuck (o.after b) part rest) : Stuck o (b :: part) rest

/-- The last byte of a character completes it. -/
lemma lossyFrom_last (h : o.Admits b) (hcount : o.count ≤ 1) :
    lossyFrom (some o) (b :: rest) = Char.ofNat (o.after b).value :: lossyFrom none rest := by
  unfold Admits at h
  simp [lossyFrom, step, h, hcount, after]

/-- A byte before the last one leaves less owed. -/
lemma lossyFrom_next (h : o.Admits b) (hcount : 1 < o.count) :
    lossyFrom (some o) (b :: rest) = lossyFrom (some (o.after b)) rest := by
  unfold Admits at h
  simp [lossyFrom, step, h, Nat.not_le.mpr hcount, after]

/-- Where a character cannot go on, what was read of it is replaced. -/
lemma lossyFrom_stop (h : ∀ b ∈ rest.head?, ¬o.Admits b) :
    lossyFrom (some o) rest = replacement :: lossyFrom none rest := by
  cases rest with
  | nil => rfl
  | cons b rest =>
    have hb : ¬(o.low ≤ b.toNat ∧ b.toNat ≤ o.high) := h b rfl
    simp only [lossyFrom, step, if_neg hb]
    rfl

/-- Bytes that complete a character are read as it. -/
lemma Completes.lossyFrom_append (h : Completes o bs c) (rest : List UInt8) :
    lossyFrom (some o) (bs ++ rest) = c :: lossyFrom none rest := by
  induction h with
  | last h hcount => exact lossyFrom_last h hcount
  | next h hcount _ ih => exact (lossyFrom_next h hcount).trans ih

/-- Bytes that are stuck are replaced by one mark. -/
lemma Stuck.lossyFrom_append (h : Stuck o part rest) :
    lossyFrom (some o) (part ++ rest) = replacement :: lossyFrom none rest := by
  induction h with
  | stop h => exact lossyFrom_stop h
  | next h hcount _ ih => exact (lossyFrom_next h hcount).trans ih

/-- What is owed is completed or gets stuck. -/
theorem completes_or_stuck (o : Owed) (bytes : List UInt8) :
    (∃ bs rest c, bytes = bs ++ rest ∧ Completes o bs c) ∨
      ∃ part rest, bytes = part ++ rest ∧ Stuck o part rest := by
  induction bytes generalizing o with
  | nil => exact .inr ⟨[], [], rfl, .stop (by simp)⟩
  | cons b bytes ih =>
    by_cases h : o.Admits b
    · rcases Nat.lt_or_ge 1 o.count with hcount | hcount
      · rcases ih (o.after b) with ⟨bs, rest, c, rfl, hrest⟩ | ⟨part, rest, rfl, hrest⟩
        · exact .inl ⟨b :: bs, rest, c, rfl, .next h hcount hrest⟩
        · exact .inr ⟨b :: part, rest, rfl, .next h hcount hrest⟩
      · exact .inl ⟨[b], bytes, _, rfl, .last h hcount⟩
    · exact .inr ⟨[], b :: bytes, rfl, .stop (by simpa using h)⟩

/-- Something that is owed takes a byte. -/
lemma Completes.eq_cons (h : Completes o bs c) : ∃ b tail, bs = b :: tail ∧ o.Admits b := by
  cases h with
  | last h => exact ⟨_, _, rfl, h⟩
  | next h => exact ⟨_, _, rfl, h⟩

/-- Where reading is stuck, the bytes agree with those of a character up to there at most. -/
theorem Stuck.length_le (h : Stuck o part rest) (hbs : Completes o bs c) {common : List UInt8}
    (hcommon : common <+: bs) (hbytes : common <+: part ++ rest) :
    common.length ≤ part.length ∧ common.length < bs.length := by
  induction h generalizing bs common with
  | @stop o rest h =>
    obtain ⟨b, tail, rfl, hb⟩ := hbs.eq_cons
    cases common with
    | nil => simp
    | cons x common =>
      obtain ⟨rfl, -⟩ := List.cons_prefix_cons.mp hcommon
      obtain ⟨after, rfl⟩ := hbytes
      exact absurd hb (h x rfl)
  | next h hcount _ ih =>
    cases common with
    | nil =>
      obtain ⟨b, tail, rfl, -⟩ := hbs.eq_cons
      simp
    | cons x common =>
      obtain ⟨rfl, htail⟩ := List.cons_prefix_cons.mp hbytes
      cases hbs with
      | last h hlast => omega
      | next h hcount hrest =>
        obtain ⟨rfl, hshared⟩ := List.cons_prefix_cons.mp hcommon
        obtain ⟨hpart, hshort⟩ := ih hrest hshared htail
        exact ⟨Nat.succ_le_succ hpart, Nat.succ_lt_succ hshort⟩

lemma admits_high (h : o.low ≤ o.high) (hhigh : o.high ≤ 0xFF) :
    o.Admits (UInt8.ofNat o.high) := by
  simp only [Admits, UInt8.toNat_ofNat']
  omega

/-- What is owed can be paid, as long as the bounds leave a byte. -/
lemma exists_completes (h : o.low ≤ o.high) (hhigh : o.high ≤ 0xFF) :
    ∃ bs c, Completes o bs c := by
  induction hcount : o.count generalizing o with
  | zero => exact ⟨_, _, .last (admits_high h hhigh) (by omega)⟩
  | succ n ih =>
    rcases Nat.lt_or_ge 1 o.count with hmore | hlast
    · have hafter : (o.after (UInt8.ofNat o.high)).count = n := by rw [after, hcount]; rfl
      obtain ⟨bs, c, hrest⟩ := ih (o := o.after _) (Nat.le_of_ble_eq_true rfl)
        (Nat.le_of_ble_eq_true rfl) hafter
      exact ⟨_, c, .next (admits_high h hhigh) hmore hrest⟩
    · exact ⟨_, _, .last (admits_high h hhigh) hlast⟩

/-- What is stuck could have gone on otherwise. -/
lemma Stuck.exists_completes (h : Stuck o part rest) (hbounds : o.low ≤ o.high)
    (hhigh : o.high ≤ 0xFF) : ∃ bs c, Completes o (part ++ bs) c := by
  induction h with
  | stop => exact Owed.exists_completes hbounds hhigh
  | next h hcount _ ih =>
    obtain ⟨bs, c, hrest⟩ := ih (by simp [after]) (by simp [after])
    exact ⟨bs, c, .next h hcount hrest⟩

/-- What completes a character that owes one byte. -/
lemma completes_of_one (hcount : o.count = 1) :
    Completes o bs c ↔ ∃ b, bs = [b] ∧ o.Admits b ∧ c = Char.ofNat (o.after b).value := by
  constructor
  · intro h
    cases h with
    | @last _ b h => exact ⟨b, rfl, h, rfl⟩
    | next h hmore => omega
  · rintro ⟨b, rfl, h, hc⟩
    rw [hc]
    exact .last h (Nat.le_of_eq hcount)

/-- What completes a character that owes several bytes. -/
lemma completes_of_more (hcount : 1 < o.count) :
    Completes o bs c ↔ ∃ b rest, bs = b :: rest ∧ o.Admits b ∧ Completes (o.after b) rest c := by
  constructor
  · intro h
    cases h with
    | last h hlast => omega
    | next h _ hrest => exact ⟨_, _, rfl, h, hrest⟩
  · rintro ⟨b, rest, rfl, h, hrest⟩
    exact .next h hcount hrest

/-! ### First bytes

The bounds on the second byte are stated by what they are for: after it the value is that of a
character, which is neither overlong nor a surrogate nor above U+10FFFF. -/

/-- The bytes that may start a longer character. -/
lemma ofLead_range {lead : Nat} (h : ofLead lead = some o) : 0xC2 ≤ lead ∧ lead ≤ 0xF4 := by
  unfold ofLead at h
  split_ifs at h
  all_goals omega

/-- What is admitted after a first byte has bounds in their order. -/
lemma ofLead_bounds {lead : Nat} (h : ofLead lead = some o) : o.low ≤ o.high ∧ o.high ≤ 0xFF := by
  unfold ofLead at h
  split_ifs at h
  all_goals
    obtain rfl := Option.some.inj h
    exact ⟨Nat.le_of_ble_eq_true rfl, Nat.le_of_ble_eq_true rfl⟩

/-- The first bytes of characters of two bytes. -/
lemma ofLead_two {lead : Nat} (hlow : 0xC2 ≤ lead) (hhigh : lead ≤ 0xDF) :
    ofLead lead = some ⟨1, 0x80, 0xBF, lead - 0xC0⟩ :=
  if_pos ⟨hlow, hhigh⟩

/-- The first bytes of characters of three bytes admit no overlong forms and no surrogates. -/
lemma ofLead_three {lead : Nat} (hlow : 0xE0 ≤ lead) (hhigh : lead ≤ 0xEF) :
    ∃ o, ofLead lead = some o ∧ o.count = 2 ∧ o.value = lead - 0xE0 ∧ ∀ x, o.Admits x ↔
      0x80 ≤ x.toNat ∧ x.toNat ≤ 0xBF ∧ 0x20 ≤ (o.after x).value ∧
        ((o.after x).value < 0x360 ∨ 0x380 ≤ (o.after x).value) := by
  unfold ofLead
  split_ifs
  all_goals first
    | omega
    | refine ⟨_, rfl, rfl, by simp only <;> omega, fun x => ?_⟩
      simp only [Admits, after]
      omega

/-- The first bytes of characters of four bytes admit nothing above the last character. -/
lemma ofLead_four {lead : Nat} (hlow : 0xF0 ≤ lead) (hhigh : lead ≤ 0xF4) :
    ∃ o, ofLead lead = some o ∧ o.count = 3 ∧ o.value = lead - 0xF0 ∧ ∀ x, o.Admits x ↔
      0x80 ≤ x.toNat ∧ x.toNat ≤ 0xBF ∧ 0x10 ≤ (o.after x).value ∧
        (o.after x).value < 0x110 := by
  unfold ofLead
  split_ifs
  all_goals first
    | omega
    | refine ⟨_, rfl, rfl, by simp only <;> omega, fun x => ?_⟩
      simp only [Admits, after]
      omega

end Owed

/-! ## The bytes of a character -/

lemma toNat_valid (c : Char) : c.toNat < 0xD800 ∨ 0xDFFF < c.toNat ∧ c.toNat < 0x110000 :=
  c.valid

/-- A number that a character may have is the number of one. -/
lemma eq_ofNat {n : Nat} (h : n < 0xD800 ∨ 0xDFFF < n ∧ n < 0x110000) :
    c = Char.ofNat n ↔ c.toNat = n := by
  have hn : (Char.ofNat n).toNat = n := by
    rw [Char.ofNat, dif_pos h]
    rfl
  constructor
  · rintro rfl
    exact hn
  · intro hc
    rw [← hc, Char.ofNat_toNat]

/-- The encodings of one byte. -/
lemma utf8EncodeChar_eq_one : utf8EncodeChar c = [b] ↔ c.toNat < 0x80 ∧ b.toNat = c.toNat := by
  rw [utf8EncodeChar, Char.toNat_val]
  split_ifs <;> simp [← UInt8.toNat_inj] <;> omega

lemma utf8EncodeChar_eq_two :
    utf8EncodeChar c = [b, b₁] ↔ 0x80 ≤ c.toNat ∧ c.toNat < 0x800 ∧
      b.toNat = 0xC0 + c.toNat / 0x40 ∧ b₁.toNat = 0x80 + c.toNat % 0x40 := by
  rw [utf8EncodeChar, Char.toNat_val]
  split_ifs <;> simp [← UInt8.toNat_inj] <;> omega

lemma utf8EncodeChar_eq_three :
    utf8EncodeChar c = [b, b₁, b₂] ↔ 0x800 ≤ c.toNat ∧ c.toNat < 0x10000 ∧
      b.toNat = 0xE0 + c.toNat / 0x1000 ∧ b₁.toNat = 0x80 + c.toNat / 0x40 % 0x40 ∧
      b₂.toNat = 0x80 + c.toNat % 0x40 := by
  rw [utf8EncodeChar, Char.toNat_val]
  split_ifs <;> simp [← UInt8.toNat_inj] <;> omega

lemma utf8EncodeChar_eq_four :
    utf8EncodeChar c = [b, b₁, b₂, b₃] ↔ 0x10000 ≤ c.toNat ∧
      b.toNat = 0xF0 + c.toNat / 0x40000 ∧ b₁.toNat = 0x80 + c.toNat / 0x1000 % 0x40 ∧
      b₂.toNat = 0x80 + c.toNat / 0x40 % 0x40 ∧ b₃.toNat = 0x80 + c.toNat % 0x40 := by
  have hvalid := toNat_valid c
  rw [utf8EncodeChar, Char.toNat_val]
  split_ifs <;> simp [← UInt8.toNat_inj] <;> omega

/-- No encoding is empty. -/
lemma exists_utf8EncodeChar (c : Char) : ∃ b bs, utf8EncodeChar c = b :: bs :=
  List.exists_cons_of_ne_nil String.utf8EncodeChar_ne_nil

/-- The first byte of a character tells how many follow. -/
lemma lead_of_utf8EncodeChar (h : utf8EncodeChar c = b :: bs) :
    b.toNat < 0x80 ∧ bs.length = 0 ∨ 0xC2 ≤ b.toNat ∧ b.toNat ≤ 0xDF ∧ bs.length = 1 ∨
      0xE0 ≤ b.toNat ∧ b.toNat ≤ 0xEF ∧ bs.length = 2 ∨
      0xF0 ≤ b.toNat ∧ b.toNat ≤ 0xF4 ∧ bs.length = 3 := by
  have hvalid := toNat_valid c
  rw [utf8EncodeChar, Char.toNat_val] at h
  split_ifs at h
  all_goals
    obtain ⟨rfl, rfl⟩ := List.cons.inj h
    simp
    omega

/-- A low byte is an encoding by itself. -/
lemma utf8EncodeChar_ascii (hb : b.toNat < 0x80) :
    utf8EncodeChar c = b :: bs ↔ bs = [] ∧ c = Char.ofNat b.toNat := by
  rw [eq_ofNat (by omega)]
  constructor
  · intro h
    have hlead := lead_of_utf8EncodeChar h
    obtain rfl : bs = [] := List.length_eq_zero_iff.mp (by omega)
    exact ⟨rfl, (utf8EncodeChar_eq_one.mp h).2.symm⟩
  · rintro ⟨rfl, hc⟩
    exact utf8EncodeChar_eq_one.mpr ⟨hc ▸ hb, hc.symm⟩

namespace Owed

/-- Any other first byte owes more. -/
lemma exists_ofLead (h : utf8EncodeChar c = b :: bs) (hb : ¬b.toNat < 0x80) :
    ∃ o, ofLead b.toNat = some o := by
  rcases lead_of_utf8EncodeChar h with ⟨hone, -⟩ | ⟨hlow, hhigh, -⟩ | ⟨hlow, hhigh, -⟩ |
    ⟨hlow, hhigh, -⟩
  · exact absurd hone hb
  · exact ⟨_, ofLead_two hlow hhigh⟩
  · exact (ofLead_three hlow hhigh).imp fun _ h => h.1
  · exact (ofLead_four hlow hhigh).imp fun _ h => h.1

/-- What completes a character of two bytes is the rest of its encoding. -/
lemma completes_two (hlow : 0xC2 ≤ b.toNat) (hhigh : b.toNat ≤ 0xDF)
    (ho : ofLead b.toNat = some o) :
    Completes o bs c ↔ ∃ b₁, bs = [b₁] ∧ utf8EncodeChar c = [b, b₁] := by
  obtain rfl := Option.some.inj (ho.symm.trans (ofLead_two hlow hhigh))
  rw [completes_of_one rfl]
  refine exists_congr fun b₁ => and_congr_right fun _ => ?_
  simp only [Admits, after, utf8EncodeChar_eq_two]
  constructor
  · rintro ⟨h₁, hc⟩
    rw [eq_ofNat (by omega)] at hc
    omega
  · intro h
    rw [eq_ofNat (by omega)]
    omega

lemma completes_three (hlow : 0xE0 ≤ b.toNat) (hhigh : b.toNat ≤ 0xEF)
    (ho : ofLead b.toNat = some o) :
    Completes o bs c ↔ ∃ b₁ b₂, bs = [b₁, b₂] ∧ utf8EncodeChar c = [b, b₁, b₂] := by
  obtain ⟨o', ho', hcount, hvalue, hb₁⟩ := ofLead_three hlow hhigh
  obtain rfl := Option.some.inj (ho.symm.trans ho')
  simp only [completes_of_more (o := o) (by omega),
    completes_of_one (o := o.after _) (by simp [after, hcount]), hb₁]
  constructor
  · rintro ⟨b₁, _, rfl, h₁, b₂, rfl, h₂, hc⟩
    refine ⟨b₁, b₂, rfl, ?_⟩
    simp only [Admits, after] at h₁ h₂ hc
    rw [eq_ofNat (by omega)] at hc
    rw [utf8EncodeChar_eq_three]
    omega
  · rintro ⟨b₁, b₂, rfl, h⟩
    rw [utf8EncodeChar_eq_three] at h
    have hvalid := toNat_valid c
    refine ⟨b₁, _, rfl, ?_, b₂, rfl, ?_, ?_⟩
    · simp only [after]
      omega
    · simp only [Admits, after]
      omega
    · simp only [after]
      rw [eq_ofNat (by omega)]
      omega

lemma completes_four (hlow : 0xF0 ≤ b.toNat) (hhigh : b.toNat ≤ 0xF4)
    (ho : ofLead b.toNat = some o) :
    Completes o bs c ↔
      ∃ b₁ b₂ b₃, bs = [b₁, b₂, b₃] ∧ utf8EncodeChar c = [b, b₁, b₂, b₃] := by
  obtain ⟨o', ho', hcount, hvalue, hb₁⟩ := ofLead_four hlow hhigh
  obtain rfl := Option.some.inj (ho.symm.trans ho')
  simp only [completes_of_more (o := o) (by omega),
    completes_of_more (o := o.after _) (by simp [after, hcount]),
    completes_of_one (o := (o.after _).after _) (by simp [after, hcount]), hb₁]
  constructor
  · rintro ⟨b₁, _, rfl, h₁, b₂, _, rfl, h₂, b₃, rfl, h₃, hc⟩
    refine ⟨b₁, b₂, b₃, rfl, ?_⟩
    simp only [Admits, after] at h₁ h₂ h₃ hc
    rw [eq_ofNat (by omega)] at hc
    rw [utf8EncodeChar_eq_four]
    omega
  · rintro ⟨b₁, b₂, b₃, rfl, h⟩
    rw [utf8EncodeChar_eq_four] at h
    have hvalid := toNat_valid c
    refine ⟨b₁, _, rfl, ?_, b₂, _, rfl, ?_, b₃, rfl, ?_, ?_⟩
    · simp only [after]
      omega
    · simp only [Admits, after]
      omega
    · simp only [Admits, after]
      omega
    · simp only [after]
      rw [eq_ofNat (by omega)]
      omega

/-- What a first byte owes is completed by the rest of the characters that begin with it. -/
theorem completes_iff (ho : ofLead b.toNat = some o) :
    Completes o bs c ↔ utf8EncodeChar c = b :: bs := by
  have hrange := ofLead_range ho
  constructor
  · intro h
    by_cases htwo : b.toNat ≤ 0xDF
    · obtain ⟨b₁, rfl, hc⟩ := (completes_two hrange.1 htwo ho).mp h
      exact hc
    by_cases hthree : b.toNat ≤ 0xEF
    · obtain ⟨b₁, b₂, rfl, hc⟩ := (completes_three (by omega) hthree ho).mp h
      exact hc
    · obtain ⟨b₁, b₂, b₃, rfl, hc⟩ := (completes_four (by omega) hrange.2 ho).mp h
      exact hc
  · intro h
    rcases lead_of_utf8EncodeChar h with ⟨hb, -⟩ | ⟨hlow, hhigh, hlength⟩ |
      ⟨hlow, hhigh, hlength⟩ | ⟨hlow, hhigh, hlength⟩
    · omega
    · obtain ⟨b₁, rfl⟩ := List.length_eq_one_iff.mp hlength
      exact (completes_two hlow hhigh ho).mpr ⟨b₁, rfl, h⟩
    · obtain ⟨b₁, b₂, rfl⟩ := List.length_eq_two.mp hlength
      exact (completes_three hlow hhigh ho).mpr ⟨b₁, b₂, rfl, h⟩
    · obtain ⟨b₁, b₂, b₃, rfl⟩ := List.length_eq_three.mp hlength
      exact (completes_four hlow hhigh ho).mpr ⟨b₁, b₂, b₃, rfl, h⟩

end Owed

/-! ## Invalid parts -/

namespace InvalidPart

variable {part' rest' : List UInt8}

/-- An invalid part is no longer than another one at its place. -/
theorem length_le (h : InvalidPart part rest) (h' : InvalidPart part' rest')
    (heq : part ++ rest = part' ++ rest') : part.length ≤ part'.length := by
  by_cases hone : 1 < part.length
  · exact h'.maximal part (heq ▸ List.prefix_append part rest) (h.begins hone)
  · have hpos : 0 < part'.length := List.length_pos_of_ne_nil h'.ne_nil
    omega

/-- At a place there is one invalid part. -/
theorem unique (h : InvalidPart part rest) (h' : InvalidPart part' rest')
    (heq : part ++ rest = part' ++ rest') : part = part' ∧ rest = rest' :=
  List.append_inj heq (Nat.le_antisymm (h.length_le h' heq) (h'.length_le h heq.symm))

/-- What is stuck is an invalid part. -/
lemma of_stuck (ho : Owed.ofLead b.toNat = some o) (h : Owed.Stuck o part rest) :
    InvalidPart (b :: part) rest := by
  have hshort (c : Char) (common : List UInt8) (hc : common <+: utf8EncodeChar c)
      (hbytes : common <+: b :: part ++ rest) :
      common.length ≤ (b :: part).length ∧ common.length < (utf8EncodeChar c).length := by
    obtain ⟨x, bs, hbs⟩ := exists_utf8EncodeChar c
    rw [hbs] at hc ⊢
    cases common with
    | nil => simp
    | cons y common =>
      obtain ⟨rfl, htail⟩ := List.cons_prefix_cons.mp hbytes
      obtain ⟨rfl, hshared⟩ := List.cons_prefix_cons.mp hc
      obtain ⟨hpart, hless⟩ := h.length_le ((Owed.completes_iff ho).mpr hbs) hshared htail
      exact ⟨Nat.succ_le_succ hpart, Nat.succ_lt_succ hless⟩
  refine ⟨List.cons_ne_nil _ _, fun c hc => ?_, fun _ => ?_, fun longer hlonger hbegins => ?_⟩
  · exact absurd (hshort c _ (List.prefix_refl _) hc).2 (Nat.lt_irrefl _)
  · obtain ⟨hbounds, hhigh⟩ := Owed.ofLead_bounds ho
    obtain ⟨bs, c, hbs⟩ := h.exists_completes hbounds hhigh
    exact ⟨c, bs, ((Owed.completes_iff ho).mp hbs).symm⟩
  · obtain ⟨c, hc⟩ := hbegins
    exact (hshort c longer hc hlonger).1

lemma of_noLead (hb : ¬b.toNat < 0x80) (ho : Owed.ofLead b.toNat = none) :
    InvalidPart [b] rest := by
  have hnone (c : Char) (bs : List UInt8) : utf8EncodeChar c ≠ b :: bs := by
    intro h
    obtain ⟨o, hsome⟩ := Owed.exists_ofLead h hb
    simp [ho] at hsome
  refine ⟨List.cons_ne_nil _ _, fun c hc => ?_, fun h => by simp at h,
    fun longer hlonger hbegins => ?_⟩
  · obtain ⟨x, bs, hbs⟩ := exists_utf8EncodeChar c
    rw [hbs] at hc
    obtain ⟨rfl, -⟩ := List.cons_prefix_cons.mp hc
    exact hnone c bs hbs
  · cases longer with
    | nil => simp
    | cons x longer =>
      obtain ⟨rfl, -⟩ := List.cons_prefix_cons.mp hlonger
      obtain ⟨c, tail, hc⟩ := hbegins
      exact absurd hc.symm (hnone c (longer ++ tail))

end InvalidPart

/-! ## Reading -/

/-- A low byte is a character. -/
lemma lossyFrom_ascii (hb : b.toNat < 0x80) :
    lossyFrom none (b :: rest) = Char.ofNat b.toNat :: lossyFrom none rest := by
  simp [lossyFrom, step, startWith, hb]

lemma lossyFrom_lead (ho : Owed.ofLead b.toNat = some o) :
    lossyFrom none (b :: rest) = lossyFrom (some o) rest := by
  have hrange := Owed.ofLead_range ho
  have hb : ¬b.toNat < 0x80 := by omega
  simp [lossyFrom, step, startWith, ho, hb]

/-- A byte that starts nothing is replaced by one mark. -/
lemma lossyFrom_noLead (hb : ¬b.toNat < 0x80) (ho : Owed.ofLead b.toNat = none) :
    lossyFrom none (b :: rest) = replacement :: lossyFrom none rest := by
  simp [lossyFrom, step, startWith, ho, hb]

/-- A character is read from its bytes, whatever follows them. -/
lemma lossyFrom_utf8EncodeChar (c : Char) (rest : List UInt8) :
    lossyFrom none (utf8EncodeChar c ++ rest) = c :: lossyFrom none rest := by
  obtain ⟨b, bs, h⟩ := exists_utf8EncodeChar c
  rw [h, List.cons_append]
  by_cases hb : b.toNat < 0x80
  · obtain ⟨rfl, hc⟩ := (utf8EncodeChar_ascii hb).mp h
    rw [lossyFrom_ascii hb, hc]
    rfl
  · obtain ⟨o, ho⟩ := Owed.exists_ofLead h hb
    rw [lossyFrom_lead ho, ((Owed.completes_iff ho).mpr h).lossyFrom_append]

/-- Bytes start with a character or with an invalid part, and the reader takes it. -/
lemma char_or_invalidPart (b : UInt8) (bytes : List UInt8) :
    (∃ c rest, b :: bytes = utf8EncodeChar c ++ rest) ∨
      ∃ part rest, b :: bytes = part ++ rest ∧ InvalidPart part rest ∧
        lossyFrom none (part ++ rest) = replacement :: lossyFrom none rest := by
  by_cases hb : b.toNat < 0x80
  · exact .inl ⟨_, bytes, by rw [(utf8EncodeChar_ascii hb).mpr ⟨rfl, rfl⟩]; rfl⟩
  cases ho : Owed.ofLead b.toNat with
  | none => exact .inr ⟨[b], bytes, rfl, .of_noLead hb ho, lossyFrom_noLead hb ho⟩
  | some o =>
    rcases o.completes_or_stuck bytes with ⟨bs, rest, c, rfl, h⟩ | ⟨part, rest, rfl, h⟩
    · exact .inl ⟨c, rest, by rw [(Owed.completes_iff ho).mp h]; rfl⟩
    · exact .inr ⟨b :: part, rest, rfl, .of_stuck ho h,
        (lossyFrom_lead ho).trans h.lossyFrom_append⟩

/-- An invalid part is replaced by one mark. -/
lemma InvalidPart.lossyFrom_append (h : InvalidPart part rest) :
    lossyFrom none (part ++ rest) = replacement :: lossyFrom none rest := by
  obtain ⟨b, bytes, hbytes⟩ := List.exists_cons_of_ne_nil h.ne_nil
  rcases char_or_invalidPart b (bytes ++ rest) with ⟨c, after, heq⟩ | ⟨part', rest', heq, h', hread⟩
  · rw [← List.cons_append, ← hbytes] at heq
    exact absurd (heq ▸ List.prefix_append (utf8EncodeChar c) after) (h.noChar c)
  · rw [← List.cons_append, ← hbytes] at heq
    obtain ⟨rfl, rfl⟩ := h.unique h' heq
    exact hread

/-- The decoder reads as the independent reading does. -/
lemma Reads.lossyFrom_eq {bytes : List UInt8} {cs : List Char} (h : Reads bytes cs) :
    lossyFrom none bytes = cs := by
  induction h with
  | nil => rfl
  | char c _ ih => rw [lossyFrom_utf8EncodeChar, ih]
  | invalid hpart _ ih => rw [hpart.lossyFrom_append, ih]

/-- The independent reading reads all bytes. -/
lemma exists_reads (bytes : List UInt8) : ∃ cs, Reads bytes cs := by
  induction hlength : bytes.length using Nat.strongRecOn generalizing bytes with
  | _ n ih =>
    cases bytes with
    | nil => exact ⟨[], .nil⟩
    | cons b bytes =>
      rcases char_or_invalidPart b bytes with ⟨c, rest, heq⟩ | ⟨part, rest, heq, hpart, -⟩
      · have hpos : 0 < (utf8EncodeChar c).length :=
          List.length_pos_of_ne_nil String.utf8EncodeChar_ne_nil
        rw [heq, List.length_append] at hlength
        obtain ⟨cs, h⟩ := ih rest.length (by omega) rest rfl
        exact ⟨c :: cs, heq ▸ .char c h⟩
      · have hpos : 0 < part.length := List.length_pos_of_ne_nil hpart.ne_nil
        rw [heq, List.length_append] at hlength
        obtain ⟨cs, h⟩ := ih rest.length (by omega) rest rfl
        exact ⟨replacement :: cs, heq ▸ .invalid hpart h⟩

/-- **The lossy text of bytes is what they read as**: there is one such text for any bytes. -/
theorem reads_iff {bytes : List UInt8} {s : String} :
    Reads bytes s.toList ↔ decodeLossy bytes = s := by
  constructor
  · intro h
    rw [decodeLossy, h.lossyFrom_eq, String.ofList_toList]
  · rintro rfl
    obtain ⟨cs, h⟩ := exists_reads bytes
    rwa [decodeLossy, String.toList_ofList, h.lossyFrom_eq]

end TableGateway.Text.Utf8
