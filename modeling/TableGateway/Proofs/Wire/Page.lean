import Mathlib.Tactic.Lemma
import TableGateway.Sql.Statement
import TableGateway.Wire.Records

/-!
# Pages read back from the wire

A page is written as an object with a number for each part that it has.  Numbers are read with 64
signed bits, where a page has unsigned ones, and what is not read counts as unset: of a page that is
written, just the parts below the signed bound come back.

* `Page.toJson` — the document for a page.
* `Wire.unsigned?_signed?` — a number is read back if it is below the bound.
* **`Wire.pageOf_toJson`** — what is read of the document for a page, and for which pages that is
  the page itself; `Wire.pageOf_toJson_greatest` is a page for which it is not.
-/

namespace TableGateway

/-- The document for a number. -/
def Json.ofUnsigned (n : UInt64) : Json :=
  .number (.integer n.toNat (Value.uint64_inRange n))

/-- The document for a page: a number for each part that it has. -/
def Page.toJson (page : Page) : Json :=
  .object ((page.limit.map fun n => ("limit", Json.ofUnsigned n)).toList ++
    (page.offset.map fun n => ("skip", Json.ofUnsigned n)).toList)

namespace Wire

/-- Whether a number has a place among the signed ones. -/
def isSigned (n : UInt64) : Bool :=
  n.toNat < 0x8000000000000000

/-- A number that has a place among the signed ones is read back, and any other is not read. -/
theorem unsigned?_signed? (n : UInt64) :
    (Json.ofUnsigned n).signed?.bind Page.unsigned? = if isSigned n then some n else none := by
  change (if (n.toNat : Int) < 0x8000000000000000 then some (Int64.ofInt n.toNat) else none).bind
    Page.unsigned? = _
  by_cases h : n.toNat < 0x8000000000000000
  · have hsigned : (n.toNat : Int) < 0x8000000000000000 := by omega
    have hint : (Int64.ofInt n.toNat).toInt = n.toNat :=
      Int64.toInt_ofInt_of_le (by omega) (by omega)
    rw [if_pos hsigned, isSigned, decide_eq_true h, if_pos rfl, Option.bind_some, Page.unsigned?,
      hint, if_pos (Int.natCast_nonneg _), Int.toNat_natCast, UInt64.ofNat_toNat]
  · have hunsigned : ¬ (n.toNat : Int) < 0x8000000000000000 := by omega
    rw [if_neg hunsigned, isSigned, decide_eq_false h]
    rfl

/-- Read back, a part of a page is there if it was there and is below the bound. -/
lemma unsigned?_part (part : Option UInt64) :
    ((part.map Json.ofUnsigned).bind Json.signed?).bind Page.unsigned? = part.filter isSigned := by
  cases part with
  | none => rfl
  | some n => rw [Option.map_some, Option.bind_some, unsigned?_signed?, Option.filter_some]

/-- A part of a page is kept if it fits the signed numbers. -/
lemma filter_isSigned {part : Option UInt64} :
    part.filter isSigned = part ↔ ∀ n ∈ part, n.toNat < 0x8000000000000000 := by
  cases part with
  | none => simp
  | some n => simp [Option.filter_some, isSigned]

/-- The members of a page's document. -/
lemma member?_toJson (page : Page) : ∃ members, page.toJson = .object members ∧
    Json.member? "limit" members = page.limit.map Json.ofUnsigned ∧
    Json.member? "skip" members = page.offset.map Json.ofUnsigned ∧
    Json.member? "offset" members = none := by
  obtain ⟨limit, offset⟩ := page
  refine ⟨_, rfl, ?_⟩
  cases limit <;> cases offset <;> exact ⟨rfl, rfl, rfl⟩

/-- **A page comes back from the wire without the parts that have no place among the signed
numbers.**  It comes back as it was, and so with the same window and the same clause, exactly if all
its parts have. -/
theorem pageOf_toJson (page : Page) :
    pageOf page.toJson = .ok ⟨page.limit.filter isSigned, page.offset.filter isSigned⟩ ∧
      (pageOf page.toJson = .ok page ↔
        (∀ n ∈ page.limit, n.toNat < 0x8000000000000000) ∧
          ∀ n ∈ page.offset, n.toNat < 0x8000000000000000) := by
  have hread : pageOf page.toJson =
      .ok ⟨page.limit.filter isSigned, page.offset.filter isSigned⟩ := by
    obtain ⟨members, hmembers, hlimit, hskip, hoffset⟩ := member?_toJson page
    rw [hmembers, pageOf, hlimit, hskip, hoffset, Option.orElse_eq_or, Option.or_none,
      Page.ofSigned, unsigned?_part, unsigned?_part]
  refine ⟨hread, ?_⟩
  obtain ⟨limit, offset⟩ := page
  rw [hread, Except.ok.injEq, Page.mk.injEq, filter_isSigned, filter_isSigned]

/-- The greatest limit, which stands for all rows after an offset, is lost: the page that is read
has the limit of an offset without one. -/
theorem pageOf_toJson_greatest :
    pageOf (Page.toJson ⟨some 18446744073709551615, some 5⟩) = .ok ⟨none, some 5⟩ ∧
      Page.window ⟨some 18446744073709551615, some 5⟩ = some (18446744073709551615, some 5) ∧
      Page.window ⟨none, some 5⟩ = some (1000, some 5) :=
  ⟨rfl, by decide, by decide⟩

end Wire

end TableGateway
