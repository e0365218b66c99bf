import Concordance.Report.Format

/-!
# Dividing Characters

What is put into a certificate without dividing it.

A certificate is divided into lines and its tables into cells. A line ends at a line feed or
a carriage return, and a cell at a bar, unless a backslash takes that from it. Numbers, names
and reasons have none of these characters, so whatever is made of them keeps its place. Only
outputs can have them.

## Main definitions

* `Text.Avoids`: A text has none of some characters.
* `Text.lineEnds`, `Text.dividers`: The characters that end a line, and all that divide.

## Theorems

* `Decimal.Layout.avoids_write`, `Decimal.avoids_fixed`: Doubles.
* `Discrepancy.avoids_text`: Reasons.
* `avoids_testFigures`: The figures of the distribution test.
-/

namespace Concordance

namespace Text

/-- Whether a text has none of some characters. -/
def Avoids (bad : List Char) (s : String) : Prop :=
  ∀ c ∈ s.toList, c ∉ bad

-- Going through the characters of the text, and not through all characters that there are.
instance (bad : List Char) (s : String) : Decidable (Avoids bad s) :=
  List.decidableBAll (· ∉ bad) s.toList

/-- The characters that end a line. -/
def lineEnds : List Char :=
  ['\n', '\r']

/-- The characters that end a line or a cell, or keep a cell from its end. -/
def dividers : List Char :=
  ['\n', '\r', '|', '\\']

theorem lineEnds_subset_dividers : lineEnds ⊆ dividers := by
  decide

section

variable {bad : List Char} {s t : String}

theorem Avoids.mono {worse : List Char} (h : Avoids worse s) (hbad : bad ⊆ worse) :
    Avoids bad s :=
  fun c hc hmem => h c hc (hbad hmem)

@[simp]
theorem avoids_append : Avoids bad (s ++ t) ↔ Avoids bad s ∧ Avoids bad t := by
  unfold Avoids
  rw [String.toList_append, List.forall_mem_append]

@[simp]
theorem avoids_ofList {cs : List Char} : Avoids bad (String.ofList cs) ↔ ∀ c ∈ cs, c ∉ bad := by
  unfold Avoids
  rw [String.toList_ofList]

end

theorem notMem_dividers_of_isDigit {c : Char} (h : c.isDigit = true) : c ∉ dividers := by
  intro hmem
  have hnone : (dividers.all fun d => !d.isDigit) = true := by decide
  have hother := List.all_eq_true.mp hnone c hmem
  rw [h] at hother
  exact Bool.false_ne_true hother

theorem notMem_dividers_of_mem_toDigits (n : Nat) : ∀ c ∈ Nat.toDigits 10 n, c ∉ dividers :=
  fun _ hc => notMem_dividers_of_isDigit (Nat.isDigit_of_mem_toDigits (by decide) (by decide) hc)

@[simp]
theorem avoids_nat (n : Nat) : Avoids dividers n.repr := by
  unfold Avoids
  rw [Nat.toList_repr]
  exact notMem_dividers_of_mem_toDigits n

@[simp]
theorem avoids_int (n : Int) : Avoids dividers n.repr := by
  cases n with
  | ofNat n => exact avoids_nat n
  | negSucc n => exact avoids_append.mpr ⟨by decide, avoids_nat (n + 1)⟩

end Text

open Text

namespace Decimal

theorem avoids_sign (x : Float) : Avoids dividers (if Binary64.isNegative x then "-" else "") := by
  split <;> decide

theorem avoids_zeros (n : Nat) : Avoids dividers (zeros n) := by
  rw [zeros, avoids_ofList]
  intro c hc
  rw [List.eq_of_mem_replicate hc]
  decide

namespace Layout

variable {style : Layout}

theorem avoids_spell (hmark : Avoids dividers style.wholeMark) (hplus : Avoids dividers style.plus)
    (coefficient : Nat) (exponent : Int) :
    Avoids dividers (style.spell coefficient exponent) := by
  have hdigits := notMem_dividers_of_mem_toDigits coefficient
  unfold spell
  dsimp only
  generalize Nat.toDigits 10 coefficient = digits at hdigits ⊢
  have htake (k : Nat) : ∀ c ∈ digits.take k, c ∉ dividers :=
    fun c hc => hdigits c (List.mem_of_mem_take hc)
  have hdrop (k : Nat) : ∀ c ∈ digits.drop k, c ∉ dividers :=
    fun c hc => hdigits c (List.mem_of_mem_drop hc)
  split
  · split
    · simp only [avoids_append, avoids_ofList]
      exact ⟨⟨hdigits, avoids_zeros _⟩, hmark⟩
    · split <;> simp only [avoids_append, avoids_ofList]
      · exact ⟨⟨htake _, by decide⟩, hdrop _⟩
      · exact ⟨⟨by decide, avoids_zeros _⟩, hdigits⟩
  · have hpoint : Avoids dividers (if (digits.drop 1).isEmpty then "" else ".") := by
      split <;> decide
    have hsign (leading : Int) : Avoids dividers (if 0 < leading then style.plus else "") := by
      split
      · exact hplus
      · decide
    simp only [avoids_append, avoids_ofList]
    exact ⟨⟨⟨⟨⟨htake 1, hpoint⟩, hdrop 1⟩, by decide⟩, hsign _⟩, avoids_int _⟩

/-- A double is written without dividing characters, if nothing that a layout adds has one. -/
theorem avoids_write (hmark : Avoids dividers style.wholeMark) (hplus : Avoids dividers style.plus)
    (hnan : Avoids dividers style.nan) (hinfinity : Avoids dividers style.infinity) (x : Float) :
    Avoids dividers (style.write x) := by
  have hsign := avoids_sign x
  have hspell := avoids_spell hmark hplus
  unfold write
  dsimp only
  split
  · split
    · exact hnan
    · split
      · exact avoids_append.mpr ⟨hsign, hinfinity⟩
      · exact hinfinity
  · exact avoids_append.mpr ⟨hsign, hspell 0 0⟩
  · exact avoids_append.mpr ⟨hsign, hspell _ _⟩

end Layout

theorem avoids_scientifically (x : Float) : Avoids dividers (scientifically.write x) :=
  Layout.avoids_write (by decide) (by decide) (by decide) (by decide) x

theorem avoids_fixed (places : Nat) (x : Float) : Avoids dividers (fixed places x) := by
  have hsign := avoids_sign x
  have hdigits (width n : Nat) : ∀ c ∈ paddedDigits width n, c ∉ dividers := by
    unfold paddedDigits
    dsimp only
    rw [List.forall_mem_append]
    refine ⟨fun c hc => ?_, notMem_dividers_of_mem_toDigits n⟩
    rw [List.eq_of_mem_replicate hc]
    decide
  unfold fixed
  dsimp only
  split
  · split
    · decide
    · exact avoids_append.mpr ⟨hsign, by decide⟩
  · simp only [avoids_append, avoids_ofList]
    exact ⟨⟨⟨hsign, fun c hc => hdigits _ _ c (List.mem_of_mem_take hc)⟩, by decide⟩,
      fun c hc => hdigits _ _ c (List.mem_of_mem_drop hc)⟩

end Decimal

/-! ### Names and reasons -/

theorem Verdict.avoids_name (v : Verdict) : Avoids dividers v.name := by
  cases v <;> decide

theorem OutputKind.avoids_tag (kind : OutputKind) : Avoids dividers kind.tag := by
  cases kind <;> decide

theorem Similarity.avoids_name (s : Similarity) : Avoids dividers s.name := by
  cases s <;> decide

theorem Status.avoids_text (s : Status) : Avoids dividers s.text := by
  cases s with
  | exited code =>
      change Avoids dividers ("non-zero-exit(" ++ code.toInt.repr ++ ")")
      rw [avoids_append, avoids_append]
      exact ⟨⟨by decide, avoids_int _⟩, by decide⟩
  | ok | timeout | crashed | cancelled => decide

theorem Discrepancy.avoids_text (d : Discrepancy) : Avoids dividers d.text := by
  cases d with
  | candidateExited code =>
      change Avoids dividers ("candidate exited with " ++ code.toInt.repr)
      exact avoids_append.mpr ⟨by decide, avoids_int _⟩
  | referenceFailed status =>
      exact avoids_append.mpr ⟨by decide, status.avoids_text⟩
  | lengths reference candidate =>
      change Avoids dividers ("shape mismatch: reference " ++ reference.repr
        ++ " values, candidate " ++ candidate.repr)
      simp only [avoids_append]
      exact ⟨⟨⟨by decide, avoids_nat _⟩, by decide⟩, avoids_nat _⟩
  | _ => decide

theorem avoids_testFigures (r : Report) : Avoids dividers (testFigures r) := by
  unfold testFigures
  split
  · simp only [avoids_append]
    exact ⟨⟨⟨by decide, Decimal.avoids_fixed _ _⟩, by decide⟩, Decimal.avoids_fixed _ _⟩
  · decide

end Concordance
