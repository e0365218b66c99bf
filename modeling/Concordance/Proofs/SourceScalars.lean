import Concordance.Proofs.SourceData

/-!
# Reading Values as They Are Written

What a source answers when it is asked for a value of a type.

To know the data of a source is not enough here. In YAML a quoted text with the tag of
integers has an integer for its data, but whoever asks for an integer looks for a plain
scalar; and `-0` is the integer zero, but not for those who ask for one without a sign.
Neither is ever written: a writer has no use for the tags of plain data, and an integer
gets its sign from its value. `Source.Says` adds to the data that the source is free of
both, and then every question about a scalar has the answer that the data suggests.

## Main definitions

* `Yaml.Scalar.isUnmarked`, `Node.isUnmarked`: Nothing is said beyond the text of a scalar.
* `Source.Says`: A source has some data and is unmarked.

## Theorems

* `Yaml.eq_of_resolve_eq_int`, `eq_of_resolve_eq_float`: What a plain scalar spells.
* `Source.Says.int?`, `Says.nat?`, `Says.word?`, `Says.float?`: Numbers.
* `Source.Says.nullable?`: Values that may be absent.
* `Source.variant?_of_datum?`: Variants without payload.
* `Source.Says.entries?`, `Says.record?`: The entries of a map, and the fields of a
  structure.
-/

namespace Concordance

namespace Yaml

/-- Whether nothing is said beyond the text of a scalar: it has no tag, and if it is plain, no
    sign in front of an integer zero. -/
def Scalar.isUnmarked (s : Scalar) : Bool :=
  s.tag.isNone && (s.style ≠ .plain || negated? s.text.toList ≠ some 0)

namespace Node

mutual

/-- Whether a node has no tags and its scalars are unmarked. -/
def isUnmarked : Node → Bool
  | .missing => true
  | .scalar s => s.isUnmarked
  | .sequence tag items => tag.isNone && areUnmarked items
  | .mapping tag entries => tag.isNone && entriesUnmarked entries

/-- Whether all nodes of a list are unmarked. -/
def areUnmarked : List Node → Bool
  | [] => true
  | n :: rest => n.isUnmarked && areUnmarked rest

/-- Whether all keys and values of some entries are unmarked. -/
def entriesUnmarked : List (Node × Node) → Bool
  | [] => true
  | (k, v) :: rest => k.isUnmarked && v.isUnmarked && entriesUnmarked rest

end

theorem isUnmarked_of_mem_entries {es : List (Node × Node)} (h : entriesUnmarked es = true) :
    ∀ e ∈ es, e.1.isUnmarked = true ∧ e.2.isUnmarked = true := by
  induction es with
  | nil => exact nofun
  | cons e es ih =>
      rw [entriesUnmarked, Bool.and_eq_true, Bool.and_eq_true] at h
      exact List.forall_mem_cons.mpr ⟨h.1, ih h.2⟩

end Node

/-! ### What a plain scalar spells -/

theorem eq_of_resolveInt {n m : Int} (h : resolveInt n = .int m) : n = m := by
  unfold resolveInt at h
  split at h
  · exact Datum.int.inj h
  · exact nomatch h

theorem eq_of_resolve_eq_int {text : String} {n : Int} (h : resolve text = .int n) :
    signed? text.toList = some n := by
  unfold resolve at h
  dsimp only at h
  split at h
  · exact nomatch h
  · split at h
    · exact nomatch h
    · split at h
      · rename_i m hm
        rw [(Option.filter_eq_some_iff.mp hm).1, eq_of_resolveInt h]
      · split at h <;> exact nomatch h

theorem eq_of_resolve_eq_float {text : String} {x : Float} (h : resolve text = .float x) :
    float? text.toList = some x := by
  unfold resolve at h
  dsimp only at h
  split at h
  · exact nomatch h
  · split at h
    · exact nomatch h
    · split at h
      · unfold resolveInt at h
        split at h <;> exact nomatch h
      · split at h
        · rename_i hx
          cases h
          exact (Option.ite_none_left_eq_some.mp hx).2
        · exact nomatch h

theorem resolve_eq_null_iff {text : String} :
    resolve text = .null ↔ (text.isEmpty || isNull text) = true := by
  unfold resolve
  dsimp only
  split
  · rename_i h
    exact iff_of_true rfl h
  · rename_i h
    refine iff_of_false ?_ h
    split
    · exact nofun
    · split
      · unfold resolveInt
        split <;> exact nofun
      · split <;> exact nofun

/-- What is spelled with a minus sign is not positive. -/
theorem nonpos_of_negated? {cs : List Char} {n : Int} (h : negated? cs = some n) : n ≤ 0 := by
  unfold negated? at h
  split at h
  · obtain ⟨m, hm, rfl⟩ := Option.map_eq_some_iff.mp h
    obtain ⟨k, -, hk⟩ := Option.bind_eq_some_iff.mp hm
    cases hk
    omega
  · exact nomatch h

/-- An integer that is not negative is spelled without a minus sign, unless it is zero. -/
theorem unsigned?_of_signed? {cs : List Char} {n : Int} (h : signed? cs = some n) (hn : 0 ≤ n)
    (hzero : negated? cs ≠ some 0) : (unsigned? cs).map (fun m => (m : Int)) = some n := by
  unfold signed? at h
  cases hunsigned : (unsigned? cs).map fun m => (m : Int) with
  | some m =>
      rw [hunsigned] at h
      exact h
  | none =>
      rw [hunsigned] at h
      have hnegated : negated? cs = some n := h
      have hle := nonpos_of_negated? hnegated
      obtain rfl : n = 0 := by omega
      exact absurd hnegated hzero

namespace Scalar

variable {s : Scalar} {d : Datum}

theorem tag_of_isUnmarked (h : s.isUnmarked = true) : s.tag = none :=
  Option.isNone_iff_eq_none.mp (Bool.and_eq_true_iff.mp h).1

theorem datum?_of_isUnmarked (h : s.isUnmarked = true) :
    s.datum? = some (if s.style = .plain then resolve s.text else .text s.text) := by
  unfold datum?
  rw [tag_of_isUnmarked h]

/-- Data that is not the text of an unmarked scalar is what a plain scalar stands for. -/
theorem plain_of_datum? (h : s.isUnmarked = true) (hd : s.datum? = some d)
    (htext : ∀ t, d ≠ .text t) :
    s.style = .plain ∧ resolve s.text = d ∧ negated? s.text.toList ≠ some 0 := by
  obtain ⟨-, hzero⟩ := Bool.and_eq_true_iff.mp h
  rw [datum?_of_isUnmarked h] at hd
  split at hd
  · rename_i hplain
    rw [hplain] at hzero
    exact ⟨hplain, Option.some.inj hd, by simpa using hzero⟩
  · exact absurd (Option.some.inj hd).symm (htext s.text)

end Scalar

end Yaml

namespace Source

/-- Whether a source is unmarked. There are no marks outside of YAML. -/
def isUnmarked : Source → Bool
  | .yaml n => n.isUnmarked
  | _ => true

/-- Whether a source says a tree: the tree is its data, and it is unmarked. -/
structure Says (s : Source) (d : Datum) : Prop where
  datum? : s.datum? = some d
  isUnmarked : s.isUnmarked = true

variable {s : Source} {d : Datum}

/-- Data that is not a text, a list or a map is said by plain scalars in YAML. -/
theorem Says.cases (h : s.Says d) (htext : ∀ t, d ≠ .text t) (hlist : ∀ ds, d ≠ .list ds)
    (hmap : ∀ es, d ≠ .map es) :
    s = .json d ∨ s = .plain d ∨ (s = .yaml .missing ∧ d = .null) ∨
      ∃ c : Yaml.Scalar, s = .yaml (.scalar c) ∧ c.tag = none ∧ c.style = .plain ∧
        Yaml.resolve c.text = d ∧ Yaml.negated? c.text.toList ≠ some 0 := by
  cases s with
  | json e => exact Or.inl (congrArg json (datum?_json.mp h.datum?).2)
  | plain e => exact Or.inr (Or.inl (congrArg plain (datum?_plain.mp h.datum?)))
  | yaml n =>
      refine Or.inr (Or.inr ?_)
      have hdatum := (datum?_yaml.mp h.datum?).1
      have hunmarked : n.isUnmarked = true := h.isUnmarked
      cases n with
      | missing =>
          simp only [Yaml.Node.datum?, Option.some.injEq] at hdatum
          exact Or.inl ⟨rfl, hdatum.symm⟩
      | scalar c =>
          rw [Yaml.Node.datum?] at hdatum
          rw [Yaml.Node.isUnmarked] at hunmarked
          exact Or.inr ⟨c, rfl, Yaml.Scalar.tag_of_isUnmarked hunmarked,
            Yaml.Scalar.plain_of_datum? hunmarked hdatum htext⟩
      | sequence tag items =>
          obtain ⟨-, ds, -, rfl⟩ := Yaml.Node.datum?_sequence.mp hdatum
          exact absurd rfl (hlist ds)
      | mapping tag entries =>
          obtain ⟨-, es, -, rfl⟩ := Yaml.Node.datum?_mapping.mp hdatum
          exact absurd rfl (hmap es)

theorem isTyped_of_plain {c : Yaml.Scalar} (h : c.style = .plain) (type : String) :
    isTyped c type = true := by
  unfold isTyped
  rw [h]
  rfl

/-! ### Numbers -/

/-- An integer is given to those who ask for one between bounds that it lies in. -/
theorem Says.int? {n lo hi : Int} (h : s.Says (.int n)) (hlo : lo ≤ n) (hhi : n ≤ hi) :
    s.int? lo hi = some n := by
  have hbounds : (decide (lo ≤ n) && decide (n ≤ hi)) = true := by simp [hlo, hhi]
  rcases h.cases nofun nofun nofun with rfl | rfl | ⟨-, ⟨⟩⟩ | ⟨c, rfl, -, hplain, hresolve, hzero⟩
  · exact if_pos hbounds
  · exact if_pos hbounds
  · have hsigned := Yaml.eq_of_resolve_eq_int hresolve
    have hread : (if 0 ≤ lo then (Yaml.unsigned? c.text.toList).map fun m => (m : Int)
        else Yaml.signed? c.text.toList) = some n := by
      split
      · rename_i hpos
        exact Yaml.unsigned?_of_signed? hsigned (Int.le_trans hpos hlo) hzero
      · exact hsigned
    unfold Source.int?
    dsimp only
    rw [if_pos (isTyped_of_plain hplain "int")]
    exact Option.filter_eq_some_iff.mpr ⟨hread, hbounds⟩

theorem Says.nat? {n : Nat} (h : s.Says (.nat n)) (hn : n < 2 ^ 64) : s.nat? = some n := by
  unfold Source.nat?
  rw [h.int? (Int.natCast_nonneg n) (by omega), Option.map_some, Int.toNat_natCast]

theorem Says.word? {w : UInt64} (h : s.Says (.nat w.toNat)) : s.word? = some w := by
  unfold Source.word?
  rw [h.int? (Int.natCast_nonneg _) (by have := w.toNat_lt; omega), Option.map_some,
    Int.toNat_natCast, UInt64.ofNat_toNat]

theorem Says.float? {x : Float} (h : s.Says (.float x)) : s.float? = some x := by
  rcases h.cases nofun nofun nofun with rfl | rfl | ⟨-, ⟨⟩⟩ | ⟨c, rfl, -, hplain, hresolve, -⟩
  · rfl
  · rfl
  · unfold Source.float?
    dsimp only
    rw [if_pos (isTyped_of_plain hplain "float")]
    exact Yaml.eq_of_resolve_eq_float hresolve

/-! ### Values that may be absent -/

theorem Says.option?_null (h : s.Says .null) : s.option? = some none := by
  rcases h.cases nofun nofun nofun with rfl | rfl | ⟨rfl, -⟩ |
    ⟨c, rfl, htag, hplain, hresolve, -⟩
  · rfl
  · rfl
  · rfl
  · unfold Source.option?
    dsimp only
    rw [htag, if_neg (not_not.mpr hplain)]
    dsimp only
    rw [if_pos (Yaml.resolve_eq_null_iff.mp hresolve)]

/-- Whatever is not nothing is present. -/
theorem Says.option? (h : s.Says d) (hnull : d ≠ .null) : s.option? = some (some s) := by
  unfold Source.option?
  split
  · exact absurd (datum?_json.mp h.datum?).2.symm hnull
  · exact absurd (datum?_plain.mp h.datum?).symm hnull
  · have hdatum := (datum?_yaml.mp h.datum?).1
    simp only [Yaml.Node.datum?, Option.some.injEq] at hdatum
    exact absurd hdatum.symm hnull
  · rename_i c
    have hdatum := (datum?_yaml.mp h.datum?).1
    have hunmarked : c.isUnmarked = true := by
      simpa only [Source.isUnmarked, Yaml.Node.isUnmarked] using h.isUnmarked
    rw [Yaml.Node.datum?, Yaml.Scalar.datum?_of_isUnmarked hunmarked] at hdatum
    dsimp only
    rw [Yaml.Scalar.tag_of_isUnmarked hunmarked]
    split
    · rfl
    · rename_i hplain
      rw [if_pos (not_not.mp hplain), Option.some.injEq] at hdatum
      dsimp only
      rw [if_neg fun htext => hnull (hdatum.symm.trans (Yaml.resolve_eq_null_iff.mpr htext))]
  · rfl

/-- A value that may be absent is read as it is. -/
theorem Says.nullable? {α : Type} {write : α → Datum} {read : Source → Option α} {x : Option α}
    (h : s.Says (.option write x)) (hnull : ∀ v, write v ≠ .null)
    (hread : ∀ v, s.Says (write v) → read s = some v) : Fields.nullable? read s = some x := by
  unfold Fields.nullable?
  cases x with
  | none =>
      rw [h.option?_null]
      rfl
  | some v =>
      rw [h.option? (hnull v)]
      change (do return some (← read s)) = _
      rw [hread v h]
      rfl

/-! ### Variants and maps -/

/-- A text is the name of a variant without payload. -/
theorem variant?_of_datum? {t : String} (h : s.datum? = some (.text t)) :
    s.variant? = some (.name t, none) := by
  cases s with
  | json e =>
      obtain ⟨-, rfl⟩ := datum?_json.mp h
      rfl
  | plain e =>
      obtain rfl := datum?_plain.mp h
      rfl
  | yaml n =>
      have hdatum := (datum?_yaml.mp h).1
      obtain ⟨c, rfl, rfl⟩ := Yaml.Node.eq_scalar_of_datum? hdatum
      -- A scalar with a local tag has no data.
      have hlocal : Yaml.localName? c.tag = none := by
        rw [Yaml.Node.datum?, Yaml.Scalar.datum?] at hdatum
        cases htag : c.tag with
        | none => rfl
        | some tag =>
            rw [htag] at hdatum
            dsimp only at hdatum
            exact Option.not_isSome_iff_eq_none.mp (Option.ite_none_left_eq_some.mp hdatum).1
      unfold variant?
      dsimp only
      rw [hlocal]

theorem isUnmarked_of_mem_entries {entries : List (Source × Source)} (h : s.isUnmarked = true)
    (hentries : s.entries? = some entries) :
    ∀ e ∈ entries, e.1.isUnmarked = true ∧ e.2.isUnmarked = true := by
  unfold entries? at hentries
  split at hentries
  · cases hentries
    exact List.forall_mem_map.mpr fun e _ => ⟨rfl, rfl⟩
  · cases hentries
    exact List.forall_mem_map.mpr fun e _ => ⟨rfl, rfl⟩
  · cases hentries
    simp only [isUnmarked, Yaml.Node.isUnmarked, Bool.and_eq_true] at h
    exact List.forall_mem_map.mpr (Yaml.Node.isUnmarked_of_mem_entries h.2)
  · cases (Option.ite_none_right_eq_some.mp hentries).2
    exact nofun
  · exact nomatch hentries

/-- The entries of a map say the keys and the values. -/
theorem Says.entries? {es : List (Datum × Datum)} (h : s.Says (.map es)) :
    ∃ entries, s.entries? = some entries ∧
      List.Forall₂ (fun f e => f.1.Says e.1 ∧ f.2.Says e.2) entries es := by
  obtain ⟨entries, hentries, hdata⟩ := entries?_of_datum? h.datum?
  refine ⟨entries, hentries, ?_⟩
  have hunmarked := isUnmarked_of_mem_entries h.isUnmarked hentries
  refine ((List.forall₂_and_left _ _).mpr ⟨hunmarked, hdata⟩).imp ?_
  exact fun f e ⟨hf, hkey, hvalue⟩ => ⟨⟨hkey, hf.1⟩, ⟨hvalue, hf.2⟩⟩

/-- The fields of a structure are found in their order, and their sources say their values. -/
theorem Says.record? {fields : List (String × Datum)} (h : s.Says (.object fields))
    (hnodup : (fields.map Prod.fst).Nodup) :
    ∃ values, s.record? (fields.map Prod.fst) = some ⟨values.map some, false⟩ ∧
      List.Forall₂ Says values (fields.map Prod.snd) := by
  obtain ⟨entries, hentries, hdata⟩ := h.entries?
  have hfields := List.forall₂_map_right_iff.mp hdata
  refine ⟨entries.map Prod.snd, record?_of_entries? h.datum? hentries ?_ hnodup, ?_⟩
  · exact hfields.imp fun f e he => he.1.datum?
  · exact List.forall₂_map_left_iff.mpr
      (List.forall₂_map_right_iff.mpr (hfields.imp fun f e he => he.2))

end Source

end Concordance
