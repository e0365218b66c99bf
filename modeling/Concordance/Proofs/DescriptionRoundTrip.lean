import Concordance.Domain.Description
import Concordance.Proofs.Sampleable
import Concordance.Proofs.SourceData

/-!
# Descriptions Read Back

A domain that passes the check is what its own description says.

A description is written as a tree and the tree as a text. The text is the business of
the format: that it reads back to the tree it was written from is taken for granted, and
only of a tree that a format can be expected to carry, without infinities and with
integers of sixty-four bits. What is proved is the rest. The tree of a checked domain is
of this sort, and whatever source has this tree for its data is read as that domain.

A kind is held among the entries of its parameter, its own name first, so the entries
are split twice: the parameter's name from the others, and the kind's name from its
bounds. Between the two the entries are plain data, so the kinds are read from plain data
in both formats.

## Main definitions

* `Datum.IsPortable`: A tree that a format can carry.
* `DocumentFormat.Carries`: The text of a tree has this tree for its data.

## Theorems

* `Domain.isPortable_toDatum`: The description of a checked domain can be carried.
* `Parameter.Kind.ofSource?_fields`: The kind that some entries say.
* `Domain.ofSource?_of_datum?`: A source with the data of a domain is read as the domain.
* `Domain.parse_write`: A checked domain reads back from its description.
-/

namespace Concordance

/-- A tree that a format can carry: texts, integers of sixty-four bits, finite doubles, and
    lists and maps of such trees. -/
inductive Datum.IsPortable : Datum → Prop where
  | int {n : Int} (hlo : -2 ^ 63 ≤ n) (hhi : n < 2 ^ 64) : IsPortable (.int n)
  | float {x : Float} (h : x.isFinite = true) : IsPortable (.float x)
  | text (s : String) : IsPortable (.text s)
  | list {items : List Datum} (h : ∀ d ∈ items, IsPortable d) : IsPortable (.list items)
  | object {fields : List (String × Datum)} (h : ∀ f ∈ fields, IsPortable f.2) :
    IsPortable (.object fields)

/-- The text of a tree has this tree for its data. -/
def DocumentFormat.Carries (format : DocumentFormat) (d : Datum) : Prop :=
  (format.source? (format.write d)).bind Source.datum? = some d

instance (format : DocumentFormat) (d : Datum) : Decidable (format.Carries d) :=
  inferInstanceAs (Decidable (_ = _))

namespace Source

theorem int?_plain {lo hi n : Int} (hlo : lo ≤ n) (hhi : n ≤ hi) :
    (plain (.int n)).int? lo hi = some n :=
  if_pos (Bool.and_eq_true_iff.mpr ⟨decide_eq_true hlo, decide_eq_true hhi⟩)

theorem int64?_plain (n : Int64) : (plain (.int n.toInt)).int64? = some n := by
  unfold int64?
  rw [int?_plain n.le_toInt (Int.le_sub_one_of_lt n.toInt_lt), Option.map_some, Int64.ofInt_toInt]

theorem nat?_plain {n : Nat} (h : n ≤ maxCollectionLength) :
    (plain (.nat n)).nat? = some n := by
  have hword : (n : Int) ≤ 2 ^ 64 - 1 := by
    unfold maxCollectionLength at h
    omega
  unfold nat? Datum.nat
  rw [int?_plain (Int.natCast_nonneg n) hword, Option.map_some, Int.toNat_natCast]

/-- A list is read from the data of its elements if each element is read from its own. -/
theorem mapM_plain {α : Type} {write : α → Datum} {read : Source → Option α}
    (h : ∀ x, read (plain (write x)) = some x) (xs : List α) :
    ((xs.map write).map plain).mapM read = some xs := by
  refine mapM_eq_some ?_
  rw [List.map_map, List.forall₂_map_left_iff, List.forall₂_same]
  exact fun x _ => h x

end Source

theorem isPortable_int64 (n : Int64) : (Datum.int n.toInt).IsPortable := by
  have := n.toInt_lt
  exact .int n.le_toInt (by omega)

theorem isPortable_length {n : Nat} (h : n ≤ maxCollectionLength) : (Datum.nat n).IsPortable := by
  unfold maxCollectionLength at h
  exact .int (by omega) (by omega)

namespace Parameter

namespace Kind

variable {kind : Kind}

theorem isPortable_fields (h : kind.IsSampleable) : ∀ f ∈ kind.fields, f.2.IsPortable := by
  obtain ⟨hlengths, hrange⟩ := h
  unfold fields
  rw [List.forall_mem_cons]
  refine ⟨.text kind.name, ?_⟩
  cases kind with
  | int min max =>
    dsimp only
    rw [List.forall_mem_cons, List.forall_mem_singleton]
    exact ⟨isPortable_int64 min, isPortable_int64 max⟩
  | float min max =>
    dsimp only
    rw [List.forall_mem_cons, List.forall_mem_singleton]
    exact ⟨.float hrange.1, .float hrange.2.1⟩
  | bool => exact nofun
  | text minLength maxLength =>
    have hmax := hlengths maxLength rfl
    have hmin : minLength ≤ maxLength := hrange
    dsimp only
    rw [List.forall_mem_cons, List.forall_mem_singleton]
    exact ⟨isPortable_length (hmin.trans hmax), isPortable_length hmax⟩
  | choice options =>
    refine List.forall_mem_singleton.mpr (.list ?_)
    rw [List.forall_mem_map]
    exact fun o _ => .text o
  | ints min max maxLength =>
    dsimp only
    rw [List.forall_mem_cons, List.forall_mem_cons, List.forall_mem_singleton]
    exact ⟨isPortable_int64 min, isPortable_int64 max,
      isPortable_length (hlengths maxLength rfl)⟩
  | floats min max maxLength =>
    dsimp only
    rw [List.forall_mem_cons, List.forall_mem_cons, List.forall_mem_singleton]
    exact ⟨.float hrange.1, .float hrange.2.1, isPortable_length (hlengths maxLength rfl)⟩

/-- The entries of a kind say which kind it is. -/
theorem ofSource?_fields (h : kind.IsSampleable) :
    ofSource? (.plain (.object kind.fields)) = some kind := by
  obtain ⟨hlengths, hrange⟩ := h
  -- In plain data the fields are found by computation. What remains is to read the bounds.
  cases kind with
  | int min max =>
    change (do
      let min ← (Source.plain (.int min.toInt)).int64?
      let max ← (Source.plain (.int max.toInt)).int64?
      return Kind.int min max) = _
    rw [Source.int64?_plain, Source.int64?_plain]
    rfl
  | float min max => rfl
  | bool => rfl
  | text minLength maxLength =>
    have hmax := hlengths maxLength rfl
    have hmin : minLength ≤ maxLength := hrange
    change (do
      let minLength ← (Source.plain (.nat minLength)).nat?
      let maxLength ← (Source.plain (.nat maxLength)).nat?
      return Kind.text minLength maxLength) = _
    rw [Source.nat?_plain (hmin.trans hmax), Source.nat?_plain hmax]
    rfl
  | choice options =>
    change (do
      let options ← ((options.map Datum.text).map Source.plain).mapM Source.text?
      return Kind.choice options) = _
    rw [Source.mapM_plain fun _ => rfl]
    rfl
  | ints min max maxLength =>
    change (do
      let min ← (Source.plain (.int min.toInt)).int64?
      let max ← (Source.plain (.int max.toInt)).int64?
      let maxLength ← (Source.plain (.nat maxLength)).nat?
      return Kind.ints min max maxLength) = _
    rw [Source.int64?_plain, Source.int64?_plain, Source.nat?_plain (hlengths maxLength rfl)]
    rfl
  | floats min max maxLength =>
    change (do
      let maxLength ← (Source.plain (.nat maxLength)).nat?
      return Kind.floats min max maxLength) = _
    rw [Source.nat?_plain (hlengths maxLength rfl)]
    rfl

end Kind

variable {p : Parameter} {s : Source}

theorem name_notMem_fields (kind : Kind) : "name" ∉ kind.fields.map Prod.fst := by
  cases kind <;> simp [Kind.fields]

/-- A source with the data of a parameter is read as the parameter. -/
theorem ofSource?_of_datum? (h : p.kind.IsSampleable) (hs : s.datum? = some p.toDatum) :
    ofSource? s = some p := by
  obtain ⟨name, hname, hflattened⟩ := Source.flattened?_of_datum? hs (name_notMem_fields p.kind)
  unfold ofSource?
  rw [hflattened]
  change (do
    let name ← name.text?
    let kind ← Kind.ofSource? (.plain (.object p.kind.fields))
    return (⟨name, kind⟩ : Parameter)) = _
  rw [Source.text?_of_datum? hname, Kind.ofSource?_fields h]
  rfl

end Parameter

namespace Domain

variable {domain : Domain} {s : Source}

/-- The description of a domain that passes the check can be carried by a format. -/
theorem isPortable_toDatum (h : domain.IsSampleable) : domain.toDatum.IsPortable := by
  refine .object ?_
  rw [List.forall_mem_singleton]
  refine .list ?_
  rw [List.forall_mem_map]
  intro p hp
  refine .object ?_
  rw [List.forall_mem_cons]
  exact ⟨.text p.name, Parameter.Kind.isPortable_fields (h.kinds p hp)⟩

/-- A source with the data of a domain is read as the domain. -/
theorem ofSource?_of_datum? (h : ∀ p ∈ domain.parameters, p.kind.IsSampleable)
    (hs : s.datum? = some domain.toDatum) : ofSource? s = some domain := by
  obtain ⟨v, hv, hrecord⟩ := Source.record?_of_datum? hs
  obtain ⟨items, hitems, hdata⟩ := Source.list?_of_datum? hv
  rw [List.forall₂_map_right_iff] at hdata
  have hread : (v.list? >>= List.mapM Parameter.ofSource?) = some domain.parameters := by
    rw [hitems]
    refine mapM_eq_some ((forall₂_and_of_mem hdata h).imp ?_)
    exact fun item p hp => Parameter.ofSource?_of_datum? hp.2 hp.1
  unfold ofSource?
  rw [hrecord]
  change (do
    let parameters ← v.list? >>= List.mapM Parameter.ofSource?
    return (⟨parameters⟩ : Domain)) = _
  rw [hread]
  rfl

/-- A domain that passes the check reads back from its description, if the text of the
    description reads back as the tree. -/
theorem parse_write (format : DocumentFormat) (hcheck : domain.check = .ok ())
    (hcarries : domain.toDatum.IsPortable → format.Carries domain.toDatum) :
    parse format (format.write domain.toDatum) = .ok domain := by
  have hsampleable := check_eq_ok_iff.mp hcheck
  obtain ⟨s, hs, hdata⟩ := Option.bind_eq_some_iff.mp (hcarries (isPortable_toDatum hsampleable))
  unfold parse
  rw [hs, Option.bind_eq_bind, Option.bind_some, ofSource?_of_datum? hsampleable.kinds hdata]
  dsimp only
  unfold checked
  rw [hcheck]

/-- Names that are also keys of a description, and options that a plain scalar would not
    hold. -/
private def awkward : Domain :=
  ⟨[⟨"type", .float (-0.5) 1e3⟩, ⟨"null", .choice ["1e5", "", "é: \n"]⟩, ⟨"n", .ints (-5) 5 8⟩]⟩

theorem parse_write_awkward :
    awkward.check = .ok () ∧ ∀ format : DocumentFormat, format.Carries awkward.toDatum ∧
      parse format (format.write awkward.toDatum) = .ok awkward := by
  have hcheck : awkward.check = .ok () := rfl
  have hcarries : ∀ format : DocumentFormat, format.Carries awkward.toDatum := by
    rintro (_ | _) <;> decide +kernel
  exact ⟨hcheck, fun format =>
    ⟨hcarries format, parse_write format hcheck fun _ => hcarries format⟩⟩

end Domain

end Concordance
