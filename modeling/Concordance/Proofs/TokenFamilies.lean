import Concordance.Run.Token
import Mathlib.Order.Nat

/-!
# Families of Tokens

Which tokens are cancelled, whatever was done with them.

Who is related to whom is a matter of what was done, not of how tokens are kept. Each token was
made anew or copied from an earlier one, so copies of copies lead back to a token that was made
anew, and there is one such token for each family. The number by which tokens know their family
does not occur in this, and the flags do not either.

That the two agree is what has to be kept by every action. A copy takes over the number of its
source, and a token that is made anew gets a number that no earlier one has. This carries over
to families: tokens have the same number exactly if they go back to the same token. The flag of
a number is up exactly if a token with this number was cancelled, and flags are never taken down.

## Main definitions

* `Tokens.Action`, `Tokens.Step`, `Tokens.After`: What can be done with tokens, and what comes
  of it.
* `Tokens.origins`, `Tokens.Descends`, `Tokens.AreKin`: Families, by what was done.
* `Tokens.IsNumbering`, `Tokens.IsLeftBy`: What every action keeps.
* `Tokens.KeepsToFamily`: What an action changes, and what not.

## Theorems

* `Tokens.IsNumbering.concat`: The number of one more token.
* `Tokens.isLeftBy_of_after`: The numbers of families and the flags, after any actions.
* `Tokens.IsNumbering.areKin_iff`: Tokens are of one family exactly if its number says so.
* `Tokens.after_isCancelled_iff`: A token is cancelled exactly if one of its family was.
-/

namespace Concordance

namespace Tokens

/-- Something that is done with tokens. -/
inductive Action where
  | make
  | copy (token : Nat)
  | cancel (token : Nat)

/-- What comes of an action. Only a token that there is can be copied or cancelled. -/
inductive Step (ts : Tokens) : Action → Tokens → Prop where
  | make : Step ts .make ts.make
  | copy {token : Nat} (h : token < ts.size) : Step ts (.copy token) (ts.copy token)
  | cancel {token : Nat} (h : token < ts.size) : Step ts (.cancel token) (ts.cancel token)

/-- The tokens after some actions, from when there were none. -/
inductive After : List Action → Tokens → Prop where
  | nothing : After [] empty
  | step {actions : List Action} {action : Action} {ts ts' : Tokens} (before : After actions ts)
      (step : Step ts action ts') : After (actions ++ [action]) ts'

/-! ### Families, by what was done -/

/-- What the token of an action is copied from, which is nothing if it is made anew. -/
def Action.origin? : Action → Option (Option Nat)
  | .make => some none
  | .copy token => some (some token)
  | .cancel _ => none

/-- What each token was copied from, in the order in which they were made. -/
def origins (actions : List Action) : List (Option Nat) :=
  actions.filterMap Action.origin?

/-- Whether a token is one that was made anew, or a copy of one that descends from it. -/
inductive Descends (actions : List Action) (first : Nat) : Nat → Prop where
  | made (h : (origins actions)[first]? = some none) : Descends actions first first
  | copied {token source : Nat} (h : (origins actions)[token]? = some (some source))
      (hsource : Descends actions first source) : Descends actions first token

/-- Whether two tokens descend from the same one. -/
def AreKin (actions : List Action) (token other : Nat) : Prop :=
  ∃ first, Descends actions first token ∧ Descends actions first other

theorem Descends.origin_first {actions : List Action} {first token : Nat}
    (h : Descends actions first token) : (origins actions)[first]? = some none := by
  induction h with
  | made h => exact h
  | copied _ _ ih => exact ih

theorem origins_concat (actions : List Action) {action : Action} {origin : Option Nat}
    (h : action.origin? = some origin) :
    origins (actions ++ [action]) = origins actions ++ [origin] := by
  rw [origins, List.filterMap_append, List.filterMap_cons_some h, List.filterMap_nil]
  rfl

theorem origins_concat_of_none (actions : List Action) {action : Action}
    (h : action.origin? = none) : origins (actions ++ [action]) = origins actions := by
  rw [origins, List.filterMap_append, List.filterMap_cons_none h, List.filterMap_nil,
    List.append_nil]
  rfl

/-! ### What every action keeps -/

variable {ts ts' : Tokens} {actions : List Action} {action : Action} {token other family : Nat}

theorem isCancelled_eq_true_iff : ts.isCancelled token = true ↔
    ∃ family, ts.families[token]? = some family ∧ ts.flags[family]? = some true := by
  unfold isCancelled
  cases ts.families[token]? with
  | none => exact iff_of_false Bool.false_ne_true nofun
  | some family =>
      dsimp only
      rw [List.getD_eq_getElem?_getD, Option.getD_eq_iff]
      simp

theorem families_of_lt (h : token < ts.size) : ∃ family, ts.families[token]? = some family :=
  ⟨_, List.getElem?_eq_getElem h⟩

theorem lt_of_families (h : ts.families[token]? = some family) : token < ts.size :=
  (List.getElem?_eq_some_iff.mp h).1

theorem make_eq (ts : Tokens) :
    ts.make = ⟨ts.families ++ [ts.flags.length], ts.flags ++ [false]⟩ :=
  rfl

theorem copy_eq (h : ts.families[token]? = some family) :
    ts.copy token = ⟨ts.families ++ [family], ts.flags⟩ := by
  rw [copy, h]

theorem cancel_eq (h : ts.families[token]? = some family) :
    ts.cancel token = ⟨ts.families, ts.flags.set family true⟩ := by
  rw [cancel, h]

/-- What the last element of a list adds to what is found in it. -/
private theorem getElem?_concat_eq_some_iff {α : Type} {xs : List α} {x y : α} {i : Nat} :
    (xs ++ [x])[i]? = some y ↔ xs[i]? = some y ∨ i = xs.length ∧ x = y := by
  by_cases hlt : i < xs.length
  · rw [List.getElem?_append_left hlt, or_iff_left fun h => hlt.ne h.1]
  · rw [List.getElem?_append_right (Nat.le_of_not_lt hlt), List.getElem?_singleton,
      List.getElem?_eq_none (Nat.le_of_not_lt hlt), or_iff_right nofun]
    by_cases hi : i = xs.length
    · rw [if_pos (Nat.sub_eq_zero_of_le hi.le), Option.some_inj, and_iff_right hi]
    · rw [if_neg (by omega)]
      exact iff_of_false nofun fun h => hi h.1

/-- A flag that is down when it is new makes no difference to those that are up. -/
theorem flags_make {flags : List Bool} {k : Nat} :
    (flags ++ [false])[k]? = some true ↔ flags[k]? = some true := by
  rw [getElem?_concat_eq_some_iff, or_iff_left]
  exact fun hfalse => Bool.false_ne_true hfalse.2

/-- Numbers of families, all below a count, that go by what each token was copied from. -/
structure IsNumbering (families : List Nat) (origins : List (Option Nat)) (count : Nat) :
    Prop where
  length_eq : families.length = origins.length
  lt_count : ∀ {token family : Nat}, families[token]? = some family → family < count
  /-- A token that was made anew is in no family that there was before. -/
  made : ∀ {token : Nat}, origins[token]? = some none →
    ∀ earlier < token, families[earlier]? ≠ families[token]?
  /-- A copy was made later than its source, and is in the same family. -/
  copied : ∀ {token source : Nat}, origins[token]? = some (some source) →
    source < token ∧ families[source]? = families[token]?

/-- One more token may have the number of its source, or one that is new. -/
theorem IsNumbering.concat {families : List Nat} {origins : List (Option Nat)} {count count' : Nat}
    {origin : Option Nat} (h : IsNumbering families origins count)
    (hmade : origin = none → family = count)
    (hcopied : ∀ source, origin = some source → families[source]? = some family)
    (hle : count ≤ count') (hfamily : family < count') :
    IsNumbering (families ++ [family]) (origins ++ [origin]) count' := by
  have hold {token : Nat} (hlt : token < origins.length) :
      (families ++ [family])[token]? = families[token]? :=
    List.getElem?_append_left (h.length_eq ▸ hlt)
  have hnew : (families ++ [family])[origins.length]? = some family := by
    rw [← h.length_eq]
    exact List.getElem?_concat_length
  constructor
  case length_eq =>
    rw [List.length_append, List.length_append, h.length_eq]
    rfl
  case lt_count =>
    intro token k hk
    obtain hk | ⟨-, rfl⟩ := getElem?_concat_eq_some_iff.mp hk
    · exact (h.lt_count hk).trans_le hle
    · exact hfamily
  case made =>
    intro token htoken earlier hlt
    obtain htoken | ⟨rfl, rfl⟩ := getElem?_concat_eq_some_iff.mp htoken
    · have hlength := (List.getElem?_eq_some_iff.mp htoken).1
      rw [hold hlength, hold (hlt.trans hlength)]
      exact h.made htoken earlier hlt
    -- The new number is larger than all the others.
    · rw [hold hlt, hnew, hmade rfl]
      exact fun heq => Nat.lt_irrefl _ (h.lt_count heq)
  case copied =>
    intro token source htoken
    obtain htoken | ⟨rfl, rfl⟩ := getElem?_concat_eq_some_iff.mp htoken
    · obtain ⟨hlt, heq⟩ := h.copied htoken
      have hlength := (List.getElem?_eq_some_iff.mp htoken).1
      exact ⟨hlt, by rw [hold hlength, hold (hlt.trans hlength), heq]⟩
    · have hsource := hcopied _ rfl
      have hlt := h.length_eq ▸ (List.getElem?_eq_some_iff.mp hsource).1
      exact ⟨hlt, by rw [hold hlt, hnew, hsource]⟩

/-- What actions have made of tokens: the numbers of families go by what was copied from what,
    and the flags by what was cancelled. -/
structure IsLeftBy (ts : Tokens) (actions : List Action) : Prop where
  numbering : IsNumbering ts.families (origins actions) ts.flags.length
  lt_of_cancel : ∀ {token}, Action.cancel token ∈ actions → token < ts.size
  flag_iff : ∀ {family : Nat}, ts.flags[family]? = some true ↔
    ∃ token, Action.cancel token ∈ actions ∧ ts.families[token]? = some family

namespace IsLeftBy

/-- One more token keeps what the flags say if none of them goes up or down. -/
theorem concat (h : ts.IsLeftBy actions) {origin : Option Nat} {flags : List Bool}
    (horigin : action.origin? = some origin)
    (hnumbering : IsNumbering (ts.families ++ [family]) (origins actions ++ [origin]) flags.length)
    (hflags : ∀ {family : Nat}, flags[family]? = some true ↔ ts.flags[family]? = some true) :
    IsLeftBy ⟨ts.families ++ [family], flags⟩ (actions ++ [action]) := by
  -- The action makes a token, so it is none that cancels one.
  have hcancel {token : Nat} :
      Action.cancel token ∈ actions ++ [action] ↔ Action.cancel token ∈ actions := by
    rw [List.mem_append, List.mem_singleton, or_iff_left]
    rintro rfl
    exact nomatch horigin
  constructor
  case numbering =>
    rw [origins_concat actions horigin]
    exact hnumbering
  case lt_of_cancel =>
    intro token hmem
    have hlt := h.lt_of_cancel (hcancel.mp hmem)
    unfold size at hlt ⊢
    rw [List.length_append]
    omega
  case flag_iff =>
    intro k
    rw [hflags, h.flag_iff]
    refine exists_congr fun token => ?_
    rw [hcancel]
    -- The new token was not cancelled, as there was none of its number.
    refine and_congr_right fun hmem => ?_
    rw [List.getElem?_append_left (h.lt_of_cancel hmem)]

theorem make (h : ts.IsLeftBy actions) : ts.make.IsLeftBy (actions ++ [.make]) := by
  rw [make_eq]
  refine h.concat rfl ?_ flags_make
  rw [List.length_append]
  exact h.numbering.concat (fun _ => rfl) nofun (Nat.le_succ _) (Nat.lt_succ_self _)

theorem copy (h : ts.IsLeftBy actions) (htoken : token < ts.size) :
    (ts.copy token).IsLeftBy (actions ++ [.copy token]) := by
  obtain ⟨family, hfamily⟩ := families_of_lt htoken
  rw [copy_eq hfamily]
  refine h.concat rfl ?_ Iff.rfl
  refine h.numbering.concat nofun ?_ (Nat.le_refl _) (h.numbering.lt_count hfamily)
  rintro source hsource
  rwa [← Option.some.inj hsource]

theorem flags_cancel (h : ts.IsLeftBy actions) (hfamily : ts.families[token]? = some family)
    {k : Nat} :
    (ts.flags.set family true)[k]? = some true ↔ ts.flags[k]? = some true ∨ family = k := by
  rw [List.getElem?_set, if_pos (h.numbering.lt_count hfamily)]
  by_cases hk : family = k
  · rw [if_pos hk]
    exact iff_of_true rfl (.inr hk)
  · rw [if_neg hk, or_iff_left hk]

theorem cancel (h : ts.IsLeftBy actions) (htoken : token < ts.size) :
    (ts.cancel token).IsLeftBy (actions ++ [.cancel token]) := by
  obtain ⟨family, hfamily⟩ := families_of_lt htoken
  have hcancel {other : Nat} : Action.cancel other ∈ actions ++ [.cancel token] ↔
      Action.cancel other ∈ actions ∨ other = token := by
    rw [List.mem_append, List.mem_singleton, Action.cancel.injEq]
  rw [cancel_eq hfamily]
  constructor
  case numbering =>
    rw [origins_concat_of_none actions rfl, List.length_set]
    exact h.numbering
  case lt_of_cancel =>
    intro other hmem
    obtain hmem | rfl := hcancel.mp hmem
    · exact h.lt_of_cancel hmem
    · exact htoken
  case flag_iff =>
    intro k
    rw [h.flags_cancel hfamily, h.flag_iff]
    constructor
    · rintro (⟨other, hmem, hother⟩ | rfl)
      · exact ⟨other, hcancel.mpr (.inl hmem), hother⟩
      · exact ⟨token, hcancel.mpr (.inr rfl), hfamily⟩
    · rintro ⟨other, hmem, hother⟩
      obtain hmem | rfl := hcancel.mp hmem
      · exact .inl ⟨other, hmem, hother⟩
      · exact .inr (Option.some.inj (hfamily.symm.trans hother))

theorem step (h : ts.IsLeftBy actions) (hstep : Step ts action ts') :
    ts'.IsLeftBy (actions ++ [action]) := by
  cases hstep with
  | make => exact h.make
  | copy htoken => exact h.copy htoken
  | cancel htoken => exact h.cancel htoken

end IsLeftBy

/-- The numbers of families and the flags, after any actions: each action keeps what they say. -/
theorem isLeftBy_of_after (h : After actions ts) : ts.IsLeftBy actions := by
  induction h with
  | nothing => exact ⟨⟨rfl, nofun, nofun, nofun⟩, nofun, iff_of_false nofun nofun⟩
  | step _ hstep ih => exact ih.step hstep

/-! ### Families and their numbers -/

namespace IsNumbering

variable {families : List Nat} {count : Nat} (h : IsNumbering families (origins actions) count)

include h

theorem families_of_descends {first : Nat} (hdescends : Descends actions first token) :
    families[first]? = families[token]? := by
  induction hdescends with
  | made _ => rfl
  | copied horigin _ ih => exact ih.trans (h.copied horigin).2

/-- Every token descends from one that was made anew: its source was there before it. -/
theorem exists_descends (htoken : token < families.length) :
    ∃ first, Descends actions first token := by
  induction token using Nat.strongRecOn with
  | ind token ih =>
      obtain ⟨origin, horigin⟩ : ∃ origin, (origins actions)[token]? = some origin :=
        ⟨_, List.getElem?_eq_getElem (h.length_eq ▸ htoken)⟩
      cases origin with
      | none => exact ⟨token, .made horigin⟩
      | some source =>
          have hsource := (h.copied horigin).1
          obtain ⟨first, hfirst⟩ := ih source hsource (hsource.trans htoken)
          exact ⟨first, .copied horigin hfirst⟩

/-- Tokens that were made anew are told apart by the numbers of their families. -/
theorem eq_of_made (htoken : (origins actions)[token]? = some none)
    (hother : (origins actions)[other]? = some none)
    (heq : families[token]? = families[other]?) : token = other := by
  obtain hlt | hsame | hgt := Nat.lt_trichotomy token other
  · exact absurd heq (h.made hother token hlt)
  · exact hsame
  · exact absurd heq.symm (h.made htoken other hgt)

/-- Tokens are of one family exactly if they have the same number. -/
theorem areKin_iff : AreKin actions token other ↔
    ∃ family, families[token]? = some family ∧ families[other]? = some family := by
  constructor
  · rintro ⟨first, htoken, hother⟩
    have hlength := h.length_eq ▸ (List.getElem?_eq_some_iff.mp htoken.origin_first).1
    have hfirst := List.getElem?_eq_getElem hlength
    exact ⟨_, h.families_of_descends htoken ▸ hfirst, h.families_of_descends hother ▸ hfirst⟩
  · rintro ⟨family, htoken, hother⟩
    obtain ⟨first, hfirst⟩ := h.exists_descends (List.getElem?_eq_some_iff.mp htoken).1
    obtain ⟨first', hfirst'⟩ := h.exists_descends (List.getElem?_eq_some_iff.mp hother).1
    have hsame : first = first' := by
      refine h.eq_of_made hfirst.origin_first hfirst'.origin_first ?_
      rw [h.families_of_descends hfirst, h.families_of_descends hfirst', htoken, hother]
    exact ⟨first, hfirst, hsame ▸ hfirst'⟩

end IsNumbering

/-! ### What an action changes -/

/-- What an action changes, and what not. -/
structure KeepsToFamily (actions : List Action) (ts : Tokens) (action : Action)
    (ts' : Tokens) : Prop where
  /-- What is cancelled stays so. -/
  stays : ∀ token, ts.isCancelled token = true → ts'.isCancelled token = true
  /-- Other families are left alone, and so are all by an action that does not cancel. -/
  alone : ∀ token < ts.size, (∀ other, action = .cancel other → ¬ AreKin actions token other) →
    ts'.isCancelled token = ts.isCancelled token
  /-- A copy begins as its source is. -/
  copied : ∀ source, action = .copy source → ts'.isCancelled ts.size = ts.isCancelled source
  /-- A token that is made anew is not cancelled. -/
  made : action = .make → ts'.isCancelled ts.size = false

theorem isCancelled_make (htoken : token < ts.size) :
    ts.make.isCancelled token = ts.isCancelled token := by
  rw [Bool.eq_iff_iff, isCancelled_eq_true_iff, isCancelled_eq_true_iff, make_eq]
  dsimp only
  rw [List.getElem?_append_left htoken]
  exact exists_congr fun family => and_congr_right fun _ => flags_make

theorem isCancelled_make_size (ts : Tokens) : ts.make.isCancelled ts.size = false := by
  rw [make_eq, isCancelled, size, List.getElem?_concat_length]
  dsimp only
  rw [List.getD_eq_getElem?_getD, List.getElem?_concat_length, Option.getD_some]

theorem isCancelled_copy (hsource : other < ts.size) (htoken : token < ts.size) :
    (ts.copy other).isCancelled token = ts.isCancelled token := by
  obtain ⟨family, hfamily⟩ := families_of_lt hsource
  rw [copy_eq hfamily, isCancelled, isCancelled, List.getElem?_append_left htoken]

theorem isCancelled_copy_size (hsource : token < ts.size) :
    (ts.copy token).isCancelled ts.size = ts.isCancelled token := by
  obtain ⟨family, hfamily⟩ := families_of_lt hsource
  rw [copy_eq hfamily, isCancelled, isCancelled, size, List.getElem?_concat_length, hfamily]

/-- To cancel a token is to cancel its family, and nothing else. -/
theorem IsLeftBy.isCancelled_cancel (h : ts.IsLeftBy actions) (hother : other < ts.size) :
    (ts.cancel other).isCancelled token = true ↔
      ts.isCancelled token = true ∨ AreKin actions token other := by
  obtain ⟨family, hfamily⟩ := families_of_lt hother
  rw [isCancelled_eq_true_iff, isCancelled_eq_true_iff, h.numbering.areKin_iff, cancel_eq hfamily,
    ← exists_or]
  refine exists_congr fun k => ?_
  rw [h.flags_cancel hfamily, hfamily, Option.some_inj, ← and_or_left]

theorem IsLeftBy.keepsToFamily (h : ts.IsLeftBy actions) (hstep : Step ts action ts') :
    KeepsToFamily actions ts action ts' := by
  have hlt {token : Nat} (hcancelled : ts.isCancelled token = true) : token < ts.size := by
    obtain ⟨family, hfamily, -⟩ := isCancelled_eq_true_iff.mp hcancelled
    exact lt_of_families hfamily
  cases hstep with
  | make =>
      exact ⟨fun token hcancelled => (isCancelled_make (hlt hcancelled)).trans hcancelled,
        fun token htoken _ => isCancelled_make htoken, nofun,
        fun _ => isCancelled_make_size ts⟩
  | copy hsource =>
      refine ⟨fun token hcancelled =>
          (isCancelled_copy hsource (hlt hcancelled)).trans hcancelled,
        fun token htoken _ => isCancelled_copy hsource htoken, ?_, nofun⟩
      rintro _ ⟨⟩
      exact isCancelled_copy_size hsource
  | cancel hother =>
      refine ⟨fun token hcancelled => (h.isCancelled_cancel hother).mpr (.inl hcancelled),
        fun token _ hkin => ?_, nofun, nofun⟩
      rw [Bool.eq_iff_iff, h.isCancelled_cancel hother, or_iff_left (hkin _ rfl)]

/-- After any actions a token is cancelled exactly if one of its family was, whenever the two
    were made. Whatever is done next leaves what is cancelled so, and the other families alone,
    and a copy begins as its source is. -/
theorem after_isCancelled_iff (h : After actions ts) :
    (∀ token, ts.isCancelled token = true ↔
      ∃ other, Action.cancel other ∈ actions ∧ AreKin actions token other) ∧
    ∀ action ts', Step ts action ts' → KeepsToFamily actions ts action ts' := by
  have hleft := isLeftBy_of_after h
  refine ⟨fun token => ?_, fun action ts' hstep => hleft.keepsToFamily hstep⟩
  rw [isCancelled_eq_true_iff]
  constructor
  · rintro ⟨family, hfamily, hflag⟩
    obtain ⟨other, hmem, hother⟩ := hleft.flag_iff.mp hflag
    exact ⟨other, hmem, hleft.numbering.areKin_iff.mpr ⟨family, hfamily, hother⟩⟩
  · rintro ⟨other, hmem, hkin⟩
    obtain ⟨family, hfamily, hother⟩ := hleft.numbering.areKin_iff.mp hkin
    exact ⟨family, hfamily, hleft.flag_iff.mpr ⟨other, hmem, hother⟩⟩

/-- A token, its copy, another token, and a copy that is made of the first token once the copy has
    been cancelled. The late copy is cancelled from the beginning, and the other token is not. -/
theorem after_isCancelled_iff_lateCopy :
    ∃ ts, After [.make, .copy 0, .make, .cancel 1, .copy 0] ts ∧ ts.isCancelled 3 = true ∧
      ts.isCancelled 2 = false := by
  have h : After [.make, .copy 0, .make, .cancel 1, .copy 0] ⟨[0, 0, 1, 0], [true, false]⟩ :=
    .step (.step (.step (.step (.step .nothing .make) (.copy (by decide))) .make)
      (.cancel (by decide))) (.copy (by decide))
  have hkin : AreKin [.make, .copy 0, .make, .cancel 1, .copy 0] 3 1 :=
    ⟨0, .copied rfl (.made rfl), .copied rfl (.made rfl)⟩
  have hmem : Action.cancel 1 ∈ [.make, .copy 0, .make, .cancel 1, .copy 0] := by simp
  exact ⟨_, h, ((after_isCancelled_iff h).1 3).mpr ⟨1, hmem, hkin⟩, rfl⟩

end Tokens

end Concordance
