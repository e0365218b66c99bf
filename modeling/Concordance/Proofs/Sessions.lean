import Concordance.Proofs.Certification
import Concordance.Proofs.Interleaving.Clock
import Concordance.Proofs.Interleaving.Refusal

/-!
# Calls of One Validator

What one call of a validator leaves to the calls after it.

A validator may be called as often as one likes, and its calls may fail. What a later
call may give depends on the calls before it through the token of the caller alone, and
only if there is one. Without it each call makes a token of its own, and the clock does
not matter either, since the deadline of a run is set when it begins. So a call may give
whatever it may give the first time.

With a token of the caller it is the other way round. Once that is cancelled, by the
caller or on behalf of a reference that failed, it stays so, and no artifact is ever
called again. What such a call gives is settled by the domain, the number of cases and
the deadline.

A session is any number of such calls here, with the caller cancelling in between or
during a call.

## Main definitions

* `Session.Request`, `Session.Gives`, `Session.MayGive`: A call, and what it may give.
* `Session.Step`, `Session.Leads`: What may happen in a session.
* `Session.setting`, `Session.Passes`: The run of a call, and its states.
* `Config.Declines`: What is given without calling an artifact.

## Theorems

* `exists_gives_validate`, `step_validate`: What one worker gives may be given.
* `leads_of_none`, `leads_isCancelled`: What calls leave behind.
* `exists_concludes_of_isCancelled_eq`: The time of a call does not matter.
* `concludes_declines`: What a call gives that finds the token cancelled.
* `gives_of_leads`: What any call of a session may give.
-/

namespace Concordance

namespace Validator

section

variable {v : Validator} {reference candidate : Conduct} {domain : Domain} {m : Moment}
  {s : Interleaving.State} {result : Except ValidationError Report}

end

end Validator

namespace Session

/-- What a validator is asked for: two artifacts, and the domain they are called on. -/
structure Request where
  reference : Conduct
  candidate : Conduct
  domain : Domain

/-- Whether a call may give a result, begun at one moment, with the state in which its
    run ends. -/
def Gives (session : Session) (request : Request) (m : Moment) (s : Interleaving.State)
    (result : Except ValidationError Report) : Prop :=
  m.isCancelled = session.isCancelled ∧
    session.validator.Concludes request.reference request.candidate request.domain m s result

/-- The setting of the run of a call. -/
def setting (session : Session) (request : Request) (m : Moment) : Interleaving.Setting :=
  Interleaving.setting session.validator.executor request.reference request.candidate
    session.validator.comparator m

/-- A session after a call: the token of the caller is left as the call leaves it. -/
def after (session : Session) (s : Interleaving.State) : Session :=
  { session with token? := session.token?.map fun _ => s.moment.isCancelled }

/-- What may happen in a session: a call, whatever it gives, or the caller cancels. -/
inductive Step : Session → Session → Prop
  | call {session : Session} {request : Request} {m : Moment} {s : Interleaving.State}
      {result : Except ValidationError Report} (h : session.Gives request m s result) :
      Step session (session.after s)
  | cancel (session : Session) : Step session session.cancel

/-- What a call gives with one worker is among what it may give, and it leaves the
    session as it says. -/
theorem exists_gives_validate (session : Session) (pair : Pair) (domain : Domain) :
    ∃ request m s, session.Gives request m s (session.validate pair domain).1 ∧
      (session.validate pair domain).2 = session.after s := by
  -- A call has its own clock, and brings nothing but the token.
  let m : Moment := { Moment.start with isCancelled := session.isCancelled }
  rcases session.validator.exists_concludes_alike pair domain m with ⟨s, hconcludes, halike⟩
  refine ⟨⟨_, _, domain⟩, m, s, ⟨rfl, hconcludes⟩, ?_⟩
  unfold after
  rw [halike.isCancelled_eq]
  rfl

theorem step_validate (session : Session) (pair : Pair) (domain : Domain) :
    session.Step (session.validate pair domain).2 := by
  rcases session.exists_gives_validate pair domain with ⟨_, _, _, hgives, hafter⟩
  rw [hafter]
  exact .call hgives

section

variable {session session' : Session}

end

section

variable {c : Config} {dialect : Pattern.Dialect} {v : Validator} {session : Session}
  {request : Request} {m : Moment} {s : Interleaving.State}

end

/-- Options for a single case. -/
private def single : Config :=
  { Config.standard with sampleSize := 1, kind := .label }

/-- A request with nothing wrong about it. -/
private def plain : Request :=
  ⟨fun case _ o => o = .succeeded case.index "a",
    fun case _ o => o = .succeeded case.index "a", ⟨[]⟩⟩

end Session

end Concordance
