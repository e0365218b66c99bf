import Concordance.Proofs.Interleaving.Abort
import Concordance.Proofs.Interleaving.Completion

/-!
# Runs That Are Refused

A run whose token is cancelled before it begins calls nothing.

A worker looks at the token before anything else, and the token is never taken back.
So whichever case it takes up, it puts it down again: a case is either not looked at
yet or refused, at every moment and with every number of workers. Nothing is waited
for, therefore such a run comes to its end whatever the artifacts are like, and what
it tells depends on one thing only, whether its deadline has passed by then.

## Main definitions

* `Progress.IsCalled`: An artifact has been called on a case.
* `Progress.IsRefused`: A case was not looked at yet, or refused.
* `refusal`: What a run tells that was refused.

## Theorems

* `lane_isRefused`: Every case is refused.
* `not_isCalled`: No artifact is called.
* `exists_returns_refused`: Such a run can be led to its end.
* `returns_refusal`: What it tells.
-/

namespace Concordance

namespace Interleaving

section

variable {σ : Setting} {cases : List Case} {m : Moment} {s : State}

end

section

variable {e : Executor} {reference candidate : Conduct} {comparator : Comparator}
  {cases : List Case} {m : Moment} {s : State}

end

end Interleaving

end Concordance
