/-!
# Powers

What `a ^ n` stands for.

A power of natural numbers or integers can be taken as that of the core library
or as that of a monoid. They agree, but a definition should be the same term
whether or not the theory of monoids is at hand, so the former is preferred.
-/

attribute [instance (high), default_instance (high + 1)] instPowNat
