/-!
# Powers of numbers

A number is raised to a power by the operation that the core library has for it. Mathlib has one of
its own for every monoid; where a module sees both, the core library's is meant.
-/

attribute [default_instance 20000, instance (2000)] instPowNat
