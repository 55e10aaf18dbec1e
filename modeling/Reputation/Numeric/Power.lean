/-
**Powers.**

A power with a natural exponent is the one of the core library in every module, and never that of a
monoid, whatever else a module imports. A definition and the theorems about it then speak of the
same power.
-/

attribute [instance (2000), default_instance (20000)] instPowNat
