/-! # Powers of naturals and integers

The model computes powers of naturals and integers with `Nat.pow` and `Int.pow`. A library imported
beside it may bring powers of its own for every monoid, and make them the default reading of
`2 ^ 64`. The model's definitions, and what is stated about them, should read as one term wherever
they are elaborated, so the power of the core library is preferred here, both when instances are
searched and when a numeral exponent leaves its type open.
-/

attribute [instance (2000)] instPowNat
attribute [default_instance (20000)] instPowNat
