/-!
# Built-in arithmetic

Which instances literals and powers of the program's numbers stand for.  They are fixed here, so
that a power or a digit is the same term in a module of the program, which knows nothing of algebra,
as in one of its theory.
-/

namespace RowConduit

-- a power is the built-in one, also where every monoid has its own
attribute [instance (high)] instPowNat

attribute [default_instance (high + 1)] instPowNat

attribute [local instance (high)] Zero.ofOfNat0

instance neZeroTen : NeZero 10 :=
  ⟨by decide⟩

instance neZeroSixteen : NeZero 16 :=
  ⟨by decide⟩

end RowConduit
