/-!
The bounds of the integers that documents and command lines hold, named for the number of binary
digits.
-/

namespace Blueprint.Bounds

/-- The greatest number of 32 binary digits. -/
def nat32 : Nat := 4294967295

/-- The greatest number of 64 binary digits. -/
def nat64 : Nat := 18446744073709551615

/-- The least number of 64 binary digits, one of them for the sign. -/
def leastInt64 : Int := -9223372036854775808

/-- The greatest number of 64 binary digits, one of them for the sign. -/
def greatestInt64 : Int := 9223372036854775807

/-- The least number of 128 binary digits, one of them for the sign. -/
def leastInt128 : Int := -170141183460469231731687303715884105728

/-- The greatest number of 128 binary digits. -/
def nat128 : Nat := 340282366920938463463374607431768211455

end Blueprint.Bounds
