/-!
# Widths

How many values the fixed widths can hold, and half of that, where negative values begin.
-/

namespace PolicyGate

namespace Width

/-- The values of 32 bits. -/
abbrev of32 : Nat := 0x100000000

/-- The values of 31 bits. -/
abbrev of31 : Nat := 0x80000000

/-- The values of 52 bits. -/
abbrev of52 : Nat := 0x10000000000000

/-- The values of 63 bits. -/
abbrev of63 : Nat := 0x8000000000000000

/-- The values of 64 bits. -/
abbrev of64 : Nat := 0x10000000000000000

/-- The values of 127 bits. -/
abbrev of127 : Nat := 0x80000000000000000000000000000000

/-- The values of 128 bits. -/
abbrev of128 : Nat := 0x100000000000000000000000000000000

end Width

end PolicyGate
