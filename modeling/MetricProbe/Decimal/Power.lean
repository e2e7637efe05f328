/-!
# Powers

The powers of two and of ten, the bases in which numbers are stored and written.
-/

namespace MetricProbe

/-- Two to a power. -/
abbrev twoPow (exponent : Nat) : Nat := Nat.pow 2 exponent

/-- Ten to a power. -/
abbrev tenPow (exponent : Nat) : Nat := Nat.pow 10 exponent

end MetricProbe
