/-!
# Names beyond ASCII

A label of a host name that is not ASCII is written with the ASCII letters first and the others
coded behind them, each as the distance to the one before in the order of code points. No tables of
characters are involved: a label is taken as it is, without mapping or normalisation.
-/

namespace MetricProbe.Url.Punycode

/-- The letter or digit of a value below thirty-six. -/
def digit (value : Nat) : Char :=
  if value < 26 then Char.ofNat ('a'.toNat + value) else Char.ofNat ('0'.toNat + value - 26)

/-- The shrinking part of the adaptation of the bias. -/
def shrink (delta : Nat) (steps : Nat) : Nat × Nat :=
  if h : 455 < delta then shrink (delta / 35) (steps + 36) else (delta, steps)
termination_by delta
decreasing_by exact Nat.div_lt_self (by omega) (by decide)

/-- The bias after a distance has been written. -/
def adapt (delta written : Nat) (first : Bool) : Nat :=
  let delta := if first then delta / 700 else delta / 2
  let (delta, steps) := shrink (delta + delta / written) 0
  steps + 36 * delta / (delta + 38)

/-- The threshold of a digit position under a bias. -/
def threshold (bias position : Nat) : Nat :=
  if position ≤ bias + 1 then 1 else if bias + 26 ≤ position then 26 else position - bias

/-- A distance as digits of growing weight. -/
def variableLength (bias : Nat) : Nat → Nat → Nat → List Char
  | 0, _, _ => []
  | fuel + 1, position, value =>
    let limit := threshold bias position
    if value < limit then [digit value]
    else
      digit (limit + (value - limit) % (36 - limit)) ::
        variableLength bias fuel (position + 36) ((value - limit) / (36 - limit))

/-- The state of the writer between characters. -/
structure State where
  delta : Nat
  bias : Nat
  handled : Nat
  first : Bool
  output : List Char

/-- Writes the characters of one code point, passing through the label once. -/
def writeRound (codePoint : Nat) (label : List Char) (state : State) : State :=
  label.foldl (fun state c =>
    if c.toNat < codePoint then { state with delta := state.delta + 1 }
    else if c.toNat = codePoint then
      { delta := 0
        bias := adapt state.delta (state.handled + 1) state.first
        handled := state.handled + 1
        first := false
        output := state.output ++ variableLength state.bias (state.delta + 1) 36 state.delta }
    else state) state

/-- Writes the characters of each of the code points in turn. -/
def writeRounds (label : List Char) : Nat → List Nat → State → State
  | _, [], state => state
  | next, codePoint :: more, state =>
    let delta := state.delta + (codePoint - next) * (state.handled + 1)
    let state := writeRound codePoint label { state with delta := delta }
    writeRounds label (codePoint + 1) more { state with delta := state.delta + 1 }

/-- A label that is not ASCII in its ASCII form. -/
def encode (label : List Char) : List Char :=
  let basic := label.filter (·.toNat < 0x80)
  let others := ((label.map Char.toNat).filter (0x80 ≤ ·)).mergeSort (· ≤ ·)
  let start : State :=
    { delta := 0, bias := 72, handled := basic.length, first := true
      output := if basic.isEmpty then [] else basic ++ ['-'] }
  "xn--".toList ++ (writeRounds label 0x80 others.eraseDups start).output

end MetricProbe.Url.Punycode
