/-!
# Shortest decimal text of a binary number

A finite double is `m · 2 ^ q`.  Its text has the fewest digits with which a decimal
still lies among the reals that round to the double; of two such decimals the nearer
one is taken, and of two equally near ones the even one.

For each number of digits only the two neighbours of the value on that decimal grid
need a test: if any point of a grid lies in the interval, one of the two does.
-/

namespace ServiceDirectory.Text

/-- A decimal `digits · 10 ^ exponent`. -/
structure Scientific where
  digits : Nat
  exponent : Int
deriving DecidableEq, Repr

namespace Scientific

/-- The same decimal without zeros at the end of its digits. -/
def dropZeros : Nat → Scientific → Scientific
  | 0, d => d
  | fuel + 1, d =>
    if d.digits ≠ 0 ∧ d.digits % 10 = 0 then
      dropZeros fuel ⟨d.digits / 10, d.exponent + 1⟩
    else d

end Scientific

/-- The reals that round to `m · 2 ^ q`, as three multiples of `2 ^ (q - 2)`: the lower
end, the value, the upper end. -/
structure RoundingInterval where
  lower : Nat
  value : Nat
  upper : Nat
  exponent : Int
  /-- Whether the ends round to the value too. -/
  closed : Bool

/-- The interval of `m · 2 ^ q`; below a power of two the lower gap is half as wide. -/
def roundingInterval (m : Nat) (q : Int) (narrowBelow : Bool) : RoundingInterval where
  lower := if narrowBelow then 4 * m - 1 else 4 * m - 2
  value := 4 * m
  upper := 4 * m + 2
  exponent := q - 2
  closed := m % 2 == 0

/-- Numerator factor and denominator of `2 ^ binary / 10 ^ decimal`. -/
def gridRatio (binary decimal : Int) : Nat × Nat :=
  (Nat.pow 2 binary.toNat * Nat.pow 10 (-decimal).toNat,
    Nat.pow 10 decimal.toNat * Nat.pow 2 (-binary).toNat)

/-- The nearest multiple of `10 ^ exponent` in the interval, if a neighbour of the value
lies there. -/
def gridPoint (interval : RoundingInterval) (exponent : Int) : Option Nat :=
  let (factor, unit) := gridRatio interval.exponent exponent
  let lower := interval.lower * factor
  let value := interval.value * factor
  let upper := interval.upper * factor
  let inside (point : Nat) : Bool :=
    if interval.closed then lower ≤ point * unit && point * unit ≤ upper
    else lower < point * unit && point * unit < upper
  let below := value / unit
  let above := below + 1
  match inside below, inside above with
  | false, false => none
  | true, false => some below
  | false, true => some above
  | true, true =>
    let toBelow := value - below * unit
    let toAbove := above * unit - value
    if toBelow < toAbove then some below
    else if toAbove < toBelow then some above
    else if below % 2 = 0 then some below else some above

/-- Tries the grids from the coarsest on. -/
def firstGridPoint (interval : RoundingInterval) : Nat → Int → Option Scientific
  | 0, _ => none
  | tries + 1, exponent =>
    match gridPoint interval exponent with
    | some 0 => firstGridPoint interval tries (exponent - 1)
    | some point => some ⟨point, exponent⟩
    | none => firstGridPoint interval tries (exponent - 1)

/-- The shortest decimal of `m · 2 ^ q`, for `0 < m < 2 ^ 53` and `-1074 ≤ q ≤ 971`.
Grids are tried from one digit above the value on; 17 digits always suffice. -/
def shortest (m : Nat) (q : Int) (narrowBelow : Bool) : Scientific :=
  let interval := roundingInterval m q narrowBelow
  let (factor, unit) := gridRatio interval.exponent 0
  let top : Int :=
    if unit ≤ interval.value * factor then
      (Nat.toDigits 10 (interval.value * factor / unit)).length
    else 1 - (Nat.toDigits 10 (unit / (interval.value * factor))).length
  let found := (firstGridPoint interval 20 (top + 1)).getD ⟨m, 0⟩
  found.dropZeros 400

/-- How decimals are written: positional while the point falls at most `positionalBelow`
places behind the first digit and at most `leadingZeros` zeros follow it, else with an
exponent, which always has a sign.  A whole number keeps `.0` in positional form only. -/
structure DecimalLayout where
  positionalBelow : Int
  leadingZeros : Int

/-- Sixteen places before the point, four zeros behind it. -/
def DecimalLayout.standard : DecimalLayout := ⟨16, 4⟩

/-- The text of a positive decimal. -/
def DecimalLayout.write (layout : DecimalLayout) (d : Scientific) : List Char :=
  let digits := Nat.toDigits 10 d.digits
  let point : Int := digits.length + d.exponent
  if 0 ≤ d.exponent ∧ point ≤ layout.positionalBelow then
    digits ++ List.replicate d.exponent.toNat '0' ++ ['.', '0']
  else if 0 < point ∧ point ≤ layout.positionalBelow then
    digits.take point.toNat ++ '.' :: digits.drop point.toNat
  else if -layout.leadingZeros ≤ point ∧ point ≤ 0 then
    ['0', '.'] ++ List.replicate (-point).toNat '0' ++ digits
  else
    let mantissa := match digits with
      | [] => []
      | [digit] => [digit]
      | digit :: rest => digit :: '.' :: rest
    let exponent := point - 1
    mantissa ++ 'e' :: (if exponent < 0 then '-' else '+') :: Nat.toDigits 10 exponent.natAbs

/-- Where the standard layout turns to exponents. -/
example : [(1, 15), (1, 16), (12345678901234568, 0), (125, -7), (125, -8), (5, -324)].map
    (fun (digits, exponent) => DecimalLayout.standard.write ⟨digits, exponent⟩) =
    ["1000000000000000.0", "1e+16", "1.2345678901234568e+16", "0.0000125", "1.25e-6",
      "5e-324"].map String.toList := by decide +kernel

/-- The shortest text of a finite double that reads back as it. -/
def floatText (x : Float) : String :=
  let bits : Nat := x.toBits.toNat
  let sign := if bits >>> 63 = 1 then ['-'] else []
  let biased : Nat := (bits >>> 52) % 2048
  let fraction : Nat := bits % Nat.pow 2 52
  if biased = 0 ∧ fraction = 0 then String.ofList (sign ++ ['0', '.', '0'])
  else
    let decimal :=
      if biased = 0 then shortest fraction (-1074) false
      else shortest (fraction + Nat.pow 2 52) (Int.ofNat biased - 1075) (fraction = 0 ∧ 1 < biased)
    String.ofList (sign ++ DecimalLayout.standard.write decimal)

end ServiceDirectory.Text
