/-!
# Double precision numbers

Finite binary numbers of double precision, kept as sign, significand and exponent. `ofRatio`
rounds a quotient to the nearest of them, and `toText` writes the fewest decimal digits that
read back.
-/

namespace PolicyOperator

/-- The number `± significand · 2 ^ exponent`. The significand has 53 bits, or fewer at the least
exponent. -/
structure Binary64 where
  negative : Bool
  significand : Nat
  exponent : Int
  deriving DecidableEq, Repr, Inhabited

namespace Binary64

/-- The exponent of the numbers next to zero. -/
def leastExponent : Int := -1074

/-- The exponent of the largest numbers. -/
def greatestExponent : Int := 971

def zero (negative : Bool) : Binary64 := ⟨negative, 0, leastExponent⟩

/-- `num / den` rounded to a whole number; a half goes to the even neighbour. -/
def roundHalfEven (num den : Nat) : Nat :=
  let q := num / den
  match compare (2 * (num % den)) den with
  | .lt => q
  | .gt => q + 1
  | .eq => q + q % 2

/-- Multiplies a quotient by a power of a base, given its exponent. -/
def scale (base : Nat) (exponent : Int) (num den : Nat) : Nat × Nat :=
  if 0 ≤ exponent then (num * base.pow exponent.toNat, den)
  else (num, den * base.pow (-exponent).toNat)

/-- The number with zero's sign dropped; both zeros are equal in value. -/
def unsignedZero (x : Binary64) : Binary64 := if x.significand = 0 then zero false else x

@[simp] theorem unsignedZero_unsignedZero (x : Binary64) :
    x.unsignedZero.unsignedZero = x.unsignedZero := by
  by_cases h : x.significand = 0 <;> simp [unsignedZero, h, zero]

/-- The number nearest to `num / den`, the one with the even significand on a tie; nothing when
that lies beyond the largest. -/
def ofRatio (negative : Bool) (num den : Nat) : Option Binary64 :=
  if num = 0 then some (zero negative)
  else
    let guess : Int := (num.log2 : Int) - (den.log2 : Int)
    let (a, b) := scale 2 (-guess) num den
    let log := if b ≤ a then guess else guess - 1
    let exponent := max leastExponent (log - 52)
    let (a, b) := scale 2 (-exponent) num den
    let s := roundHalfEven a b
    let (s, exponent) := if s = Nat.pow 2 53 then (Nat.pow 2 52, exponent + 1) else (s, exponent)
    if greatestExponent < exponent then none else some ⟨negative, s, exponent⟩

/-- The absolute value as a quotient. -/
def ratio (x : Binary64) : Nat × Nat := scale 2 x.exponent x.significand 1

/-- The product of a number and a power of ten. The power is rounded before the product is; one
beyond the largest number makes the product zero or too large. -/
def timesPowerOfTen (x : Binary64) (power : Int) : Option Binary64 := do
  if x.significand = 0 then return x
  let (a, b) := x.ratio
  if 308 < power then none
  if power < -616 then return zero x.negative
  let step (num den : Nat) (places : Nat) (up : Bool) : Option Binary64 := do
    let (c, d) := (← ofRatio false (Nat.pow 10 places) 1).ratio
    if up then ofRatio x.negative (num * c) (den * d) else ofRatio x.negative (num * d) (den * c)
  if 0 ≤ power then step a b power.toNat true
  else if -308 ≤ power then step a b (-power).toNat false
  else
    let y ← step a b 308 false
    if y.significand = 0 then return y
    let (a, b) := y.ratio
    step a b (-power - 308).toNat false

/-! ## Decimal text -/

/-- The shortest decimal `digits · 10 ^ place` that rounds to `x`, the nearest to `x` of those.
Grids are tried from coarse to fine; on each only the two neighbours of `x` can qualify. -/
def shortest (x : Binary64) : Nat × Int :=
  let m := x.significand
  let below := if m = Nat.pow 2 52 ∧ x.exponent ≠ leastExponent then 1 else 2
  let fits (a b : Nat) : Bool := if m % 2 = 0 then a ≤ b else a < b
  let rec go (place : Int) : Nat → Nat × Int
    | 0 => (0, place)
    | fuel + 1 =>
      -- `4 · m`, and the ends of the interval, in units of the grid's quotient `a / b`
      let (b, a) := scale 10 place 1 1
      let (c, d) := scale 2 (x.exponent - 2) 1 1
      let unit := a * c
      let grid := b * d
      let lower := 4 * m * unit / grid
      let upper := lower + 1
      let inside (n : Nat) : Bool :=
        fits ((4 * m - below) * unit) (n * grid) && fits (n * grid) ((4 * m + 2) * unit)
      match inside lower, inside upper with
      | true, true =>
        match compare (4 * m * unit - lower * grid) (upper * grid - 4 * m * unit) with
        | .lt => (lower, place)
        | .gt => (upper, place)
        | .eq => (if lower % 2 = 0 then lower else upper, place)
      | true, false => (lower, place)
      | false, true => (upper, place)
      | false, false => go (place - 1) fuel
  let log2 : Int := (m.log2 : Int) + x.exponent
  go (log2 * 30103 / 100000 + 2) 25

/-- Decimal text: positional from `1e-5` up to below `1e16`, with an exponent beyond; a whole
number ends in `.0`. -/
def toText (x : Binary64) : String :=
  let body :=
    if x.significand = 0 then "0.0"
    else
      let (n, place) := x.shortest
      let digits := (toString n).toList
      let zeros (k : Int) := List.replicate k.toNat '0'
      let point : Int := digits.length + place
      if 0 ≤ place ∧ point ≤ 16 then String.ofList (digits ++ zeros place) ++ ".0"
      else if 0 < point ∧ point ≤ 16 then
        String.ofList (digits.take point.toNat ++ '.' :: digits.drop point.toNat)
      else if -5 < point ∧ point ≤ 0 then "0." ++ String.ofList (zeros (-point) ++ digits)
      else
        let head := String.ofList (digits.take 1)
        let tail := String.ofList (digits.drop 1)
        (if tail = "" then head else head ++ "." ++ tail) ++ "e" ++ toString (point - 1)
  if x.negative then "-" ++ body else body

example : ((ofRatio true 5 2).map toText, (ofRatio false 1 10).map toText) =
    (some "-2.5", some "0.1") := by decide +kernel

example : ((ofRatio false (10 ^ 16) 1).map toText, (ofRatio false 3 (2 * 10 ^ 324)).map toText) =
    (some "1e16", some "0.0") := by decide +kernel

end Binary64

end PolicyOperator
