import DiagnosticHints.Text.Digits

/-!
# Shortest decimals

The text of a floating-point number: the fewest digits that read back as the number, of several
such decimals the nearest, of two equally near ones the even one. The exponents -6 to 20 are
written positionally, all others in the scientific form.
-/

namespace DiagnosticHints

/-- The number `digits * 10 ^ exponent`. -/
structure Decimal where
  digits : Nat
  exponent : Int
  deriving DecidableEq, Repr

/-- The binary fraction `mantissa * 2 ^ exponent`. Below it the next fraction is half as far as
above it when `narrow` holds. -/
structure BinaryFraction where
  mantissa : Nat
  exponent : Int
  narrow : Bool
  deriving DecidableEq, Repr

namespace BinaryFraction

/-- The magnitude of a finite double, from the bits of its encoding. -/
def ofBits (bits : Nat) : BinaryFraction :=
  let stored : Nat := bits / Nat.pow 2 52 % Nat.pow 2 11
  let fraction : Nat := bits % Nat.pow 2 52
  if stored = 0 then ⟨fraction, -1074, false⟩
  else ⟨Nat.pow 2 52 + fraction, (stored : Int) - 1075, fraction = 0 ∧ 1 < stored⟩

/-- The power `base ^ exponent` as a numerator and a denominator. -/
def power (base : Nat) (exponent : Int) : Nat × Nat :=
  if 0 ≤ exponent then (Nat.pow base exponent.toNat, 1)
  else (1, Nat.pow base (-exponent).toNat)

/-- The greatest power of ten that is at most `numerator / denominator`. -/
def decimalExponent (numerator denominator : Nat) : Int :=
  let guess : Int :=
    (Text.ofNat numerator).length - (Text.ofNat denominator).length
  let (p, q) := power 10 guess
  if p * denominator ≤ numerator * q then guess else guess - 1

/-- The decimal on the grid of `10 ^ step` next to the fraction that reads back as it, if any.
Bounds and value are counted in quarters of the fraction's last place. -/
def onGrid? (x : BinaryFraction) (step : Int) : Option Decimal :=
  let (num, den) := power 2 (x.exponent - 2)
  let (p, q) := power 10 step
  let value := 4 * x.mantissa * num * q
  let low := (4 * x.mantissa - if x.narrow then 1 else 2) * num * q
  let high := (4 * x.mantissa + 2) * num * q
  let place := den * p
  let readsBack (digits : Nat) : Bool :=
    if x.mantissa % 2 = 0 then low ≤ digits * place && digits * place ≤ high
    else low < digits * place && digits * place < high
  let below := value / place
  let rest := value % place
  let nearer :=
    if 2 * rest < place then below
    else if place < 2 * rest then below + 1
    else if below % 2 = 0 then below
    else below + 1
  let farther := if nearer = below then below + 1 else below
  if readsBack nearer then some ⟨nearer, step⟩
  else if readsBack farther then some ⟨farther, step⟩
  else none

/-- The decimal of fewest digits that reads back; seventeen digits always do. -/
def shortest (x : BinaryFraction) : Decimal :=
  let (num, den) := power 2 x.exponent
  let top := decimalExponent (x.mantissa * num) den
  let grids := (List.range 17).map fun (n : Nat) => top - n
  (grids.findSome? (onGrid? x)).getD ⟨x.mantissa, x.exponent⟩

end BinaryFraction

namespace Decimal

/-- The digits without the zeros at their end, and how many of them were dropped. -/
def significant (digits : Text) : Text × Nat :=
  let kept := (digits.reverse.dropWhile (· == '0')).reverse
  (kept, digits.length - kept.length)

/-- The text of a positive decimal. -/
def text (d : Decimal) : Text :=
  let (digits, dropped) := significant (Text.ofNat d.digits)
  let point : Int := digits.length + dropped + d.exponent
  if 0 < point ∧ point ≤ 21 then
    if digits.length ≤ point.toNat then
      digits ++ List.replicate (point.toNat - digits.length) '0'
    else digits.take point.toNat ++ '.' :: digits.drop point.toNat
  else if -6 < point ∧ point ≤ 0 then
    '0' :: '.' :: (List.replicate (-point).toNat '0' ++ digits)
  else
    let exponent := point - 1
    let mark : Text := if exponent < 0 then ['e', '-'] else ['e', '+']
    let fraction : Text := if digits.length = 1 then [] else '.' :: digits.drop 1
    digits.take 1 ++ fraction ++ mark ++ Text.ofNat exponent.natAbs

end Decimal

/-- The text of a floating-point number; both zeros are written without a sign. -/
def Text.ofFloat (x : Float) : Text :=
  let bits := x.toBits.toNat
  let negative := bits / Nat.pow 2 63 % 2 = 1
  if bits / Nat.pow 2 52 % Nat.pow 2 11 = Nat.pow 2 11 - 1 then
    if bits % Nat.pow 2 52 ≠ 0 then "NaN".toList
    else if negative then "-Infinity".toList
    else "Infinity".toList
  else
    let magnitude := BinaryFraction.ofBits bits
    if magnitude.mantissa = 0 then ['0']
    else if negative then '-' :: magnitude.shortest.text
    else magnitude.shortest.text

end DiagnosticHints
