import HotReload.Decimal.Digits

set_option autoImplicit false

namespace HotReload.Decimal

structure Binary where
  significand : Nat
  exponent : Int
  -- Below a power of two the doubles lie twice as close as above it.
  atBoundary : Bool

def Binary.ofBits (bits : UInt64) : Binary :=
  let fraction := bits.toNat % Nat.pow 2 52
  let biased : Nat := bits.toNat / Nat.pow 2 52 % Nat.pow 2 11
  if biased = 0 then ⟨fraction, -1074, false⟩
  else ⟨Nat.pow 2 52 + fraction, (biased : Int) - 1075, fraction = 0 ∧ biased ≠ 1⟩

structure Scientific where
  coefficient : Nat
  exponent : Int

-- The quotient `number / unit` as a pair, for `significand * 2 ^ exponent` measured in steps of `10
-- ^ place`; both are multiplied by four so that the ends of the rounding interval are whole.
def Binary.onGrid (x : Binary) (place : Int) : Nat × Nat :=
  (x.significand * 4 * Nat.pow 2 x.exponent.toNat * Nat.pow 10 (-place).toNat,
    4 * Nat.pow 2 (-x.exponent).toNat * Nat.pow 10 place.toNat)

-- Does `coefficient * 10 ^ place` round to `x`? The ends of the interval do when the significand is
-- even.
def Binary.admits (x : Binary) (place : Int) (coefficient : Nat) : Bool :=
  let step := Nat.pow 2 x.exponent.toNat * Nat.pow 10 (-place).toNat
  let (value, unit) := x.onGrid place
  let low := value - (if x.atBoundary then step else 2 * step)
  let high := value + 2 * step
  let point := coefficient * unit
  if x.significand % 2 = 0 then low ≤ point ∧ point ≤ high else low < point ∧ point < high

-- The point of the grid `10 ^ place` that is nearest to `x` among those that round to `x`.
def Binary.nearest? (x : Binary) (place : Int) : Option Nat :=
  let (value, unit) := x.onGrid place
  let below := value / unit
  let down := below ≠ 0 ∧ x.admits place below
  let up := x.admits place (below + 1)
  if down ∧ up then
    let twice := 2 * (value % unit)
    if twice < unit ∨ (twice = unit ∧ below % 2 = 0) then some below else some (below + 1)
  else if down then some below
  else if up then some (below + 1)
  else none

def Binary.search (x : Binary) (place : Int) : Nat → Scientific
  | 0 => ⟨0, 0⟩
  | steps + 1 =>
    match x.nearest? place with
    | some coefficient => ⟨coefficient, place⟩
    | none => x.search (place - 1) steps

def Binary.shortest (x : Binary) : Scientific :=
  -- 2 ^ 10 is about 10 ^ 3, so this grid is coarser than the number and forty steps pass its end.
  x.search ((x.exponent + (x.significand.log2 : Int) + 1) * 30103 / 100000 + 2) 40

def zeros (n : Nat) : List Char := List.replicate n '0'

-- Positional when the leading digit stands for `10 ^ -5` to `10 ^ 15`, always with a fraction;
-- otherwise one leading digit and a signed exponent.
def Scientific.written (x : Scientific) : List Char :=
  let ds := digits x.coefficient
  let leading := x.exponent + (ds.length : Int) - 1
  if 0 ≤ x.exponent ∧ leading ≤ 15 then ds ++ zeros x.exponent.toNat ++ ['.', '0']
  else if 0 ≤ leading ∧ leading ≤ 15 then
    ds.take (leading.toNat + 1) ++ '.' :: ds.drop (leading.toNat + 1)
  else if -5 ≤ leading ∧ leading < 0 then '0' :: '.' :: zeros (-leading - 1).toNat ++ ds
  else
    let fraction := if ds.length = 1 then [] else '.' :: ds.drop 1
    let sign := if leading < 0 then '-' else '+'
    ds.take 1 ++ fraction ++ 'e' :: sign :: digits leading.natAbs

def ofFloat (x : Float) : String :=
  let bits := x.toBits
  let magnitude := Binary.ofBits bits
  let text := if magnitude.significand = 0 then ['0', '.', '0'] else magnitude.shortest.written
  String.ofList (if bits.toNat ≥ Nat.pow 2 63 then '-' :: text else text)

end HotReload.Decimal
