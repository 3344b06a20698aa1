namespace HtmlTemplate

-- IEEE 754 binary64, kept exact: a finite number is ± significand * 2 ^ exponent.
-- Zero has exponent 0; any other number made here has its 53-bit significand, or
-- the exponent -1074 when it is subnormal.
inductive Binary64 where
  | nan
  | infinite (negative : Bool)
  | finite (negative : Bool) (significand : Nat) (exponent : Int)
deriving DecidableEq, Repr

namespace Binary64

def leastExponent : Int := -1074
def greatestExponent : Int := 971

def zero (negative : Bool) : Binary64 := .finite negative 0 0

def roundDiv (num den : Nat) : Nat :=
  let down := num / den
  let rest := 2 * (num % den)
  if rest < den || (rest == den && down % 2 == 0) then down else down + 1

def scale (base : Nat) (power : Int) (num den : Nat) : Nat × Nat :=
  if 0 ≤ power then (num * Nat.pow base power.toNat, den) else (num, den * Nat.pow base (-power).toNat)

-- The number nearest to a positive quotient. The first exponent tried leaves 53
-- or 54 bits; the second choice drops the extra bit.
def ofQuotient (negative : Bool) (num den : Nat) : Binary64 :=
  let start := (num.log2 : Int) - den.log2 - 53
  let first := scale 2 (-start) num den
  let exponent := max leastExponent (if Nat.pow 2 53 ≤ first.1 / first.2 then start + 1 else start)
  let scaled := scale 2 (-exponent) num den
  let significand := roundDiv scaled.1 scaled.2
  let (significand, exponent) :=
    if significand = Nat.pow 2 53 then (Nat.pow 2 52, exponent + 1) else (significand, exponent)
  if significand = 0 then zero negative
  else if greatestExponent < exponent then .infinite negative
  else .finite negative significand exponent

-- Beyond four hundred places the answer no longer depends on the digits.
def ofDecimal (negative : Bool) (digits : Nat) (power : Int) : Binary64 :=
  let size := power + (Nat.repr digits).length
  if digits = 0 || size < -400 then zero negative
  else if 400 < size then .infinite negative
  else
    let (num, den) := scale 10 power digits 1
    ofQuotient negative num den

def signed (negative : Bool) (n : Nat) : Int := if negative then -(n : Int) else n

def quotient (negative : Bool) (significand : Nat) (exponent : Int) : Int × Nat :=
  if 0 ≤ exponent then (signed negative (significand * Nat.pow 2 exponent.toNat), 1)
  else (signed negative significand, Nat.pow 2 (-exponent).toNat)

def toInt? : Binary64 → Option Int
  | .finite negative significand exponent =>
    let (num, den) := quotient negative significand exponent
    if num % den = 0 then some (num / den) else none
  | _ => none

end Binary64

-- Numbers of both kinds compare exactly and never through a conversion.
inductive Number where
  | int (n : Int)
  | float (x : Binary64)
deriving DecidableEq

namespace Number

inductive Place where
  | below
  | at (num : Int) (den : Nat)
  | above

def place? : Number → Option Place
  | .int n => some (.at n 1)
  | .float .nan => none
  | .float (.infinite negative) => some (if negative then .below else .above)
  | .float (.finite negative significand exponent) =>
    let (num, den) := Binary64.quotient negative significand exponent
    some (.at num den)

def Place.lt : Place → Place → Bool
  | .below, .below => false
  | .below, _ => true
  | .at _ _, .below => false
  | .at a b, .at c d => a * d < c * b
  | .at _ _, .above => true
  | .above, _ => false

def Place.eq : Place → Place → Bool
  | .below, .below => true
  | .at a b, .at c d => a * d == c * b
  | .above, .above => true
  | _, _ => false

def compareWith (holds : Place → Place → Bool) (x y : Number) : Bool :=
  match x.place?, y.place? with
  | some p, some q => holds p q
  | _, _ => false

def eq : Number → Number → Bool := compareWith Place.eq
def lt : Number → Number → Bool := compareWith Place.lt
def le : Number → Number → Bool := compareWith fun p q => p.lt q || p.eq q

end Number
end HtmlTemplate
