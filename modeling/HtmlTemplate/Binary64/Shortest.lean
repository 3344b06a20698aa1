import HtmlTemplate.Binary64.Basic
import HtmlTemplate.Text.Chars
namespace HtmlTemplate.Binary64

-- A decimal reads back when it lies between the midpoints to both neighbours; the
-- midpoints themselves belong to the even significand.
structure Decimal where
  digits : Nat
  point : Int

def pointOf (num den : Nat) : Int :=
  let guess : Int := (Nat.repr num).length - (Nat.repr den).length
  let scaled := scale 10 (-guess) num den
  if scaled.2 ≤ scaled.1 then guess + 1 else guess

def onGrid? (significand : Nat) (below : Nat) (unit : Nat × Nat) : Option Nat :=
  let target := 4 * significand * unit.1
  let low := (4 * significand - below) * unit.1
  let high := (4 * significand + 2) * unit.1
  let inside := fun (n : Nat) =>
    if significand % 2 = 0 then low ≤ n * unit.2 && n * unit.2 ≤ high
    else low < n * unit.2 && n * unit.2 < high
  let down := target / unit.2
  let past := target - down * unit.2
  let short := (down + 1) * unit.2 - target
  match inside down, inside (down + 1) with
  | true, true =>
    some (if past < short || (past == short && down % 2 == 0) then down else down + 1)
  | true, false => some down
  | false, true => some (down + 1)
  | false, false => none

def search (significand : Nat) (below : Nat) (exponent point : Int) : (left places : Nat) → Decimal
  | 0, places => ⟨significand, places⟩
  | left + 1, places =>
    let quarter := scale 2 (exponent - 2) 1 1
    let unit := scale 10 (places - point) quarter.1 quarter.2
    match onGrid? significand below unit with
    | some digits => if digits = Nat.pow 10 places then ⟨1, point + 1⟩ else ⟨digits, point⟩
    | none => search significand below exponent point left (places + 1)

-- The gap below a power of two is half the gap above it, unless it is the least
-- normal number. Seventeen digits always suffice.
def shortest (significand : Nat) (exponent : Int) : Decimal :=
  let below := if significand = Nat.pow 2 52 && leastExponent < exponent then 1 else 2
  let value := quotient false significand exponent
  search significand below exponent (pointOf value.1.natAbs value.2) 17 1

def layout (d : Decimal) : List Char :=
  let digits := Chars.decimal d.digits
  if -4 < d.point && d.point ≤ 16 then
    if d.point ≤ 0 then '0' :: '.' :: List.replicate (-d.point).toNat '0' ++ digits
    else if digits.length ≤ d.point.toNat then
      digits ++ List.replicate (d.point.toNat - digits.length) '0' ++ ['.', '0']
    else digits.take d.point.toNat ++ '.' :: digits.drop d.point.toNat
  else
    let power := d.point - 1
    let places := Chars.decimal power.natAbs
    let fraction := if digits.length = 1 then [] else '.' :: digits.drop 1
    digits.take 1 ++ fraction ++ 'e' :: (if power < 0 then '-' else '+') ::
      (List.replicate (2 - places.length) '0' ++ places)

def text : Binary64 → List Char
  | .nan => "nan".toList
  | .infinite negative => (if negative then "-inf" else "inf").toList
  | .finite negative significand exponent =>
    let unsigned :=
      if significand = 0 then ['0', '.', '0'] else layout (shortest significand exponent)
    if negative then '-' :: unsigned else unsigned

def jsonText : Binary64 → List Char
  | .nan => "NaN".toList
  | .infinite negative => (if negative then "-Infinity" else "Infinity").toList
  | x => text x

end HtmlTemplate.Binary64
