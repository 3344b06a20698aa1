import HtmlTemplate.Text.Digit
namespace HtmlTemplate

-- How many containers may stand in one another where a value is copied for its text
-- and where it is shown in a problem. What runs the library decides it; here it is
-- the same wherever a value is written.
class Stack where
  copying : Nat
  showing : Nat

-- What the program runs with. Nothing but closed examples depends on these numbers.
instance Stack.standard : Stack := ⟨490, 980⟩

inductive Unwritten where
  | tooLong
  | tooDeep
deriving DecidableEq, Repr

namespace Unwritten

def message : Unwritten → String
  | .tooLong =>
    "Exceeds the limit (" ++ String.ofList (Chars.decimal Digit.numeralLimit) ++
      " digits) for integer string conversion; use sys.set_int_max_str_digits() to increase the limit"
  | .tooDeep => "maximum recursion depth exceeded while getting the repr of an object"

end Unwritten

namespace Digit

def isShort (n : Int) : Bool := (Chars.decimal n.natAbs).length ≤ numeralLimit

def write (n : Int) : Except Unwritten (List Char) :=
  if isShort n then .ok (Chars.signed n) else .error .tooLong

end Digit
end HtmlTemplate
