import HtmlTemplate.Binary64.Reader
import HtmlTemplate.Text.Digit
import HtmlTemplate.Text.Surrogate
import HtmlTemplate.Value.Basic
namespace HtmlTemplate.Source

-- Malformed text may still be read in another notation; the other faults are final.
inductive Fault where
  | malformed
  | numeral (error : Digit.NumeralError)
  -- A key that is a sequence may not hold a container.
  | nestedKey (kindName : String)
deriving DecidableEq

def nullWords : List String := ["", "~", "null", "Null", "NULL"]
def trueWords : List String := ["true", "True", "TRUE"]
def falseWords : List String := ["false", "False", "FALSE"]
def infinityWords : List String := [".inf", ".Inf", ".INF"]
def nanWords : List String := [".nan", ".NaN", ".NAN"]

def reservedWords : List String := ["=", "<<"]

def isDigitIn (base : Nat) (c : Char) : Bool := (Surrogate.hexValue? c).any (· < base)
def isRunIn (base : Nat) (s : List Char) : Bool := !s.isEmpty && s.all fun c => c = '_' || isDigitIn base c

def radix? (body : List Char) : Option (Nat × List Char) :=
  let (base, digits) := match body with
    | '0' :: 'b' :: digits => (2, digits)
    | '0' :: 'o' :: digits => (8, digits)
    | '0' :: 'x' :: digits => (16, digits)
    | digits => (10, digits)
  if isRunIn base digits then some (base, digits) else none

def isPower (signNeeded : Bool) : List Char → Bool
  | c :: s =>
    let (digits, signed) := match s with
      | '+' :: digits | '-' :: digits => (digits, true)
      | digits => (digits, false)
    (c = 'e' || c = 'E') && (signed || !signNeeded) && !digits.isEmpty && digits.all Char.isDigit
  | [] => false

def isDecimal (body : List Char) : Bool :=
  let whole := body.takeWhile fun c => c = '_' || c.isDigit
  let rest := body.drop whole.length
  let led := whole.head?.any Char.isDigit
  match rest with
  | '.' :: s =>
    let fraction := s.takeWhile fun c => c = '_' || c.isDigit
    let power := s.drop fraction.length
    (led || (whole.isEmpty && !fraction.isEmpty)) && (power.isEmpty || isPower whole.isEmpty power)
  | power => led && isPower false power

-- Underscores between digits count for nothing, also where no digit is left.
def ofDigits (base : Nat) (digits : List Char) : Except Fault Nat :=
  let digits := digits.filter (· ≠ '_')
  if digits.isEmpty then .error (.numeral (.noDigits base))
  else if base = 10 && Digit.numeralLimit < digits.length then .error (.numeral (.tooLong digits.length))
  else .ok ((digits.filterMap Surrogate.hexValue?).foldl (fun n d => base * n + d) 0)

def number? (s : List Char) : Option (Except Fault Value) :=
  let (negative, body) := Binary64.readSign s
  if nanWords.contains (String.ofList s) then some (.ok (.float .nan))
  else if infinityWords.contains (String.ofList body) then some (.ok (.float (.infinite negative)))
  else if isDecimal body then
    let digits := body.filter (· ≠ '_')
    match Binary64.ofText? (s.filter (· ≠ '_')) with
    | some x => some (.ok (.float x))
    | none => some (.error (.numeral (.notFloat (String.ofList (digits.map Char.toLower)))))
  else (radix? body).map fun (base, digits) =>
    (ofDigits base digits).map fun n => .int (Binary64.signed negative n)

def isNumeric (s : List Char) : Bool :=
  s.head?.any fun c => c.isDigit || c = '-' || c = '+' || c = '.'

-- A timestamp without quotes is not made a date: it is read as text.
def scalar (s : List Char) : Except Fault Value :=
  let word := String.ofList s
  if nullWords.contains word then .ok .null
  else if trueWords.contains word then .ok (.bool true)
  else if falseWords.contains word then .ok (.bool false)
  else if reservedWords.contains word then .error .malformed
  else if isNumeric s then (number? s).getD (.ok (.text word))
  else .ok (.text word)

end HtmlTemplate.Source
