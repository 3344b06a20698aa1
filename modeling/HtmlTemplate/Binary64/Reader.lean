import HtmlTemplate.Binary64.Basic
import HtmlTemplate.Text.Chars
namespace HtmlTemplate.Binary64

def asciiDigit? (c : Char) : Option Nat :=
  if '0' ≤ c && c ≤ '9' then some (c.toNat - 48) else none

def digitRun (s : List Char) : List Nat × List Char :=
  ((s.takeWhile Char.isDigit).filterMap asciiDigit?, s.dropWhile Char.isDigit)

def natural (digits : List Nat) : Nat := digits.foldl (fun n d => 10 * n + d) 0

def readSign : List Char → Bool × List Char
  | '-' :: rest => (true, rest)
  | '+' :: rest => (false, rest)
  | s => (false, s)

def readExponent? : List Char → Option Int
  | [] => some 0
  | c :: rest =>
    if c = 'e' || c = 'E' then
      let (negative, rest) := readSign rest
      let (digits, rest) := digitRun rest
      if digits.isEmpty || !rest.isEmpty then none
      else some (signed negative (natural digits))
    else none

def ofText? (s : List Char) : Option Binary64 :=
  let (negative, s) := readSign s
  let (whole, s) := digitRun s
  let (fraction, s) := match s with
    | '.' :: rest => digitRun rest
    | s => ([], s)
  if whole.isEmpty && fraction.isEmpty then none
  else (readExponent? s).map fun power =>
    ofDecimal negative (natural (whole ++ fraction)) (power - fraction.length)

end HtmlTemplate.Binary64
