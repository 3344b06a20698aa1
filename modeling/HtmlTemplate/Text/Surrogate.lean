namespace HtmlTemplate.Surrogate

-- A leading and a trailing unit together name one character beyond U+FFFF; a unit left
-- alone becomes U+FFFD.

def isLeading (n : Nat) : Bool := 0xd800 ≤ n && n < 0xdc00
def isTrailing (n : Nat) : Bool := 0xdc00 ≤ n && n < 0xe000

def toChar (n : Nat) : Char := if n.isValidChar then Char.ofNat n else '\ufffd'

def combine : List Nat → List Char
  | [] => []
  | [n] => [toChar n]
  | n :: m :: rest =>
    if isLeading n && isTrailing m then
      Char.ofNat (0x10000 + (n - 0xd800) * 0x400 + (m - 0xdc00)) :: combine rest
    else toChar n :: combine (m :: rest)

def hexValue? (c : Char) : Option Nat :=
  if '0' ≤ c && c ≤ '9' then some (c.toNat - 48)
  else if 'a' ≤ c && c ≤ 'f' then some (c.toNat - 87)
  else if 'A' ≤ c && c ≤ 'F' then some (c.toNat - 55)
  else none

def hexNumber? (digits : List Char) : Option Nat :=
  digits.foldl (fun n c => match n, hexValue? c with
    | some n, some d => some (16 * n + d)
    | _, _ => none) (some 0)

end HtmlTemplate.Surrogate
