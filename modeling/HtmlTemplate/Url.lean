import HtmlTemplate.Problem
import HtmlTemplate.Vocabulary
namespace HtmlTemplate.Url

-- Browsers overlook spaces and controls inside a scheme.
def isNoise (c : Char) : Bool := c.toNat ≤ 0x20 || c.toNat = 0x7f

def isSchemeChar (c : Char) : Bool := c.isAlphanum || c = '+' || c = '.' || c = '-'

def schemeChars? (url : List Char) : Option (List Char) :=
  let quiet := url.filter fun c => !isNoise c
  let scheme := quiet.takeWhile isSchemeChar
  match scheme, quiet.drop scheme.length with
  | c :: _, ':' :: _ => if c.isAlpha then some (scheme.map Char.toLower) else none
  | _, _ => none

def scheme? (url : String) : Option String := (schemeChars? url.toList).map String.ofList

def check (name url : String) : Except Problem String :=
  match scheme? url with
  | none => .ok url
  | some scheme => if scheme ∈ Vocabulary.safeSchemes then .ok url else .error (.unsafeUrl name scheme)

end HtmlTemplate.Url
