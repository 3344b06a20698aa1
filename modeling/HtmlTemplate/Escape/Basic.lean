import HtmlTemplate.Text.Chars
namespace HtmlTemplate.Escape

def reserved (c : Char) : List Char :=
  if c = '&' then "&amp;".toList
  else if c = '<' then "&lt;".toList
  else if c = '>' then "&gt;".toList
  else if c = '"' then "&quot;".toList
  else if c = '\'' then "&#39;".toList
  else [c]

def html (s : List Char) : List Char := s.flatMap reserved

-- A character reference is a name, at most seven decimal digits or at most six
-- hexadecimal ones, and the semicolon.
def isHexDigit (c : Char) : Bool :=
  c.isDigit || ('a' ≤ c && c ≤ 'f') || ('A' ≤ c && c ≤ 'F')

def closes (isMember : Char → Bool) (limit : Nat) (s : List Char) : Bool :=
  let body := s.takeWhile isMember
  1 ≤ body.length && body.length ≤ limit && (s.drop body.length).head? == some ';'

def startsReference : List Char → Bool
  | '#' :: c :: s =>
    closes Char.isDigit 7 (c :: s) || ((c = 'x' || c = 'X') && closes isHexDigit 6 s)
  | c :: s => c.isAlpha && closes Char.isAlphanum 32 (c :: s)
  | [] => false

-- An ampersand that already starts a reference stays.
def text : List Char → List Char
  | [] => []
  | '&' :: s => (if startsReference s then ['&'] else "&amp;".toList) ++ text s
  | c :: s => reserved c ++ text s

end HtmlTemplate.Escape
