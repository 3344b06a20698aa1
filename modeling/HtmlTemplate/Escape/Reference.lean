import HtmlTemplate.Escape.Basic
namespace HtmlTemplate.Escape

-- A table of named references, which has those of the characters that are escaped.
structure Names where
  find? : List Char → Option (List Char)
  ampersand : find? "amp;".toList = some ['&']
  less : find? "lt;".toList = some ['<']
  greater : find? "gt;".toList = some ['>']
  quote : find? "quot;".toList = some ['"']

-- Code points 0x80 to 0x9f are read as Windows-1252.
def windows1252 : List Nat := [
  0x20ac, 0x81, 0x201a, 0x192, 0x201e, 0x2026, 0x2020, 0x2021, 0x2c6, 0x2030, 0x160, 0x2039, 0x152, 0x8d,
  0x17d, 0x8f, 0x90, 0x2018, 0x2019, 0x201c, 0x201d, 0x2022, 0x2013, 0x2014, 0x2dc, 0x2122, 0x161, 0x203a,
  0x153, 0x9d, 0x17e, 0x178]

def replacement : Char := '\ufffd'

-- Controls and noncharacters vanish; zero, surrogates and what lies beyond Unicode become U+FFFD.
def ofCode (n : Nat) : List Char :=
  if n = 0 then [replacement]
  else if n = 0x0d then ['\r']
  else if 0x80 ≤ n && n ≤ 0x9f then (windows1252[n - 0x80]?.map Char.ofNat).toList
  else if (0xd800 ≤ n && n ≤ 0xdfff) || 0x10ffff < n then [replacement]
  else if n ≤ 8 || n = 0x0b || (0x0e ≤ n && n ≤ 0x1f) || n = 0x7f ||
      (0xfdd0 ≤ n && n ≤ 0xfdef) || 0xfffe ≤ n % 0x10000 then []
  else [Char.ofNat n]

def digitValue (c : Char) : Nat :=
  if c.isDigit then c.toNat - 48 else if 'a' ≤ c then c.toNat - 87 else c.toNat - 55

def codeOf (base : Nat) (digits : List Char) : Nat :=
  digits.foldl (fun n c => base * n + digitValue c) 0

def isNameChar (c : Char) : Bool :=
  !(c = '\t' || c = '\n' || c = '\x0c' || c = ' ' || c = '<' || c = '&' || c = '#' || c = ';')

def withSemicolon (s : List Char) : List Char × List Char :=
  match s with
  | ';' :: rest => ([';'], rest)
  | s => ([], s)

def decodeNumber : List Char → List Char × Nat
  | [] => (['&'], 0)
  | c :: rest =>
    let digits := (c :: rest).takeWhile Char.isDigit
    if !digits.isEmpty then
      (ofCode (codeOf 10 digits),
        1 + digits.length + (withSemicolon ((c :: rest).drop digits.length)).1.length)
    else if c = 'x' || c = 'X' then
      let digits := rest.takeWhile isHexDigit
      if digits.isEmpty then (['&'], 0)
      else (ofCode (codeOf 16 digits), 2 + digits.length + (withSemicolon (rest.drop digits.length)).1.length)
    else (['&'], 0)

namespace Names

def longest? (names : Names) (name : List Char) : Nat → Option (List Char)
  | 0 | 1 => none
  | n + 2 =>
    match names.find? (name.take (n + 2)) with
    | some known => some (known ++ name.drop (n + 2))
    | none => longest? names name (n + 1)

def meaning (names : Names) (name : List Char) : List Char :=
  match names.find? name with
  | some known => known
  | none => (names.longest? name (name.length - 1)).getD ('&' :: name)

def decodeAt (names : Names) (s : List Char) : List Char × Nat :=
  match s with
  | '#' :: rest => decodeNumber rest
  | s =>
    let body := (s.takeWhile isNameChar).take 32
    if body.isEmpty then (['&'], 0)
    else
      let name := body ++ (withSemicolon (s.drop body.length)).1
      (names.meaning name, name.length)

-- `skip` characters have been decoded with the ampersand before them.
def decodeFrom (names : Names) : (skip : Nat) → List Char → List Char
  | _, [] => []
  | skip + 1, _ :: s => decodeFrom names skip s
  | 0, '&' :: s => (names.decodeAt s).1 ++ decodeFrom names (names.decodeAt s).2 s
  | 0, c :: s => c :: decodeFrom names 0 s

def decode (names : Names) (s : List Char) : List Char := names.decodeFrom 0 s

end Names
end HtmlTemplate.Escape
