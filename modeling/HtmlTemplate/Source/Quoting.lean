import HtmlTemplate.Source.Cursor
import HtmlTemplate.Text.Surrogate
namespace HtmlTemplate.Source

-- Quoted scalars. Blanks beside a line break are dropped.

def quotedBreaks (atStart : Bool) : List Char → Option (List Char × List Char)
  | [] => some ([], [])
  | c :: s =>
    if atStart && isDocumentLine (c :: s) then none
    else if isGap c then quotedBreaks false s
    else if isBreak c then do
      let (breaks, rest) ← quotedBreaks true s
      some (c :: breaks, rest)
    else some ([], c :: s)

def quotedGap (s : List Char) : Option (List Char × List Char) :=
  let blanks := s.takeWhile isGap
  match s.drop blanks.length with
  | [] => none
  | c :: rest =>
    if isBreak c then do
      let (breaks, rest) ← quotedBreaks true rest
      some (joint (c :: breaks), rest)
    else some (blanks, c :: rest)

-- `budget` bounds the number of pieces; the length of the text is enough.
def singleQuoted : (budget : Nat) → List Char → Option (List Char × List Char)
  | 0, _ | _, [] => none
  | budget + 1, '\'' :: '\'' :: s => (singleQuoted budget s).map fun (body, rest) => ('\'' :: body, rest)
  | _ + 1, '\'' :: s => some ([], s)
  | budget + 1, c :: s =>
    if isGap c || isBreak c then do
      let (gap, rest) ← quotedGap (c :: s)
      let (body, rest) ← singleQuoted budget rest
      some (gap ++ body, rest)
    else (singleQuoted budget s).map fun (body, rest) => (c :: body, rest)

def shortEscapes : List (Char × Char) := [
  ('0', '\x00'), ('a', '\x07'), ('b', '\x08'), ('t', '\t'), ('\t', '\t'), ('n', '\n'), ('v', '\x0b'),
  ('f', '\x0c'), ('r', '\r'), ('e', '\x1b'), (' ', ' '), ('"', '"'), ('/', '/'), ('\\', '\\'),
  ('N', '\u0085'), ('_', '\u00a0'), ('L', '\u2028'), ('P', '\u2029')]

def escapeWidth? (c : Char) : Option Nat :=
  if c = 'x' then some 2 else if c = 'u' then some 4 else if c = 'U' then some 8 else none

def escape? (c : Char) (s : List Char) : Option (List Nat × List Char) :=
  match shortEscapes.lookup c, escapeWidth? c with
  | some d, _ => some ([d.toNat], s)
  | none, some width =>
    if s.length < width then none
    else (Surrogate.hexNumber? (s.take width)).map fun n => ([n], s.drop width)
  | none, none =>
    if isBreak c then (quotedBreaks true s).map fun (breaks, rest) => (breaks.map Char.toNat, rest)
    else none

def doubleQuoted : (budget : Nat) → List Char → Option (List Nat × List Char)
  | 0, _ | _, [] => none
  | _ + 1, '"' :: s => some ([], s)
  | budget + 1, '\\' :: c :: s => do
    let (units, rest) ← escape? c s
    let (body, rest) ← doubleQuoted budget rest
    some (units ++ body, rest)
  | budget + 1, c :: s =>
    if isGap c || isBreak c then do
      let (gap, rest) ← quotedGap (c :: s)
      let (body, rest) ← doubleQuoted budget rest
      some (gap.map Char.toNat ++ body, rest)
    else (doubleQuoted budget s).map fun (body, rest) => (c.toNat :: body, rest)

end HtmlTemplate.Source
