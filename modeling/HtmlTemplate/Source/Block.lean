import HtmlTemplate.Source.Cursor
namespace HtmlTemplate.Source

-- Block scalars: `|` keeps lines, `>` folds them.
structure BlockHeader where
  folded : Bool
  keep : Option Bool := none
  increment : Option Nat := none

def sign? (c : Char) : Option Bool := if c = '+' then some true else if c = '-' then some false else none
def increment? (c : Char) : Option Nat := if '1' ≤ c && c ≤ '9' then some (c.toNat - 48) else none

def blockIndicators (folded : Bool) (s : List Char) : BlockHeader × List Char :=
  let keep := s.head?.bind sign?
  let rest := s.drop keep.toList.length
  let increment := rest.head?.bind increment?
  let rest := rest.drop increment.toList.length
  let late := if keep.isNone && increment.isSome then rest.head?.bind sign? else none
  (⟨folded, keep <|> late, increment⟩, rest.drop late.toList.length)

def breaksBefore (indent column : Nat) : List Char → List Char × Nat
  | [] => ([], 0)
  | c :: s =>
    if c = ' ' && column < indent then
      let (breaks, count) := breaksBefore indent (column + 1) s
      (breaks, count + 1)
    else if isBreak c then
      let (breaks, count) := breaksBefore indent 0 s
      (c :: breaks, count + 1)
    else ([], 0)

def blockBreaks (indent : Nat) (cursor : Cursor) : List Char × Cursor :=
  let (breaks, count) := breaksBefore indent cursor.column cursor.rest
  (breaks, cursor.advance count)

def shownIndent (column : Nat) (blank : Option Nat) (most : Nat) : List Char → Option Nat × Nat
  | [] => (blank, most)
  | c :: s =>
    if c = ' ' then shownIndent (column + 1) blank (max most (column + 1)) s
    else if isBreak c then shownIndent 0 (blank <|> some column) most s
    else (blank, most)

-- A blank first line may not be indented less than another one.
def blockIndent? (least : Nat) (header : BlockHeader) (s : List Char) : Option Nat :=
  match header.increment with
  | some increment => some (max least 1 + increment - 1)
  | none =>
    let (blank, most) := shownIndent 0 none 0 s
    if blank.any fun column => 0 < column && column < most then none else some (max least most)

def isIndented (cursor : Cursor) : Bool := cursor.rest.head?.any isGap

def blockLines (header : BlockHeader) (indent : Nat) :
    (budget : Nat) → (breaks : List Char) → Cursor → List Char × Cursor
  | 0, _, cursor => ([], cursor)
  | budget + 1, breaks, cursor =>
    let line := cursor.rest.takeWhile (· ≠ '\n')
    let ending := cursor.advance line.length
    let lineBreak := ending.rest.take 1
    let (next, following) := blockBreaks indent ending.next
    -- Only a scalar without indentation can meet the end of its document.
    let ended := indent = 0 && isDocumentLine following.rest
    if following.column = indent && !following.rest.isEmpty && !ended then
      let between :=
        if header.folded && !isIndented cursor && !isIndented following then
          (if next.isEmpty then [' '] else [])
        else lineBreak
      let (more, last) := blockLines header indent budget next following
      (breaks ++ line ++ between ++ more, last)
    else
      let ending := match header.keep with
        | none => lineBreak
        | some true => lineBreak ++ next
        | some false => []
      (breaks ++ line ++ ending, following)

-- `budget` bounds the number of lines.
def blockScalar (budget least : Nat) (folded : Bool) (cursor : Cursor) : Option (List Char × Cursor) :=
  let (header, rest) := blockIndicators folded cursor.rest
  let spaces := rest.takeWhile (· = ' ')
  let rest := rest.drop spaces.length
  let rest := if !spaces.isEmpty && rest.head? = some '#' then rest.dropWhile (· ≠ '\n') else rest
  match rest with
  | [] => some ([], cursor.upTo [])
  | '\n' :: body => do
    let indent ← blockIndent? least header body
    let (breaks, first) := blockBreaks indent (cursor.upTo body)
    if first.column = indent && !first.rest.isEmpty then
      some (blockLines header indent budget breaks first)
    else some (if header.keep = some true then breaks else [], first)
  | _ => none

end HtmlTemplate.Source
