import HtmlTemplate.Source.Block
import HtmlTemplate.Source.Quoting
namespace HtmlTemplate.Source

-- Where block collections begin and end follows from the columns, and that a scalar
-- is a key from the colon behind it.
inductive Token where
  | documentStart
  | documentEnd
  | sequenceStart
  | mappingStart
  | blockEnd
  | entry
  | key
  | content
  | flowSequence
  | flowSequenceEnd
  | flowMapping
  | flowMappingEnd
  | comma
  | plain (body : List Char)
  | literal (body : List Char)
deriving DecidableEq

inductive Flow where
  | sequence
  | mapping
deriving DecidableEq

-- A key is needed where nothing else can stand.
structure KeyStart where
  level : Nat
  tokens : Nat
  needed : Bool
  cursor : Cursor

structure Layout where
  cursor : Cursor
  tokens : List Token := []
  columns : List Nat := []
  flow : List Flow := []
  keyAllowed : Bool := true
  starts : List KeyStart := []

namespace Layout

def inFlow (layout : Layout) : Bool := !layout.flow.isEmpty

def least (layout : Layout) : Nat :=
  match layout.columns with
  | [] => 0
  | column :: _ => column + 1

def emit (token : Token) (layout : Layout) : Layout := { layout with tokens := token :: layout.tokens }
def move (cursor : Cursor) (layout : Layout) : Layout := { layout with cursor := cursor }

def mark (token : Token) (width : Nat) (layout : Layout) : Layout :=
  (layout.emit token).move (layout.cursor.advance width)

def keyLimit : Nat := 1024

def isLate (layout : Layout) (start : KeyStart) : Bool :=
  start.cursor.line ≠ layout.cursor.line || keyLimit < layout.cursor.offset - start.cursor.offset

def giveUp (lost : KeyStart → Bool) (layout : Layout) : Option Layout :=
  if layout.starts.any fun start => lost start && start.needed then none
  else some { layout with starts := layout.starts.filter fun start => !lost start }

def giveUpLate (layout : Layout) : Option Layout := layout.giveUp layout.isLate
def isHere (layout : Layout) (start : KeyStart) : Bool := start.level = layout.flow.length
def giveUpHere (layout : Layout) : Option Layout := layout.giveUp layout.isHere

def offerKey (layout : Layout) : Option Layout :=
  if layout.keyAllowed then do
    let layout ← layout.giveUpHere
    let needed := !layout.inFlow && layout.least = layout.cursor.column + 1
    let start := ⟨layout.flow.length, layout.tokens.length, needed, layout.cursor⟩
    some { layout with starts := start :: layout.starts }
  else some layout

-- Columns mean nothing in flow collections.
def close (outside : Nat → Bool) (layout : Layout) : Layout :=
  if layout.inFlow then layout
  else
    let closed := layout.columns.takeWhile outside
    { layout with
      tokens := List.replicate closed.length .blockEnd ++ layout.tokens
      columns := layout.columns.drop closed.length }

def openBlock (token : Token) (layout : Layout) : Layout :=
  if layout.least ≤ layout.cursor.column then
    { layout.emit token with columns := layout.cursor.column :: layout.columns }
  else layout

def openFlow (flow : Flow) (token : Token) (layout : Layout) : Option Layout := do
  let layout ← layout.offerKey
  some { layout.mark token 1 with flow := flow :: layout.flow, keyAllowed := true }

def closeFlow (token : Token) (layout : Layout) : Option Layout := do
  let layout ← layout.giveUpHere
  some { layout.mark token 1 with flow := layout.flow.tail, keyAllowed := false }

def comma (layout : Layout) : Option Layout := do
  let layout ← layout.giveUpHere
  some { layout.mark .comma 1 with keyAllowed := true }

def documentLine (token : Token) (layout : Layout) : Option Layout := do
  let layout ← (layout.close fun _ => true).giveUpHere
  some { layout.mark token 3 with keyAllowed := false }

def blockMark (opening token : Token) (allowsKey : Bool) (layout : Layout) : Option Layout :=
  if !layout.inFlow && !layout.keyAllowed then none
  else do
    let layout ← (if layout.inFlow then layout else layout.openBlock opening).giveUpHere
    some { layout.mark token 1 with keyAllowed := allowsKey }

def markKey (start : KeyStart) (layout : Layout) : Layout :=
  let column := start.cursor.column
  let opens := !layout.inFlow && layout.least ≤ column
  let later := layout.tokens.length - start.tokens
  let marks := if opens then [.key, .mappingStart] else [.key]
  { layout with
    tokens := layout.tokens.take later ++ marks ++ layout.tokens.drop later
    columns := if opens then column :: layout.columns else layout.columns
    starts := layout.starts.filter fun start => !layout.isHere start }

-- What is behind a colon on its line is no key, unless the colon stands alone.
def colon (layout : Layout) : Option Layout :=
  match layout.starts.find? layout.isHere with
  | some start => some { (layout.markKey start).mark .content 1 with keyAllowed := false }
  | none =>
    if layout.inFlow then some { layout.mark .content 1 with keyAllowed := false }
    else if layout.keyAllowed then
      some { (layout.openBlock .mappingStart).mark .content 1 with keyAllowed := true }
    else none

def isColon (waiting : Bool) (layout : Layout) (s : List Char) : Bool :=
  match layout.flow with
  | .mapping :: _ => isEnd s || !(waiting && layout.tokens.head? = some .content)
  | _ => isEnd s

def isFlowMark (c : Char) : Bool := c = ',' || c = '[' || c = ']' || c = '\x7b' || c = '\x7d'

def word (inFlow : Bool) : List Char → List Char
  | [] => []
  | c :: s =>
    if isEnd (c :: s) || (c = ':' && isEnd s) || (inFlow && isFlowMark c) then []
    else c :: word inFlow s

def indicators : List Char :=
  [',', '[', ']', '\x7b', '\x7d', '#', '&', '*', '!', '|', '>', '\'', '"', '%', '@', '\x60']

def startsPlain (inFlow : Bool) : List Char → Bool
  | [] => false
  | c :: s =>
    if c = '-' || c = ':' then !isEnd s
    else if c = '?' then !inFlow && !isEnd s
    else !isGap c && !isBreak c && !indicators.contains c

def plainBreaks : List Char → Option (List Char) × Nat
  | [] => (some [], 0)
  | c :: s =>
    if c = ' ' then
      let (breaks, count) := plainBreaks s
      (breaks, count + 1)
    else if isBreak c then
      if isDocumentLine s then (none, 1)
      else
        let (breaks, count) := plainBreaks s
        (breaks.map (c :: ·), count + 1)
    else (some [], 0)

def plainGap (s : List Char) : Option (List Char) × Nat :=
  let spaces := s.takeWhile (· = ' ')
  match s.drop spaces.length with
  | '\n' :: rest =>
    if isDocumentLine rest then (none, spaces.length + 1)
    else
      let (breaks, count) := plainBreaks rest
      (breaks.map fun breaks => joint ('\n' :: breaks), spaces.length + 1 + count)
  | _ => (if spaces.isEmpty then none else some spaces, spaces.length)

def plain (inFlow : Bool) (least : Nat) :
    (budget : Nat) → (gap : List Char) → (keyAllowed : Bool) → Cursor → List Char × Bool × Cursor
  | 0, _, keyAllowed, cursor => ([], keyAllowed, cursor)
  | budget + 1, gap, keyAllowed, cursor =>
    let piece := word inFlow cursor.rest
    if piece.isEmpty || cursor.rest.head? = some '#' then ([], keyAllowed, cursor)
    else
      let ending := cursor.advance piece.length
      let (next, count) := plainGap ending.rest
      let following := ending.advance count
      let crossed := following.line ≠ ending.line
      match next with
      | some next =>
        if inFlow || least ≤ following.column then
          let (more, allowed, last) := plain inFlow least budget next crossed following
          (gap ++ piece ++ more, allowed, last)
        else (gap ++ piece, crossed, following)
      | none => (gap ++ piece, crossed, following)

def plainScalar (budget : Nat) (layout : Layout) : Option Layout := do
  let layout ← layout.offerKey
  let (body, allowed, after) := plain layout.inFlow layout.least budget [] false layout.cursor
  some { (layout.emit (.plain body)).move after with keyAllowed := allowed }

def quotedScalar (budget : Nat) (double : Bool) (s : List Char) (layout : Layout) : Option Layout := do
  let layout ← layout.offerKey
  let (body, rest) ← if double then
      (doubleQuoted budget s).map fun (units, rest) => (Surrogate.combine units, rest)
    else singleQuoted budget s
  some { (layout.emit (.literal body)).move (layout.cursor.upTo rest) with keyAllowed := false }

def blockScalar (budget : Nat) (folded : Bool) (layout : Layout) : Option Layout := do
  let layout ← layout.giveUpHere
  let (body, after) ← Source.blockScalar budget layout.least folded layout.cursor.next
  some { (layout.emit (.literal body)).move after with keyAllowed := true }

def take (budget : Nat) (waiting : Bool) (layout : Layout) : Option Layout :=
  let s := layout.cursor.rest
  if layout.cursor.column = 0 && isStartLine s then layout.documentLine .documentStart
  else if layout.cursor.column = 0 && isEndLine s then layout.documentLine .documentEnd
  else match s with
    | [] => none
    | '[' :: _ => layout.openFlow .sequence .flowSequence
    | ']' :: _ => layout.closeFlow .flowSequenceEnd
    | '\x7b' :: _ => layout.openFlow .mapping .flowMapping
    | '\x7d' :: _ => layout.closeFlow .flowMappingEnd
    | ',' :: _ => layout.comma
    | '\'' :: s => layout.quotedScalar budget false s
    | '"' :: s => layout.quotedScalar budget true s
    | c :: s =>
      if c = '-' && isEnd s then layout.blockMark .sequenceStart .entry true
      else if c = '?' && (layout.inFlow || isEnd s) then
        layout.blockMark .mappingStart .key !layout.inFlow
      else if c = ':' && layout.isColon waiting s then layout.colon
      else if (c = '|' || c = '>') && !layout.inFlow then layout.blockScalar budget (c = '>')
      else if startsPlain layout.inFlow (c :: s) then layout.plainScalar budget
      else none

def blankLength (inFlow inComment : Bool) : List Char → Nat
  | [] => 0
  | c :: s =>
    if c = '\n' then blankLength inFlow false s + 1
    else if inComment then blankLength inFlow true s + 1
    else if isBreak c || c = ' ' || (inFlow && c = '\t') then blankLength inFlow false s + 1
    else if c = '#' then blankLength inFlow true s + 1
    else 0

def approach (layout : Layout) : Option (Bool × Layout) := do
  let layout ← layout.giveUpLate
  let waiting := !layout.starts.isEmpty
  let cursor := layout.cursor.advance (blankLength layout.inFlow false layout.cursor.rest)
  let crossed := cursor.line ≠ layout.cursor.line
  let layout ← { layout with
    cursor := cursor
    keyAllowed := layout.keyAllowed || (crossed && !layout.inFlow) }.giveUpLate
  some (waiting, layout.close fun column => layout.cursor.column < column)

def finish (layout : Layout) : Option (List Token) :=
  (layout.close fun _ => true).giveUpHere.map fun layout => layout.tokens.reverse

-- Every token has a character of its own, so a budget above the number of
-- characters left stays above it.
def run : (budget : Nat) → Layout → Option (List Token)
  | 0, _ => none
  | budget + 1, layout => do
    let (waiting, layout) ← layout.approach
    if layout.cursor.rest.isEmpty then layout.finish
    else
      let layout ← layout.take (budget + 1) waiting
      layout.run budget

end Layout

def tokens? (s : List Char) : Option (List Token) := Layout.run (s.length + 1) { cursor := { rest := s } }

end HtmlTemplate.Source
