import HtmlTemplate.Text.Chars
namespace HtmlTemplate.Source

structure Cursor where
  rest : List Char
  offset : Nat := 0
  line : Nat := 0
  column : Nat := 0

def isBreak (c : Char) : Bool := c = '\n' || c = '\u2028' || c = '\u2029'
def isGap (c : Char) : Bool := c = ' ' || c = '\t'

def isEnd : List Char → Bool
  | [] => true
  | c :: _ => isGap c || c = '\n'

def isLineOf (mark s : List Char) : Bool := ((Chars.dropLead mark s).map isEnd).getD false
def isStartLine (s : List Char) : Bool := isLineOf ['-', '-', '-'] s
def isEndLine (s : List Char) : Bool := isLineOf ['.', '.', '.'] s
def isDocumentLine (s : List Char) : Bool := isStartLine s || isEndLine s

-- One `\n` between words is a space, and n + 1 of them are n line breaks.
def joint : List Char → List Char
  | '\n' :: [] => [' ']
  | '\n' :: breaks => breaks
  | breaks => breaks

namespace Cursor

-- A byte order mark takes no column.
def next (cursor : Cursor) : Cursor :=
  match cursor.rest with
  | [] => cursor
  | c :: s =>
    if isBreak c then ⟨s, cursor.offset + 1, cursor.line + 1, 0⟩
    else ⟨s, cursor.offset + 1, cursor.line, if c = '\ufeff' then cursor.column else cursor.column + 1⟩

def advance : (count : Nat) → Cursor → Cursor
  | 0, cursor => cursor
  | count + 1, cursor => advance count cursor.next

def upTo (cursor : Cursor) (rest : List Char) : Cursor :=
  advance (cursor.rest.length - rest.length) cursor

end Cursor
end HtmlTemplate.Source
