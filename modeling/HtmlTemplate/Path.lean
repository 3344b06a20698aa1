import HtmlTemplate.Journal
import HtmlTemplate.Text.Blank
import HtmlTemplate.Value.Display
import HtmlTemplate.Vocabulary
namespace HtmlTemplate.Path

-- Paths are written `.`, `name`, `items.0.name`, `..name`, `../..name`.

def isBlocked (segment : List Char) : Bool :=
  Vocabulary.blockedNames.any (fun name => name.toList == segment) || Chars.beginsWith ['_', '_'] segment

def parents : List Char → Nat × List Char
  | '.' :: '.' :: '/' :: rest => ((parents rest).1 + 1, (parents rest).2)
  | '.' :: '.' :: rest => ((parents rest).1 + 1, (parents rest).2)
  | s => (0, s)

def splitParents (path : List Char) : Nat × List Char :=
  match parents path with
  | (levels + 1, '.' :: rest) => (levels + 1, rest)
  | split => split

-- In a mapping a numeral is read as a number only where the text itself is no key.
def index (current : Value) (segment : List Char) : Except Digit.NumeralError (Option Value) :=
  match current.items?, current.entries? with
  | some items, _ =>
    if Digit.isNumeral segment then (Digit.read segment).map fun n => items[n]?
    else .ok none
  | none, some entries =>
    match Value.find? entries (String.ofList segment) with
    | some v => .ok (some v)
    | none =>
      if Digit.isNumeral segment then
        (Digit.read segment).map fun n => Value.entry? entries (Value.isIndex n)
      else .ok none
  | none, none => .ok none

inductive Found where
  | value (v : Value)
  | nothing
  | blocked (segment : List Char)

-- A blocked segment is noticed when it is reached, and nothing behind a segment
-- without value is looked at.
def walk (current : Value) : List (List Char) → Except Digit.NumeralError Found
  | [] => .ok (.value current)
  | segment :: rest =>
    if isBlocked segment then .ok (.blocked segment)
    else
      match index current segment with
      | .error error => .error error
      | .ok none | .ok (some .missing) => .ok .nothing
      | .ok (some v) => walk v rest

def lookup (scope : Scope) (path : List Char) : Except Digit.NumeralError Found :=
  if path = ['.'] then .ok (.value scope.data)
  else
    let (levels, rest) := splitParents path
    match scope.level? levels with
    | none => .ok .nothing
    | some start => if rest.isEmpty then .ok (.value start) else walk start (Chars.splitOn '.' rest)

abbrev Fallback := String → Scope → Except String Value

def resolve (fallback : Option Fallback) (scope : Scope) (path : String) : Run Value := do
  match ← Run.ofExcept .numeral (lookup scope path.toList) with
  | .value v => pure v
  | .blocked segment =>
    Run.report (.blockedProperty (String.ofList segment) path)
    pure .missing
  | .nothing =>
    match fallback with
    | none => pure .missing
    | some ask =>
      Run.record (.asked path scope)
      match ask path scope with
      | .error reason => Run.raise (.fallbackFailed path reason)
      | .ok .null => pure .missing
      | .ok v => pure v

def check [Stack] (key : String) (path : Value) : Except Failure String :=
  match path with
  | .text s =>
    if (Blank.trim s.toList).isEmpty then .error (.showing path.inspect (.pathNotText key))
    else if s = "." then .ok s
    else if Chars.contains ['.', '.'] s.toList then .error (.problem (.pathToParent key s))
    else if Chars.contains ['\x7b', '\x7b'] s.toList then .error (.problem (.pathWithMarker key s))
    else .ok s
  | _ => .error (.showing path.inspect (.pathNotText key))

def checked [Stack] (key : String) (path : Value) : Run String := Run.ofExcept id (check key path)

end HtmlTemplate.Path
