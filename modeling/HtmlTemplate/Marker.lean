import HtmlTemplate.Escape.Basic
import HtmlTemplate.Path
import HtmlTemplate.Value.Stringify
namespace HtmlTemplate

-- Three braces stand for two literal ones.
inductive Marker where
  | path (body : List Char)
  | literal (body : List Char)

namespace Marker

def isPlain (c : Char) : Bool := c ≠ '\x7b' && c ≠ '\x7d'

def at? : List Char → Option (Marker × Nat)
  | '\x7b' :: '\x7b' :: '\x7b' :: s =>
    let body := s.takeWhile isPlain
    if Chars.beginsWith ['\x7d', '\x7d', '\x7d'] (s.drop body.length) then
      some (.literal body, body.length + 6)
    else none
  | '\x7b' :: '\x7b' :: s =>
    let body := s.takeWhile isPlain
    if Chars.beginsWith ['\x7d', '\x7d'] (s.drop body.length) then some (.path body, body.length + 4)
    else none
  | _ => none

-- `skip` characters belong to the marker before.
def scanFrom : (skip : Nat) → List Char → List Char × List (Marker × List Char)
  | _, [] => ([], [])
  | skip + 1, _ :: s => scanFrom skip s
  | 0, c :: s =>
    match at? (c :: s) with
    | some (marker, length) => ([], (marker, (scanFrom (length - 1) s).1) :: (scanFrom (length - 1) s).2)
    | none => (c :: (scanFrom 0 s).1, (scanFrom 0 s).2)

def scan (s : List Char) : List Char × List (Marker × List Char) := scanFrom 0 s

def value [Stack] (fallback : Option Path.Fallback) (scope : Scope) : Marker → Run String
  | .path body => do
    let v ← Path.resolve fallback scope (String.ofList (Blank.trim body))
    Run.written v.stringify
  | .literal body =>
    pure (String.ofList (['\x7b', '\x7b'] ++ Blank.trim body ++ ['\x7d', '\x7d']))

end Marker

-- In text the literal runs keep the references they have and values are escaped
-- in full. In an attribute nothing is escaped yet: the whole value is, later.
structure Interpolation where
  literal : List Char → List Char
  value : List Char → List Char

namespace Interpolation

variable [Stack]

def inText : Interpolation := ⟨Escape.text, Escape.html⟩
def inAttribute : Interpolation := ⟨id, id⟩

def fill (mode : Interpolation) (fallback : Option Path.Fallback) (scope : Scope) :
    List (Marker × List Char) → Run (List Char)
  | [] => pure []
  | (marker, after) :: rest => do
    let value ← marker.value fallback scope
    let filled ← fill mode fallback scope rest
    pure (mode.value value.toList ++ mode.literal after ++ filled)

def apply (mode : Interpolation) (fallback : Option Path.Fallback) (scope : Scope) (template : String) :
    Run String := do
  let (before, marked) := Marker.scan template.toList
  let filled ← fill mode fallback scope marked
  pure (String.ofList (mode.literal before ++ filled))

end Interpolation
end HtmlTemplate
