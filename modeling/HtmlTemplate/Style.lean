import HtmlTemplate.Journal
import HtmlTemplate.Text.Blank
import HtmlTemplate.Value.Display
import HtmlTemplate.Value.Stringify
namespace HtmlTemplate.Style

-- A closing parenthesis too many counts for nothing.
def cutAt (quote : Option Char) (depth : Nat) : List Char → List Char × Bool
  | [] => ([], false)
  | c :: s =>
    let more := fun quote depth => (c :: (cutAt quote depth s).1, (cutAt quote depth s).2)
    match quote with
    | some q => more (if c = q then none else some q) depth
    | none =>
      if c = '"' || c = '\'' then more (some c) depth
      else if c = '(' then more none (depth + 1)
      else if c = ')' then more none (depth - 1)
      else if c = ';' && depth = 0 then ([], true)
      else more none depth

def cut (value : List Char) : List Char × Bool := cutAt none 0 value

-- Lower case as far as ASCII goes: the capitals, and the two other characters whose
-- lower case has ASCII in it. No pattern mentions anything else.
def lower (c : Char) : List Char :=
  if c = '\u0130' then ['i', '\u0307']
  else if c = '\u212a' then ['k']
  else [c.toLower]

def compact (value : List Char) : List Char :=
  (value.flatMap lower).filter fun c => !Blank.isBlank c

def blockedPatterns : List String := [
  "expression(", "javascript:", "vbscript:", "@import", "behavior:", "-moz-binding", "\\"]

def beginsData (s : List Char) : Bool :=
  Chars.beginsWith "data:".toList s ||
    (match s with
    | '"' :: rest | '\'' :: rest => Chars.beginsWith "data:".toList rest
    | _ => false)

def hasOutsideUrl : List Char → Bool
  | [] => false
  | c :: s =>
    (match Chars.dropLead "url(".toList (c :: s) with
    | some rest => !beginsData rest
    | none => false) || hasOutsideUrl s

def blocked? (value : List Char) : Option String :=
  let compacted := compact value
  if hasOutsideUrl compacted then some "url("
  else blockedPatterns.find? fun pattern => Chars.contains pattern.toList compacted

def isNameStart (c : Char) : Bool := 'a' ≤ c && c ≤ 'z'
def isNameChar (c : Char) : Bool := isNameStart c || c.isDigit || c = '-'

-- One line break may follow the name.
def isNameRest : List Char → Bool
  | [] | ['\n'] => true
  | c :: s => isNameChar c && isNameRest s

def isPropertyName (name : List Char) : Bool :=
  match name with
  | '-' :: c :: s => isNameStart c && isNameRest s
  | c :: s => isNameStart c && isNameRest s
  | [] => false

def propertyName? : Value → Option String
  | .text s => if isPropertyName s.toList then some s else none
  | _ => none

def finish (name : String) (value : List Char) : Run (List Char) := do
  let (head, truncated) := cut value
  if truncated then Run.report (.truncatedValue name)
  let trimmed := Blank.trim head
  if trimmed.isEmpty then pure []
  else
    match blocked? trimmed with
    | some pattern =>
      Run.report (.blockedValue name pattern)
      pure []
    | none => pure trimmed

def given? [Stack] (interpolate : String → Run String) : Value → Run (Option String)
  | .text s => do pure (some (← interpolate s))
  | raw => if raw.isNumber then do pure (some (← Run.written raw.stringify)) else pure none

def declaration [Stack] (interpolate : String → Run String) (key raw : Value) : Run (List (List Char)) :=
  match propertyName? key with
  | none => do
    let shown ← Run.written key.display
    Run.report (.badPropertyName shown)
    pure []
  | some name => do
    match ← given? interpolate raw with
    | none =>
      Run.report (.badPropertyValue name)
      pure []
    | some value =>
      let value ← finish name value.toList
      pure (if value.isEmpty then [] else [name.toList ++ ':' :: ' ' :: value ++ [';']])

def sanitize [Stack] (interpolate : String → Run String) (style : Value) : Run String :=
  match style.entries? with
  | none => Run.raise (.styleNotMapping style.kindName)
  | some entries => do
    let declarations ← Run.collect (fun e => declaration interpolate e.1 e.2) entries
    pure (String.ofList (Chars.joinWith [' '] declarations))

end HtmlTemplate.Style
