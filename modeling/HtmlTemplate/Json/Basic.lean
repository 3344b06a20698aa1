import HtmlTemplate.Binary64.Shortest
import HtmlTemplate.Writing
namespace HtmlTemplate

inductive Json where
  | null
  | bool (b : Bool)
  | int (n : Int)
  | float (x : Binary64)
  | text (s : String)
  | array (items : List Json)
  | object (members : List (String × Json))
deriving Repr

namespace Json

def escapeChar (c : Char) : List Char :=
  if c = '"' then ['\\', '"']
  else if c = '\\' then ['\\', '\\']
  else if c = '\n' then ['\\', 'n']
  else if c = '\r' then ['\\', 'r']
  else if c = '\t' then ['\\', 't']
  else if c = '\x0c' then ['\\', 'f']
  else if c = '\x08' then ['\\', 'b']
  else if c.toNat < 0x20 then '\\' :: 'u' :: Chars.hex 4 c.toNat
  else [c]

def quote (s : List Char) : List Char := '"' :: s.flatMap escapeChar ++ ['"']

mutual
def chars : Json → List Char
  | .null => "null".toList
  | .bool b => (if b then "true" else "false").toList
  | .int n => Chars.signed n
  | .float x => x.jsonText
  | .text s => quote s.toList
  | .array items => '[' :: Chars.joinWith [','] (itemChars items) ++ [']']
  | .object members => '\x7b' :: Chars.joinWith [','] (memberChars members) ++ ['\x7d']
termination_by structural j => j
def itemChars : List Json → List (List Char)
  | [] => []
  | item :: items => chars item :: itemChars items
termination_by structural items => items
def memberChars : List (String × Json) → List (List Char)
  | [] => []
  | (name, item) :: members => (quote name.toList ++ ':' :: chars item) :: memberChars members
termination_by structural members => members
end

mutual
def isShort : Json → Bool
  | .int n => Digit.isShort n
  | .array items => itemsShort items
  | .object members => membersShort members
  | .null | .bool _ | .float _ | .text _ => true
termination_by structural j => j
def itemsShort : List Json → Bool
  | [] => true
  | item :: items => isShort item && itemsShort items
termination_by structural items => items
def membersShort : List (String × Json) → Bool
  | [] => true
  | (_, item) :: members => isShort item && membersShort members
termination_by structural members => members
end

def write (json : Json) : Except Unwritten String :=
  if json.isShort then .ok (String.ofList json.chars) else .error .tooLong

-- The first place and the last content of a name that is given more than once.
def put (members : List (String × Json)) (name : String) (item : Json) : List (String × Json) :=
  match members with
  | [] => [(name, item)]
  | (other, was) :: rest =>
    if other = name then (other, item) :: rest else (other, was) :: put rest name item

def ofMembers (members : List (String × Json)) : Json :=
  .object (members.foldl (fun ms m => put ms m.1 m.2) [])

end Json
end HtmlTemplate
