import HtmlTemplate.Json.Basic
import HtmlTemplate.Value.Basic
namespace HtmlTemplate.Value

def circular : Json := .text "[Circular]"

def floatChars (x : Binary64) : List Char :=
  match x.toInt? with
  | some n => Chars.signed n
  | none => x.text

def writeCopy : Except Unwritten Json → Except Unwritten String
  | .ok json => json.write
  | .error .tooDeep => .ok ""
  | .error .tooLong => .error .tooLong

def spell (v : Value) (copy : Except Unwritten Json) : Except Unwritten String :=
  match v with
  | .null | .missing => .ok ""
  | .text s => .ok s
  | .bool b => .ok (if b then "true" else "false")
  | .int n => (Digit.write n).map String.ofList
  | .float x => .ok (String.ofList (floatChars x))
  | .foreign _ label => .ok label
  | .sequence _ _ _ | .mapping _ _ | .enclosing _ => writeCopy copy

-- `active` holds the containers around the value: one that is met again is cut off there.
mutual
def toJson (room : Nat) (active : List Nat) : Value → Except Unwritten Json
  | .null => .ok .null
  | .bool b => .ok (.bool b)
  | .int n => .ok (.int n)
  | .float x => .ok (.float x)
  | .text s => .ok (.text s)
  | .missing => .ok (.text "")
  | .foreign _ label => .ok (.text label)
  | .sequence _ identity items =>
    if active.contains identity then .ok circular
    else
      match room with
      | 0 => .error .tooDeep
      | room + 1 => (itemsToJson room (identity :: active) items).map .array
  | .mapping identity entries =>
    if active.contains identity then .ok circular
    else
      match room with
      | 0 => .error .tooDeep
      | room + 1 => (entriesToJson room (identity :: active) entries).map Json.ofMembers
  | .enclosing _ => .ok circular
termination_by structural v => v
def itemsToJson (room : Nat) (active : List Nat) : List Value → Except Unwritten (List Json)
  | [] => .ok []
  | v :: vs => do
    let json ← toJson room active v
    let jsons ← itemsToJson room active vs
    pure (json :: jsons)
termination_by structural vs => vs
def entriesToJson (room : Nat) (active : List Nat) :
    List (Value × Value) → Except Unwritten (List (String × Json))
  | [] => .ok []
  | (key, v) :: es => do
    let name ← spell key (toJson room [] key)
    let json ← toJson room active v
    let members ← entriesToJson room active es
    pure ((name, json) :: members)
termination_by structural es => es
end

def stringify [Stack] (v : Value) : Except Unwritten String := v.spell (v.toJson Stack.copying [])

end HtmlTemplate.Value
