import HtmlTemplate.Value.Basic
import HtmlTemplate.Binary64.Shortest
import HtmlTemplate.Text.Quoted
import HtmlTemplate.Writing
namespace HtmlTemplate.Value

def kindName : Value → String
  | .null => "NoneType"
  | .bool _ => "bool"
  | .int _ => "int"
  | .float _ => "float"
  | .text _ => "str"
  | .missing => "_Undefined"
  | .foreign _ _ => "Opaque"
  | .sequence .list _ _ => "list"
  | .sequence .tuple _ _ => "tuple"
  | .mapping _ _ => "dict"
  | .enclosing _ => "list"

def sequenceRecurrence : Shape → List Char
  | .list => "[...]".toList
  | .tuple => "(...)".toList

def mappingRecurrence : List Char := ['\x7b', '.', '.', '.', '\x7d']

def separate (pieces : List (List Char)) : List Char := Chars.joinWith [',', ' '] pieces

def bracket : Shape → List (List Char) → List Char
  | .list, pieces => '[' :: separate pieces ++ [']']
  | .tuple, [piece] => '(' :: piece ++ [',', ')']
  | .tuple, pieces => '(' :: separate pieces ++ [')']

-- `active` lists the containers being written, each with the text for its recurrence.
mutual
def inspectIn (room : Nat) (active : List (Nat × List Char)) : Value → Except Unwritten (List Char)
  | .null => .ok "None".toList
  | .bool b => .ok (if b then "True" else "False").toList
  | .int n => Digit.write n
  | .float x => .ok x.text
  | .text s => .ok (Quoted.quote s.toList)
  | .missing => .ok "Undefined".toList
  | .foreign _ label => .ok ("<Opaque ".toList ++ label.toList ++ ['>'])
  | .sequence shape identity items =>
    if active.any (·.1 == identity) then .ok (sequenceRecurrence shape)
    else
      match room with
      | 0 => .error .tooDeep
      | room + 1 => (inspectItems room ((identity, sequenceRecurrence shape) :: active) items).map (bracket shape)
  | .mapping identity entries =>
    if active.any (·.1 == identity) then .ok mappingRecurrence
    else
      match room with
      | 0 => .error .tooDeep
      | room + 1 =>
        (inspectEntries room ((identity, mappingRecurrence) :: active) entries).map fun pieces =>
          '\x7b' :: separate pieces ++ ['\x7d']
  | .enclosing up => .ok ((active[up - 1]?.map (·.2)).getD [])
termination_by structural v => v
def inspectItems (room : Nat) (active : List (Nat × List Char)) :
    List Value → Except Unwritten (List (List Char))
  | [] => .ok []
  | v :: vs => do
    let piece ← inspectIn room active v
    let pieces ← inspectItems room active vs
    pure (piece :: pieces)
termination_by structural vs => vs
def inspectEntries (room : Nat) (active : List (Nat × List Char)) :
    List (Value × Value) → Except Unwritten (List (List Char))
  | [] => .ok []
  | (key, v) :: es => do
    let name ← inspectIn room active key
    let piece ← inspectIn room active v
    let pieces ← inspectEntries room active es
    pure ((name ++ ':' :: ' ' :: piece) :: pieces)
termination_by structural es => es
end

def inspect [Stack] (v : Value) : Except Unwritten String :=
  (inspectIn Stack.showing [] v).map String.ofList

def display [Stack] : Value → Except Unwritten String
  | .text s => .ok s
  | .missing => .ok ""
  | .foreign _ label => .ok label
  | v => inspect v

end HtmlTemplate.Value
