import HtmlTemplate.Binary64.Basic
namespace HtmlTemplate

-- A tuple can be a key, and only a list is a template node.
inductive Shape where
  | list
  | tuple
deriving DecidableEq, Repr

-- Containers and foreign objects have an identity: two containers written apart differ
-- even when their contents agree. The empty tuple alone has identity 0.
-- `enclosing n` stands for the n-th container around it, the innermost being the first.
inductive Value where
  | null
  | bool (b : Bool)
  | int (n : Int)
  | float (x : Binary64)
  | text (s : String)
  | missing
  | foreign (identity : Nat) (label : String)
  | sequence (shape : Shape) (identity : Nat) (items : List Value)
  | mapping (identity : Nat) (entries : List (Value × Value))
  | enclosing (up : Nat)
deriving Repr

instance : Inhabited Value := ⟨.null⟩

namespace Value

-- `close whole level v` puts `whole` wherever `v` refers to it.
mutual
def close (whole : Value) (level : Nat) : Value → Value
  | .sequence shape identity items => .sequence shape identity (closeItems whole (level + 1) items)
  | .mapping identity entries => .mapping identity (closeEntries whole (level + 1) entries)
  | .enclosing up => if up = level then whole else .enclosing up
  | .null => .null
  | .bool b => .bool b
  | .int n => .int n
  | .float x => .float x
  | .text s => .text s
  | .missing => .missing
  | .foreign identity label => .foreign identity label
termination_by structural v => v
def closeItems (whole : Value) (level : Nat) : List Value → List Value
  | [] => []
  | v :: vs => close whole level v :: closeItems whole level vs
termination_by structural vs => vs
def closeEntries (whole : Value) (level : Nat) : List (Value × Value) → List (Value × Value)
  | [] => []
  | (key, v) :: es => (key, close whole level v) :: closeEntries whole level es
termination_by structural es => es
end

def items? : Value → Option (List Value)
  | .sequence shape identity items => some (closeItems (.sequence shape identity items) 1 items)
  | _ => none

def entries? : Value → Option (List (Value × Value))
  | .mapping identity entries => some (closeEntries (.mapping identity entries) 1 entries)
  | _ => none

def isSequence (v : Value) : Bool := v.items?.isSome
def isMapping (v : Value) : Bool := v.entries?.isSome

def listItems? : Value → Option (List Value)
  | .sequence .list identity items => items? (.sequence .list identity items)
  | _ => none

def entry? (entries : List (Value × Value)) (isKey : Value → Bool) : Option Value :=
  (entries.find? fun e => isKey e.1).map (·.2)

def isText (s : String) : Value → Bool
  | .text t => t == s
  | _ => false

def find? (entries : List (Value × Value)) (key : String) : Option Value := entry? entries (isText key)

def get? (v : Value) (key : String) : Option Value := v.entries?.bind fun entries => find? entries key

-- A natural number finds any key that is numerically equal to it: an integer, an
-- integral float, or a truth value standing for 0 or 1.
def isIndex (n : Nat) : Value → Bool
  | .int m => m == n
  | .float x => Number.eq (.float x) (.int n)
  | .bool b => (if b then 1 else 0) == n
  | _ => false

def number? : Value → Option Number
  | .int n => some (.int n)
  | .float x => some (.float x)
  | _ => none

def isNumber (v : Value) : Bool := v.number?.isSome

def isMissing : Value → Bool
  | .missing => true
  | _ => false

mutual
def freshIdentity : Value → Nat
  | .foreign identity _ => identity + 1
  | .sequence _ identity items => max (identity + 1) (freshInItems items)
  | .mapping identity entries => max (identity + 1) (freshInEntries entries)
  | .null | .bool _ | .int _ | .float _ | .text _ | .missing | .enclosing _ => 1
termination_by structural v => v
def freshInItems : List Value → Nat
  | [] => 1
  | v :: vs => max (freshIdentity v) (freshInItems vs)
termination_by structural vs => vs
def freshInEntries : List (Value × Value) → Nat
  | [] => 1
  | (key, v) :: es => max (max (freshIdentity key) (freshIdentity v)) (freshInEntries es)
termination_by structural es => es
end

mutual
def identify (next : Nat) : Value → Value × Nat
  | .foreign _ label => (.foreign next label, next + 1)
  | .sequence .tuple _ [] => (.sequence .tuple 0 [], next)
  | .sequence shape _ items =>
    let (items, after) := identifyItems (next + 1) items
    (.sequence shape next items, after)
  | .mapping _ entries =>
    let (entries, after) := identifyEntries (next + 1) entries
    (.mapping next entries, after)
  | .null => (.null, next)
  | .bool b => (.bool b, next)
  | .int n => (.int n, next)
  | .float x => (.float x, next)
  | .text s => (.text s, next)
  | .missing => (.missing, next)
  | .enclosing up => (.enclosing up, next)
termination_by structural v => v
def identifyItems (next : Nat) : List Value → List Value × Nat
  | [] => ([], next)
  | v :: vs =>
    let (v, next) := identify next v
    let (vs, next) := identifyItems next vs
    (v :: vs, next)
termination_by structural vs => vs
def identifyEntries (next : Nat) : List (Value × Value) → List (Value × Value) × Nat
  | [] => ([], next)
  | (key, v) :: es =>
    let (key, next) := identify next key
    let (v, next) := identify next v
    let (es, next) := identifyEntries next es
    ((key, v) :: es, next)
termination_by structural es => es
end

def ofItems (items : List Value) : Value := .sequence .list 0 items
def ofTuple (items : List Value) : Value := .sequence .tuple 0 items
def ofEntries (entries : List (Value × Value)) : Value := .mapping 0 entries

end Value
end HtmlTemplate
