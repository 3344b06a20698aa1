import HtmlTemplate.Value.Identity
namespace HtmlTemplate.Value

-- Truth values count as 0 and 1, and numbers compare exactly whatever their kind.
def keyNumber? : Value → Option Number
  | .bool b => some (.int (if b then 1 else 0))
  | v => v.number?

mutual
def sameKey : Value → Value → Bool
  | .sequence .tuple _ xs, .sequence .tuple _ ys => sameKeys xs ys
  | v, w =>
    match v.keyNumber?, w.keyNumber? with
    | some x, some y => x.eq y
    | none, none => same v w
    | _, _ => false
termination_by structural v => v
def sameKeys : List Value → List Value → Bool
  | [], [] => true
  | v :: vs, w :: ws => sameKey v w && sameKeys vs ws
  | _, _ => false
termination_by structural vs => vs
end

-- A key that is there already keeps its place and its spelling.
def put (entries : List (Value × Value)) (key v : Value) : List (Value × Value) :=
  match entries with
  | [] => [(key, v)]
  | (other, w) :: rest =>
    if sameKey other key then (other, v) :: rest else (other, w) :: put rest key v

def putAll (entries added : List (Value × Value)) : List (Value × Value) :=
  added.foldl (fun es e => put es e.1 e.2) entries

def hasDuplicateKey : List (Value × Value) → Bool
  | [] => false
  | (key, _) :: rest => rest.any (fun e => sameKey key e.1) || hasDuplicateKey rest

mutual
def canBeKey : Value → Bool
  | .sequence .list _ _ | .mapping _ _ | .enclosing _ => false
  | .sequence .tuple _ items => canBeKeys items
  | .null | .bool _ | .int _ | .float _ | .text _ | .missing | .foreign _ _ => true
termination_by structural v => v
def canBeKeys : List Value → Bool
  | [] => true
  | v :: vs => canBeKey v && canBeKeys vs
termination_by structural vs => vs
end

end HtmlTemplate.Value
