import HtmlTemplate.Source.Scalar
import HtmlTemplate.Source.Token
import HtmlTemplate.Value.Key
namespace HtmlTemplate.Source

inductive Node where
  | plain (body : List Char)
  | literal (body : List Char)
  | sequence (items : List Node)
  | mapping (entries : List (Node × Node))

namespace Node

def empty : Node := .plain []

def endsEntry : List Token → Bool
  | .entry :: _ | .key :: _ | .content :: _ | .blockEnd :: _ => true
  | _ => false

def endsPart : List Token → Bool
  | .key :: _ | .content :: _ | .blockEnd :: _ | .comma :: _ | .flowSequenceEnd :: _
  | .flowMappingEnd :: _ => true
  | _ => false

-- Every call takes a token or is made by one that took one, and at most three are
-- made for a token; the budget of `document?` is never spent.
mutual
-- `hanging` admits hyphens at the column of the mapping around them.
def read (hanging : Bool) : (budget : Nat) → List Token → Option (Node × List Token)
  | 0, _ => none
  | budget + 1, tokens =>
    match tokens with
    | .plain body :: rest => some (.plain body, rest)
    | .literal body :: rest => some (.literal body, rest)
    | .flowSequence :: rest => (readFlowItems budget rest).map fun (items, rest) => (.sequence items, rest)
    | .flowMapping :: rest => (readFlowEntries budget rest).map fun (entries, rest) => (.mapping entries, rest)
    | .sequenceStart :: rest => do
      let (items, rest) ← readItems budget rest
      match rest with
      | .blockEnd :: rest => some (.sequence items, rest)
      | _ => none
    | .mappingStart :: rest => (readEntries budget rest).map fun (entries, rest) => (.mapping entries, rest)
    | .entry :: _ =>
      if hanging then (readItems budget tokens).map fun (items, rest) => (.sequence items, rest) else none
    | _ => none
termination_by structural budget => budget
def readItems : (budget : Nat) → List Token → Option (List Node × List Token)
  | 0, _ => none
  | budget + 1, tokens =>
    match tokens with
    | .entry :: rest => do
      let (item, rest) ← if endsEntry rest then some (empty, rest) else read false budget rest
      let (items, rest) ← readItems budget rest
      some (item :: items, rest)
    | _ => some ([], tokens)
termination_by structural budget => budget
def readPair (hanging : Bool) : (budget : Nat) → List Token → Option ((Node × Node) × List Token)
  | 0, _ => none
  | budget + 1, tokens => do
    let (name, rest) ← if endsPart tokens then some (empty, tokens) else read hanging budget tokens
    match rest with
    | .content :: rest =>
      let (content, rest) ← if endsPart rest then some (empty, rest) else read hanging budget rest
      some ((name, content), rest)
    | _ => some ((name, empty), rest)
termination_by structural budget => budget
def readEntries : (budget : Nat) → List Token → Option (List (Node × Node) × List Token)
  | 0, _ => none
  | budget + 1, tokens =>
    match tokens with
    | .blockEnd :: rest => some ([], rest)
    | .key :: rest | rest@(.content :: _) => do
      let (entry, rest) ← readPair true budget rest
      let (entries, rest) ← readEntries budget rest
      some (entry :: entries, rest)
    | _ => none
termination_by structural budget => budget
def readFlowItems : (budget : Nat) → List Token → Option (List Node × List Token)
  | 0, _ => none
  | budget + 1, tokens =>
    match tokens with
    | .flowSequenceEnd :: rest => some ([], rest)
    | _ => do
      let (item, rest) ← (match tokens with
        | .key :: rest => (readPair false budget rest).map fun (entry, rest) => (.mapping [entry], rest)
        | _ => read false budget tokens)
      match rest with
      | .comma :: rest =>
        let (items, rest) ← readFlowItems budget rest
        some (item :: items, rest)
      | .flowSequenceEnd :: rest => some ([item], rest)
      | _ => none
termination_by structural budget => budget
def readFlowEntries : (budget : Nat) → List Token → Option (List (Node × Node) × List Token)
  | 0, _ => none
  | budget + 1, tokens =>
    match tokens with
    | .flowMappingEnd :: rest => some ([], rest)
    | _ => do
      let (entry, rest) ← (match tokens with
        | .key :: rest | rest@(.content :: _) => readPair false budget rest
        | _ => (read false budget tokens).map fun (name, rest) => ((name, empty), rest))
      match rest with
      | .comma :: rest =>
        let (entries, rest) ← readFlowEntries budget rest
        some (entry :: entries, rest)
      | .flowMappingEnd :: rest => some ([entry], rest)
      | _ => none
termination_by structural budget => budget
end

def document? (tokens : List Token) : Option Node := do
  let (node, rest) ← (match tokens with
    | [] => some (empty, [])
    | .documentStart :: rest =>
      match rest with
      | [] | .documentStart :: _ | .documentEnd :: _ => some (empty, rest)
      | _ => read false (4 * tokens.length) rest
    | _ => read false (4 * tokens.length) tokens)
  match rest with
  | [] | [.documentEnd] => some node
  | _ => none

def asKey (node : Node) (v : Value) : Value :=
  match node, v with
  | .plain ['='], _ => .text "="
  | _, .sequence _ _ items => Value.ofTuple items
  | _, v => v

-- What a node is worth. Where it has a fault, any value does.
mutual
def value : Node → Value
  | .plain body => (scalar body).toOption.getD .null
  | .literal body => .text (String.ofList body)
  | .sequence items => Value.ofItems (values items)
  | .mapping entries => Value.ofEntries (entryValues entries)
termination_by structural node => node
def values : List Node → List Value
  | [] => []
  | node :: nodes => value node :: values nodes
termination_by structural nodes => nodes
def entryValues : List (Node × Node) → List (Value × Value)
  | [] => []
  | (name, node) :: entries => (asKey name (value name), value node) :: entryValues entries
termination_by structural entries => entries
end

def containerName? : Node → Option String
  | .sequence _ => some "list"
  | .mapping _ => some "dict"
  | .plain _ | .literal _ => none

def keyFault? : Node → Option Fault
  | .mapping _ => some .malformed
  | _ => none

-- A sequence that holds a container is found out when the key is looked for.
def entryFault? (seen : List Value) (name : Node) (key : Value) : Option Fault :=
  match name with
  | .sequence items =>
    match items.findSome? containerName? with
    | some kindName => some (.nestedKey kindName)
    | none => if seen.any (Value.sameKey key) then some .malformed else none
  | _ => if seen.any (Value.sameKey key) then some .malformed else none

-- A collection is looked into after all that is less deep; one in a key at once.
mutual
def faults (atOnce : Bool) (depth : Nat) : Node → List (Nat × Fault)
  | .plain body =>
    match scalar body with
    | .error fault => [(depth, fault)]
    | .ok _ => []
  | .literal _ => []
  | .sequence items => itemFaults atOnce (if atOnce then depth else depth + 1) items
  | .mapping entries => entryFaults atOnce (if atOnce then depth else depth + 1) [] entries
termination_by structural node => node
def itemFaults (atOnce : Bool) (depth : Nat) : List Node → List (Nat × Fault)
  | [] => []
  | node :: nodes => faults atOnce depth node ++ itemFaults atOnce depth nodes
termination_by structural nodes => nodes
def entryFaults (atOnce : Bool) (depth : Nat) (seen : List Value) :
    List (Node × Node) → List (Nat × Fault)
  | [] => []
  | (name, node) :: entries =>
    let key := asKey name (value name)
    let inName := match name with
      | .plain ['='] => []
      | _ => faults true depth name
    inName ++ (keyFault? name).toList.map (depth, ·) ++ faults atOnce depth node ++
      (entryFault? seen name key).toList.map (depth, ·) ++ entryFaults atOnce depth (key :: seen) entries
termination_by structural entries => entries
end

def leastDeep? : List (Nat × Fault) → Option (Nat × Fault)
  | [] => none
  | found :: more =>
    match leastDeep? more with
    | some other => if other.1 < found.1 then some other else some found
    | none => some found

def value? (node : Node) : Except Fault Value :=
  match leastDeep? (faults false 0 node) with
  | some (_, fault) => .error fault
  | none => .ok node.value

end Node
end HtmlTemplate.Source
