import HtmlTemplate.Escape.Reference
import HtmlTemplate.Markup
import HtmlTemplate.Vocabulary
namespace HtmlTemplate.Dom

-- Events as a tree. A comment holds the compact markup of what is inside it.
inductive Node where
  | text (data : String)
  | comment (data : String)
  | element (tag : String) (attributes : List (String × String)) (children : List Node)
deriving Repr

def localName (name : String) : List Char :=
  match name.toList.dropWhile (· ≠ ':') with
  | ':' :: rest => rest
  | _ => name.toList

-- Another name with the same local name removes what was there.
def setAttribute (attributes : List (String × String)) (pair : String × String) : List (String × String) :=
  if attributes.any (·.1 == pair.1) then
    attributes.map fun old => if old.1 = pair.1 then pair else old
  else
    (attributes.filter fun old => localName old.1 ≠ localName pair.1) ++ [pair]

def setAttributes (pairs : List (String × String)) : List (String × String) := pairs.foldl setAttribute []

structure Frame where
  tag : String
  attributes : List (String × String)
  children : List Node := []

structure State where
  nodes : List Node := []
  frames : List Frame := []
  comment : Option (Int × List Event) := none

def State.add (state : State) (node : Node) : State :=
  match state.frames with
  | [] => { state with nodes := state.nodes ++ [node] }
  | frame :: rest => { state with frames := { frame with children := frame.children ++ [node] } :: rest }

def State.pop (state : State) : State :=
  match state.frames with
  | [] => state
  | frame :: rest => State.add { state with frames := rest } (.element frame.tag frame.attributes frame.children)

def commentNode (events : List Event) : Node :=
  .comment (String.ofList (Comment.breakDashes (Markup.format [] events)))

-- A comment ends at the first closing of its own depth, whatever is inside.
def step (names : Escape.Names) (state : State) (event : Event) : State :=
  match state.comment with
  | some (depth, collected) =>
    if event = .closeComment depth then State.add { state with comment := none } (commentNode collected)
    else { state with comment := some (depth, collected ++ [event]) }
  | none =>
    match event with
    | .openComment depth => { state with comment := some (depth, []) }
    | .openTag _ tag pairs true => state.add (.element tag (setAttributes pairs) [])
    | .openTag _ tag pairs false =>
      { state with frames := ⟨tag, setAttributes pairs, []⟩ :: state.frames }
    | .closeTag _ _ => state.pop
    | .text _ html => if html = "" then state else state.add (.text (onChars names.decode html))
    | .closeComment _ => state

-- Elements that are open at the end are part of the tree, an open comment is not.
def State.finish (state : State) : List Node :=
  let rec closeAll : List Frame → Option Node → List Node → List Node
    | [], none, nodes => nodes
    | [], some inner, nodes => nodes ++ [inner]
    | frame :: rest, inner, nodes =>
      closeAll rest (some (.element frame.tag frame.attributes (frame.children ++ inner.toList))) nodes
  closeAll state.frames none state.nodes

mutual
def normalizeNode : Node → Node
  | .text data => .text data
  | .comment data => .comment data
  | .element tag attributes children => .element tag attributes (normalize children)
termination_by structural node => node
def normalize : List Node → List Node
  | [] => []
  | .text data :: rest =>
    if data = "" then normalize rest
    else
      match normalize rest with
      | .text more :: rest => .text (data ++ more) :: rest
      | rest => .text data :: rest
  | node :: rest => normalizeNode node :: normalize rest
termination_by structural nodes => nodes
end

def ofEvents (names : Escape.Names) (events : List Event) : List Node :=
  normalize (events.foldl (step names) {}).finish

mutual
def nodeHtml : Node → List Char
  | .text data => Escape.html data.toList
  | .comment data => "<!--".toList ++ data.toList ++ "-->".toList
  | .element tag attributes children =>
    if tag ∈ Vocabulary.voidTags then Markup.startTag tag attributes
    else Markup.startTag tag attributes ++ html children ++ Markup.endTag tag
termination_by structural node => node
def html : List Node → List Char
  | [] => []
  | node :: rest => nodeHtml node ++ html rest
termination_by structural nodes => nodes
end

def toHtml (nodes : List Node) : String := String.ofList (html nodes)

end HtmlTemplate.Dom
