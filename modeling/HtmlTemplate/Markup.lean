import HtmlTemplate.Comment
import HtmlTemplate.Escape.Basic
import HtmlTemplate.Event
namespace HtmlTemplate.Markup

def attributes (pairs : List (String × String)) : List Char :=
  pairs.flatMap fun pair =>
    ' ' :: pair.1.toList ++ ['=', '"'] ++ Escape.html pair.2.toList ++ ['"']

def startTag (tag : String) (pairs : List (String × String)) : List Char :=
  '<' :: tag.toList ++ attributes pairs ++ ['>']
def endTag (tag : String) : List Char := ['<', '/'] ++ tag.toList ++ ['>']

structure Line where
  level : Int
  html : List Char

inductive Opener where
  | element (tag : String) (pairs : List (String × String))
  | comment

structure Frame where
  opener : Opener
  depth : Int
  lines : List Line := []

def margin (indent : List Char) (level : Int) : List Char :=
  (List.replicate level.toNat indent).flatten

-- A lone line without markup stays on the line of its element; otherwise every
-- line has its own.
def body (indent : List Char) (lines : List Line) : List Char :=
  let lines := lines.filter fun line => !line.html.isEmpty
  if indent.isEmpty then lines.flatMap (·.html)
  else
    match lines with
    | [] => []
    | [line] =>
      if line.html.contains '<' then '\n' :: margin indent line.level ++ line.html ++ ['\n'] else line.html
    | lines =>
      '\n' :: Chars.joinWith ['\n'] (lines.map fun line => margin indent line.level ++ line.html) ++ ['\n']

def Frame.close (indent : List Char) (frame : Frame) : Line :=
  let inner := body indent frame.lines
  let last := if !indent.isEmpty && inner.head? = some '\n' then margin indent frame.depth else []
  match frame.opener with
  | .element tag pairs => ⟨frame.depth, startTag tag pairs ++ inner ++ last ++ endTag tag⟩
  | .comment => ⟨frame.depth, "<!--".toList ++ Comment.breakDashes inner ++ last ++ "-->".toList⟩

def textLines (indent : List Char) (isTop : Bool) (depth : Int) (html : List Char) : List Line :=
  if html.isEmpty then []
  else if !indent.isEmpty && !isTop && html.contains '\n' && !html.contains '<' then
    (Chars.splitOn '\n' html).map fun line => ⟨depth, line⟩
  else [⟨depth, html⟩]

structure State where
  lines : List Line := []
  frames : List Frame := []

def State.add (state : State) (added : List Line) : State :=
  match state.frames with
  | [] => { state with lines := state.lines ++ added }
  | frame :: rest => { state with frames := { frame with lines := frame.lines ++ added } :: rest }

def State.pop (indent : List Char) (state : State) : State :=
  match state.frames with
  | [] => state
  | frame :: rest => State.add { state with frames := rest } [frame.close indent]

def step (indent : List Char) (state : State) : Event → State
  | .text depth html => state.add (textLines indent state.frames.isEmpty depth html.toList)
  | .openTag depth tag pairs true => state.add [⟨depth, startTag tag pairs⟩]
  | .openTag depth tag pairs false => { state with frames := ⟨.element tag pairs, depth, []⟩ :: state.frames }
  | .openComment depth => { state with frames := ⟨.comment, depth, []⟩ :: state.frames }
  | .closeTag _ _ | .closeComment _ => state.pop indent

-- What is still open at the end is not written.
def format (indent : List Char) (events : List Event) : List Char :=
  let lines := (events.foldl (step indent) {}).lines.filter fun line => !line.html.isEmpty
  Chars.joinWith (if indent.isEmpty then [] else ['\n']) (lines.map (·.html))

def render (indent : Option String) (events : List Event) : String :=
  String.ofList (format ((indent.map String.toList).getD []) events)

end HtmlTemplate.Markup
