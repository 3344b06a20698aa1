import HtmlTemplate.Attribute
import HtmlTemplate.Condition
import HtmlTemplate.Event
import HtmlTemplate.Marker
import HtmlTemplate.Style
import HtmlTemplate.TagNode
import HtmlTemplate.Url
namespace HtmlTemplate.Render

-- A node that fails loses its events, its problem is reported, and everything around
-- it goes on.

structure Settings where
  fallback : Option Path.Fallback := none
  maxDepth : Int := 128
  blockContainer : Bool := false
  shadowDom : Bool := false

structure Spot where
  scope : Scope
  depth : Int := 0
  inComment : Bool := false

abbrev Renderer := Spot → Value → Run (List Event)

variable [Stack]

def plainText (settings : Settings) (scope : Scope) : Value → Run String
  | .text s => Interpolation.inAttribute.apply settings.fallback scope s
  | v => Run.written v.stringify

def attributeText (settings : Settings) (scope : Scope) (name : String) (value : Value) :
    Run (Option String) := do
  let value ← match Condition.conditional? value with
    | some descriptor => Condition.choose settings.fallback scope descriptor
    | none => pure value
  if name = Vocabulary.styleAttribute then
    let text ← Style.sanitize (Interpolation.inAttribute.apply settings.fallback scope) value
    pure (if text = "" then none else some text)
  else
    let text ← plainText settings scope value
    if Attribute.isUrl name then
      let text ← Run.ofExcept .problem (Url.check name text)
      pure (some text)
    else pure (some text)

def pair (settings : Settings) (tag : String) (scope : Scope) (key value : Value) :
    Run (List (String × String)) :=
  Run.rescue (fun problem => problem.severity = .warning)
    (fun problem => do
      Run.report problem
      pure [])
    (do
      let name ← Run.ofExcept id (Attribute.check key tag)
      let text? ← attributeText settings scope name value
      pure (text?.map fun text => (name, text)).toList)

def attributes (settings : Settings) (tag : String) (scope : Scope) (entries : List (Value × Value)) :
    Run (List (String × String)) :=
  Run.collect (fun e => pair settings tag scope e.1 e.2) entries

-- A fatal problem in the attributes is reported after those of the children.
def element (settings : Settings) (node : TagNode) (scope : Scope) (depth : Int)
    (entries : List (Value × Value)) (children : List Event) : Run (List Event) := do
  let pairs ← attributes settings node.tag scope entries
  pure (match node.kind with
    | .comment => .openComment depth :: children ++ [.closeComment depth]
    | .void => [.openTag depth node.tag pairs true]
    | _ => .openTag depth node.tag pairs false :: children ++ [.closeTag depth node.tag])

def children (render : Renderer) (node : TagNode) (spot : Spot) (scope : Scope) : Run (List Event) :=
  Run.collect
    (render ⟨scope, spot.depth + 1, spot.inComment || node.kind = .comment⟩) node.children

def unknownKeys (node : TagNode) : List (Value × Value) :=
  node.attributes.filter fun e => !Condition.keys.any fun key => Value.isText key e.1

def listBranch? (node : TagNode) : Option String :=
  [Vocabulary.thenKey, Vocabulary.elseKey].find? fun key =>
    (node.attribute? key).any fun v => v.listItems?.isSome

def ignoreKey (entry : Value × Value) : Run Unit := do
  let shown ← Run.written entry.1.display
  Run.report (.ifIgnoresKey shown)

def conditional (settings : Settings) (render : Renderer) (node : TagNode) (spot : Spot) :
    Run (List Event) := do
  match node.attribute? Vocabulary.checkKey with
  | some (.text _) => pure ()
  | _ => Run.raise .ifWithoutCheck
  Run.each ignoreKey (unknownKeys node)
  unless node.children.isEmpty do
    Run.report .ifIgnoresChildren
  match listBranch? node with
  | some key => Run.raise (.listBranch key)
  | none => pure ()
  let holds ← Condition.check settings.fallback spot.scope node.attributes
  match node.attribute? (if holds then Vocabulary.thenKey else Vocabulary.elseKey) with
  | some branch => render spot branch
  | none => pure []

def filtered (settings : Settings) (scope : Scope) (filter : Option Value) (items : List Value) :
    Run (List Value) :=
  match filter with
  | none => pure items
  | some condition =>
    match Condition.conditional? condition with
    | none => Run.raise .badFilter
    | some descriptor =>
      Run.keep (fun item => Condition.check settings.fallback (scope.push item) descriptor) items

-- A sequence repeats the children, and the attributes still see the data around it.
def bound (settings : Settings) (render : Renderer) (node : TagNode) (spot : Spot) (binding : Value) :
    Run (List Event) := do
  let entries := node.without [Vocabulary.bindKey, Vocabulary.filterKey]
  let filter := node.attribute? Vocabulary.filterKey
  let path ← Path.checked Vocabulary.bindKey binding
  let data ← Path.resolve settings.fallback spot.scope (Blank.strip path)
  match data.items? with
  | none =>
    if filter.isSome then Run.report (.filterOnSingle path)
    let scope := spot.scope.push data
    let inner ← children render node spot scope
    element settings node scope spot.depth entries inner
  | some items =>
    let items ← filtered settings spot.scope filter items
    let inner ← Run.collect (fun item => children render node spot (spot.scope.push item)) items
    element settings node spot.scope spot.depth entries inner

def unbound (settings : Settings) (render : Renderer) (node : TagNode) (spot : Spot) : Run (List Event) := do
  if (node.attribute? Vocabulary.filterKey).isSome then
    Run.report (.filterWithoutBind node.tag)
  let inner ← children render node spot spot.scope
  element settings node spot.scope spot.depth (node.without [Vocabulary.filterKey]) inner

def tag (settings : Settings) (render : Renderer) (node : TagNode) (spot : Spot) : Run (List Event) := do
  if !Vocabulary.isAllowedTag node.tag then Run.raise (.tagNotAllowed node.tag)
  else if node.kind = .conditional then conditional settings render node spot
  else if node.kind = .comment && spot.inComment then Run.raise .nestedComment
  else
    if node.kind = .void && !node.children.isEmpty then
      Run.report (.voidChildren node.tag)
    let node := if node.kind = .void then { node with children := [] } else node
    match node.attribute? Vocabulary.bindKey with
    | some binding => bound settings render node spot binding
    | none => unbound settings render node spot

def step (settings : Settings) (render : Renderer) (spot : Spot) (node : Value) : Run (List Event) :=
  match node with
  | .text s => do
    let html ← Interpolation.inText.apply settings.fallback spot.scope s
    pure (if html = "" then [] else [.text spot.depth html])
  | .null => pure []
  | .bool _ | .int _ | .float _ => do
    let text ← Run.written node.stringify
    pure [.text spot.depth (onChars Escape.html text)]
  | _ =>
    match node.listItems?, node.entries? with
    | some items, _ => Run.collect (render spot) items
    | none, some entries => do
      let node ← Run.ofExcept id (TagNode.ofEntries entries)
      tag settings render node spot
    | none, none => Run.raise (.unsupportedNode node.kindName)

def isolate (depth : Int) (run : Run (List Event)) : Run (List Event) :=
  Run.rescue (fun _ => true)
    (fun problem => do
      Run.report problem
      Run.record (.dropped depth problem)
      pure [])
    run

-- `budget` is how many levels of nodes may still be entered.
def node (settings : Settings) : (budget : Nat) → Renderer
  | 0, spot, _ => isolate spot.depth (Run.raise (.tooDeep (String.ofList (Chars.signed settings.maxDepth))))
  | budget + 1, spot, template => isolate spot.depth (step settings (node settings budget) spot template)

def budget (settings : Settings) : Nat := (settings.maxDepth + 1).toNat

def bindsCurrent (template : Value) : Bool :=
  match template.entries? with
  | some [(_, content)] => (content.get? Vocabulary.bindKey).any (Value.isText ".")
  | _ => false

def root (settings : Settings) (template data : Value) : Run (List Event) :=
  let render := node settings (budget settings)
  match data.items? with
  | some items =>
    if template.isMapping && !bindsCurrent template then
      Run.collect (fun item => render ⟨⟨item, []⟩, 0, false⟩ template) items
    else render ⟨⟨data, []⟩, 0, false⟩ template
  | none => render ⟨⟨data, []⟩, 0, false⟩ template

def wrapped (settings : Settings) (events : List Event) : List Event :=
  let events :=
    if settings.shadowDom then Event.wrap Vocabulary.shadowHost (Event.wrap Vocabulary.shadowRoot events)
    else events
  if settings.blockContainer then Event.wrap Vocabulary.blockContainer events else events

def document (settings : Settings) (template data : Value) : Run (List Event) := do
  pure (wrapped settings (← root settings template data))

end HtmlTemplate.Render
