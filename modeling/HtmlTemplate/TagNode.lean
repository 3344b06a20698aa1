import HtmlTemplate.Journal
import HtmlTemplate.Value.Display
import HtmlTemplate.Vocabulary
namespace HtmlTemplate

open Vocabulary (TagKind)

-- A tag object in its one normal form. For `$if` the attributes are the condition.
structure TagNode where
  tag : String
  kind : TagKind
  attributes : List (Value × Value)
  children : List Value

namespace TagNode

def childrenOf : Value → Except Problem (List Value)
  | .null => .ok []
  | .text s => .ok [.text s]
  | v =>
    match v.listItems? with
    | some items => .ok items
    | none => .error (.childrenNotList v.kindName)

def ofContent (tag : String) (content : Value) : Except Problem TagNode :=
  match content.entries? with
  | some entries =>
    let attributes := entries.filter fun e => !Value.isText Vocabulary.childrenKey e.1
    (childrenOf ((Value.find? entries Vocabulary.childrenKey).getD .null)).map fun children =>
      ⟨tag, .of tag, attributes, children⟩
  | none =>
    match content with
    | .null | .text _ | .sequence .list _ _ =>
      (childrenOf content).map fun children => ⟨tag, .of tag, [], children⟩
    | .bool _ | .int _ | .float _ => .ok ⟨tag, .of tag, [], [content]⟩
    | _ => .error (.unsupportedTagValue tag content.kindName)

def ofEntries [Stack] : List (Value × Value) → Except Failure TagNode
  | [(.text tag, content)] => (ofContent tag content).mapError .problem
  | [(key, _)] => .error (.showing key.inspect .tagNameNotText)
  | entries => .error (.problem (.tagKeyCount entries.length))

def attribute? (node : TagNode) (key : String) : Option Value := Value.find? node.attributes key

def without (node : TagNode) (keys : List String) : List (Value × Value) :=
  node.attributes.filter fun e => !keys.any fun key => Value.isText key e.1

end TagNode
end HtmlTemplate
