import HtmlTemplate.Journal
import HtmlTemplate.Value.Display
import HtmlTemplate.Vocabulary
namespace HtmlTemplate.Attribute

def isAllowedName (name tag : String) : Bool :=
  tag ≠ Vocabulary.commentTag &&
    (name ∈ Vocabulary.globalAttributes ||
      Vocabulary.globalLeads.any (fun lead => Chars.beginsWith lead.toList name.toList) ||
      name ∈ Vocabulary.tagAttributes tag)

def isAllowed (name : Value) (tag : String) : Bool :=
  match name with
  | .text s => isAllowedName s tag
  | _ => false

def check [Stack] (name : Value) (tag : String) : Except Failure String :=
  match name with
  | .text s => if isAllowedName s tag then .ok s else .error (.problem (.attributeNotAllowed s tag))
  | _ => .error (.showing name.display (.attributeNotAllowed · tag))

def isUrl (name : String) : Bool := name ∈ Vocabulary.urlAttributes

end HtmlTemplate.Attribute
