import HtmlTemplate.Json.Reader
import HtmlTemplate.Source.Yaml
import HtmlTemplate.Template
namespace HtmlTemplate

mutual
def Json.toValue : Json → Value
  | .null => .null
  | .bool b => .bool b
  | .int n => .int n
  | .float x => .float x
  | .text s => .text s
  | .array items => Value.ofItems (Json.itemValues items)
  | .object members => Value.ofEntries (Json.memberValues members)
termination_by structural j => j
def Json.itemValues : List Json → List Value
  | [] => []
  | item :: items => Json.toValue item :: Json.itemValues items
termination_by structural items => items
def Json.memberValues : List (String × Json) → List (Value × Value)
  | [] => []
  | (name, item) :: members => (.text name, Json.toValue item) :: Json.memberValues members
termination_by structural members => members
end

namespace Source

def Fault.failure? : Fault → Option Failure
  | .malformed => none
  | .numeral error => some (.numeral error)
  | .nestedKey kindName => some (.nestedKey kindName)

-- Text is read as YAML and, where it is malformed, as JSON.
def readText (text : String) : Except Failure Value :=
  match Yaml.read text.toList with
  | .ok v => .ok v
  | .error fault =>
    match fault.failure?, Json.read text.toList with
    | some failure, _ => .error failure
    | none, some json => .ok json.toValue
    | none, none => .error (.problem .unreadableSource)

def parse (next : Nat) (text : String) : Except Failure Value :=
  if text.toList.all Blank.isBlank then .error (.problem .emptySource)
  else
    match readText text with
    | .error failure => .error failure
    | .ok .null | .ok (.text "") => .error (.problem .emptySource)
    | .ok v => .ok (v.identify next).1

-- What both mappings have comes from the block.
def merge (fresh : Nat) (defaults own : Value) : Value :=
  match own, defaults.entries?, own.entries? with
  | .null, _, _ => defaults
  | _, some base, some added => .mapping fresh (Value.putAll base added)
  | _, _, _ => own

def load (text : String) (data : Value) : Except Failure Input :=
  match parse data.freshIdentity text with
  | .error failure => .error failure
  | .ok v =>
    match v.get? Input.templateKey with
    | some template =>
      let fresh := max data.freshIdentity v.freshIdentity
      .ok ⟨template, merge fresh data ((v.get? Input.dataKey).getD .null)⟩
    | none => .ok ⟨v, data⟩

def banner (problem : Problem) : String :=
  "<div class=\"treebark-error\"><strong>Treebark Error:</strong> " ++
    onChars Escape.html problem.message ++ "</div>"

-- A block with a problem is shown as such before the options are looked at.
def renderBlock [Stack] (text : String) (data : Value) (options : Except OptionsError Options)
    (fallback : Option Path.Fallback) : Except OptionsError (Run String) :=
  match load text data with
  | .error (.problem problem) => .ok (pure (banner problem))
  | .error failure => .ok (.fail failure)
  | .ok input => options.map fun options => input.markup options fallback

end Source
end HtmlTemplate
