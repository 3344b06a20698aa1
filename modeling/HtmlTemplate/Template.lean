import HtmlTemplate.Dom
import HtmlTemplate.Options
namespace HtmlTemplate

structure Input where
  template : Value
  data : Value := .null

namespace Input

variable [Stack]

def templateKey : String := "template"
def dataKey : String := "data"

def ofValue (v : Value) : Input :=
  match v.get? templateKey with
  | some template => ⟨template, (v.get? dataKey).getD .null⟩
  | none => ⟨v, .null⟩

def events (input : Input) (settings : Render.Settings) : Run (List Event) :=
  Render.document settings input.template input.data

def markup (input : Input) (options : Options) (fallback : Option Path.Fallback) : Run String := do
  pure (Markup.render options.indentUnit (← input.events (options.settings fallback)))

-- A tree carries no formatting, so the indent unit plays no part.
def tree (input : Input) (names : Escape.Names) (options : Options) (fallback : Option Path.Fallback) :
    Run (List Dom.Node) := do
  pure (Dom.ofEvents names (← input.events (options.settings fallback)))

def session (settings : Render.Settings) (before : List Entry) :
    List Input → Run (List (List Event × List Entry))
  | [] => pure []
  | input :: inputs =>
    let run := input.events settings
    run.bind fun events =>
      (session settings (before ++ run.journal) inputs).bind fun rest =>
        pure ((events, before ++ run.journal) :: rest)

end Input
end HtmlTemplate
