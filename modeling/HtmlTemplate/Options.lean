import HtmlTemplate.Render
namespace HtmlTemplate

-- What is no number, truth value or text where one is expected counts by whether it is empty.
structure Options where
  indent : Value := .null
  blockContainer : Value := .bool false
  shadowDom : Value := .bool false
  maxDepth : Value := .int 128

structure OptionsError where
  kindName : String
deriving DecidableEq, Repr

def OptionsError.message (error : OptionsError) : String :=
  "options must be RenderOptions, a mapping or None, got " ++ error.kindName

namespace Options

def set (options : Options) (name : String) (v : Value) : Options :=
  if name = "indent" then { options with indent := v }
  else if name = "use_block_container" then { options with blockContainer := v }
  else if name = "use_shadow_dom" then { options with shadowDom := v }
  else if name = "max_depth" then { options with maxDepth := v }
  else options

def setAll (options : Options) (overrides : List (String × Value)) : Options :=
  overrides.foldl (fun options override => options.set override.1 override.2) options

def ofValue (v : Value) : Except OptionsError Options :=
  match v, v.entries? with
  | .null, _ => .ok {}
  | _, some entries =>
    .ok (setAll {} (entries.filterMap fun e =>
      match e.1 with
      | .text name => some (name, e.2)
      | _ => none))
  | _, none => .error ⟨v.kindName⟩

def isOn : Value → Bool
  | .null | .missing => false
  | .bool b => b
  | .int n => n ≠ 0
  | .float x => !Number.eq (.float x) (.int 0)
  | .text s => s ≠ ""
  | .sequence _ _ items => !items.isEmpty
  | .mapping _ entries => !entries.isEmpty
  | .foreign _ _ | .enclosing _ => true

def indentUnit (options : Options) : Option String :=
  match options.indent with
  | .bool true => some "  "
  | .int n => if 0 < n then some (String.ofList (List.replicate n.toNat ' ')) else none
  | .text s => if s = "" then none else some s
  | _ => none

def depthLimit (options : Options) : Int :=
  match options.maxDepth with
  | .int n => n
  | .bool b => if b then 1 else 0
  | _ => 128

def settings (options : Options) (fallback : Option Path.Fallback) : Render.Settings where
  fallback := fallback
  maxDepth := options.depthLimit
  blockContainer := isOn options.blockContainer
  shadowDom := isOn options.shadowDom

end Options
end HtmlTemplate
