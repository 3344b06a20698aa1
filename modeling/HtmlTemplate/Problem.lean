import HtmlTemplate.Text.Digit
import HtmlTemplate.Text.Quoted
namespace HtmlTemplate

-- A fatal problem empties its node; with a warning the element still renders.
inductive Severity where
  | fatal
  | warning
deriving DecidableEq, Repr

namespace Problem

inductive Kind where
  | general
  | node
  | source
  | tag
  | nestedComment
  | conditional
  | binding
  | style
  | depth
  | fallback
  | warning
  | attribute
  | url
  | declaration
  | blocked
  | ignored
deriving DecidableEq, Repr

namespace Kind

def severity : Kind → Severity
  | .warning | .attribute | .url | .declaration | .blocked | .ignored => .warning
  | .general | .node | .source | .tag | .nestedComment | .conditional | .binding | .style | .depth
  | .fallback => .fatal

def code : Kind → String
  | .general | .node | .warning => "TB-TPL-001"
  | .source => "TB-TPL-002"
  | .nestedComment => "TB-TPL-003"
  | .ignored => "TB-TPL-004"
  | .tag => "TB-SEC-001"
  | .attribute => "TB-SEC-002"
  | .url => "TB-SEC-003"
  | .blocked => "TB-SEC-004"
  | .conditional => "TB-CND-001"
  | .binding => "TB-BND-001"
  | .style => "TB-STY-001"
  | .declaration => "TB-STY-002"
  | .depth => "TB-RUN-001"
  | .fallback => "TB-RUN-002"

def category : Kind → String
  | .general | .node | .warning | .source | .nestedComment | .ignored => "template"
  | .tag | .attribute | .url | .blocked => "security"
  | .conditional => "conditional"
  | .binding => "binding"
  | .style | .declaration => "style"
  | .depth | .fallback => "runtime"

end Kind
end Problem

structure Problem where
  kind : Problem.Kind
  message : String
  hint : Option String := none
deriving DecidableEq, Repr

namespace Problem

def severity (p : Problem) : Severity := p.kind.severity
def isFatal (p : Problem) : Bool := p.severity = .fatal

def compact (p : Problem) : String :=
  p.kind.code ++ ": " ++ p.message ++
    match p.hint with
    | none | some "" => ""
    | some hint => "\n  Hint: " ++ hint

def unsupportedNode (kindName : String) : Problem :=
  ⟨.node, "Unsupported template node of type " ++ kindName, none⟩
def tagKeyCount (n : Nat) : Problem :=
  ⟨.node, "Tag object must have exactly one key (the tag name), got " ++ String.ofList (Chars.decimal n),
    some "Wrap siblings in a list: [\x7b\"h1\": \"...\"\x7d, \x7b\"p\": \"...\"\x7d]"⟩
def tagNameNotText (shown : String) : Problem :=
  ⟨.node, "Tag name must be a string, got " ++ shown, none⟩
def unsupportedTagValue (tag kindName : String) : Problem :=
  ⟨.node, "Tag \"" ++ tag ++ "\" has an unsupported value of type " ++ kindName, none⟩
def childrenNotList (kindName : String) : Problem :=
  ⟨.node, "\"$children\" must be a list of nodes, got " ++ kindName, none⟩

def emptySource : Problem := ⟨.source, "Empty or invalid template", none⟩
def unreadableSource : Problem :=
  ⟨.source, "Failed to parse as YAML or JSON. YAML error: ...", none⟩
def unreadableFile (role path reason : String) : Problem :=
  ⟨.source, "Cannot read " ++ role ++ " file " ++ path ++ ": " ++ reason ++ ": " ++
    String.ofList (Quoted.quote path.toList), none⟩

def tagNotAllowed (tag : String) : Problem :=
  ⟨.tag, "Tag \"" ++ tag ++ "\" is not allowed",
    some "Allowed tags are listed in treebark.tags.ALLOWED_TAGS"⟩
def attributeNotAllowed (name tag : String) : Problem :=
  ⟨.attribute, "Attribute \"" ++ name ++ "\" is not allowed on tag \"" ++ tag ++ "\"",
    some "Use a data-* attribute for custom values"⟩
def unsafeUrl (name scheme : String) : Problem :=
  ⟨.url, "Attribute \"" ++ name ++ "\" uses blocked protocol \"" ++ scheme ++ ":\"",
    some "Only http, https, mailto, tel and relative URLs are allowed"⟩
def blockedProperty (segment path : String) : Problem :=
  ⟨.blocked, "Access to property \"" ++ segment ++ "\" is blocked (in \"" ++ path ++ "\")", none⟩
def nestedComment : Problem := ⟨.nestedComment, "Nested comments are not allowed", none⟩

def styleNotMapping (kindName : String) : Problem :=
  ⟨.style, "\"style\" must be a mapping of CSS properties, got " ++ kindName,
    some "Write style as \x7b\"color\": \"red\", \"font-size\": \"14px\"\x7d"⟩
def badPropertyName (name : String) : Problem :=
  ⟨.declaration, "CSS property \"" ++ name ++ "\" is not a valid property name", none⟩
def badPropertyValue (name : String) : Problem :=
  ⟨.declaration, "CSS value for \"" ++ name ++ "\" must be a string or a number", none⟩
def truncatedValue (name : String) : Problem :=
  ⟨.declaration, "CSS value for \"" ++ name ++ "\" was truncated at \";\"", none⟩
def blockedValue (name pattern : String) : Problem :=
  ⟨.declaration, "CSS value for \"" ++ name ++ "\" contains blocked pattern \"" ++ pattern ++ "\"", none⟩

def pathKind (key : String) : Kind := if key = "$bind" then .binding else .conditional
def pathNotText (key shown : String) : Problem :=
  ⟨pathKind key, key ++ " must be a non-empty property path string, got " ++ shown, none⟩
def pathToParent (key path : String) : Problem :=
  ⟨pathKind key, key ++ " does not support parent context access (..) - use interpolation " ++
    "\x7b\x7b..prop\x7d\x7d in content/attributes instead. Invalid: " ++ key ++ ": \"" ++ path ++ "\"", none⟩
def pathWithMarker (key path : String) : Problem :=
  ⟨pathKind key, key ++ " does not support interpolation \x7b\x7b...\x7d\x7d - use literal property " ++
    "paths only. Invalid: " ++ key ++ ": \"" ++ path ++ "\"", none⟩

def ifWithoutCheck : Problem :=
  ⟨.conditional, "\"$if\" tag requires $check attribute to specify the condition",
    some "Add a data path, e.g. \x7b\"$if\": \x7b\"$check\": \"user.isAdmin\", \"$then\": ...\x7d\x7d"⟩
def listBranch (key : String) : Problem :=
  ⟨.conditional, "\"" ++ key ++ "\" must be a single node, not a list",
    some "Wrap several nodes in one container element"⟩
def missingCheck : Problem :=
  ⟨.conditional, "\"$check\" is required in conditional descriptors",
    some "Add a data path, e.g. \"$check\": \"user.isAdmin\""⟩
def badFilter : Problem :=
  ⟨.conditional, "\"$filter\" must be a conditional with a string \"$check\"",
    some "e.g. \"$filter\": \x7b\"$check\": \"price\", \"$<\": 500\x7d"⟩

def voidChildren (tag : String) : Problem :=
  ⟨.ignored, "Tag \"" ++ tag ++ "\" is a void element and cannot have children", none⟩
def filterWithoutBind (tag : String) : Problem :=
  ⟨.ignored, "\"$filter\" is ignored without \"$bind\" on tag \"" ++ tag ++ "\"", none⟩
def filterOnSingle (path : String) : Problem :=
  ⟨.ignored, "\"$filter\" is ignored because \"" ++ path ++ "\" is not a list", none⟩
def ifIgnoresKey (key : String) : Problem :=
  ⟨.ignored, "\"$if\" ignores \"" ++ key ++
    "\"; only $check, operators, $not, $join, $then and $else are supported", none⟩
def ifIgnoresChildren : Problem := ⟨.ignored, "\"$if\" ignores \"$children\"; use $then / $else", none⟩

def tooDeep (limit : String) : Problem :=
  ⟨.depth, "Maximum template depth exceeded (" ++ limit ++ ")",
    some "Flatten the template or raise RenderOptions.max_depth"⟩
def fallbackFailed (path reason : String) : Problem :=
  ⟨.fallback, "Property fallback failed for \"" ++ path ++ "\": " ++ reason, none⟩

end Problem

-- A numeral without a value is no problem of a node: it ends the whole run.
def Digit.NumeralError.message : Digit.NumeralError → String
  | .notDecimal segment =>
    "invalid literal for int() with base 10: " ++ String.ofList ((Quoted.quote segment.toList).take 200)
  | .noDigits base =>
    "invalid literal for int() with base " ++ String.ofList (Chars.decimal base) ++ ": ''"
  | .notFloat text =>
    "could not convert string to float: " ++ String.ofList (Quoted.quote text.toList)
  | .tooLong digits =>
    "Exceeds the limit (" ++ String.ofList (Chars.decimal Digit.numeralLimit) ++
      " digits) for integer string conversion: value has " ++ String.ofList (Chars.decimal digits) ++
      " digits; use sys.set_int_max_str_digits() to increase the limit"

end HtmlTemplate
