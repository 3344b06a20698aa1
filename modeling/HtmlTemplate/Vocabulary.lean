namespace HtmlTemplate.Vocabulary

def containerTags : List String := [
  "div", "span", "p", "header", "footer", "main", "section", "article",
  "h1", "h2", "h3", "h4", "h5", "h6", "strong", "em", "blockquote", "code", "pre",
  "ul", "ol", "li", "table", "thead", "tbody", "tr", "th", "td", "a"]

def voidTags : List String := ["img", "br", "hr"]
def commentTag : String := "$comment"
def ifTag : String := "$if"

inductive TagKind where
  | container
  | void
  | comment
  | conditional
deriving DecidableEq, Repr

def TagKind.of (tag : String) : TagKind :=
  if tag = ifTag then .conditional
  else if tag = commentTag then .comment
  else if tag ∈ voidTags then .void
  else .container

def isElement (tag : String) : Bool := tag ∈ containerTags || tag ∈ voidTags
def isAllowedTag (tag : String) : Bool := isElement tag || tag = commentTag || tag = ifTag

def globalAttributes : List String := ["id", "class", "style", "title", "role"]
def globalLeads : List String := ["data-", "aria-"]

def tagAttributes (tag : String) : List String :=
  if tag = "a" then ["href", "target", "rel"]
  else if tag = "img" then ["src", "alt", "width", "height"]
  else if tag = "table" then ["summary"]
  else if tag = "th" || tag = "td" then ["scope", "colspan", "rowspan"]
  else if tag = "blockquote" then ["cite"]
  else []

def styleAttribute : String := "style"
def urlAttributes : List String := ["href", "src", "cite"]
def safeSchemes : List String := ["http", "https", "mailto", "tel"]

def childrenKey : String := "$children"
def bindKey : String := "$bind"
def filterKey : String := "$filter"
def checkKey : String := "$check"
def thenKey : String := "$then"
def elseKey : String := "$else"
def notKey : String := "$not"
def joinKey : String := "$join"

-- Path segments that are never followed, besides all that begin with `__`.
def blockedNames : List String := ["constructor", "__proto__", "prototype"]

def blockContainer : String × List (String × String) :=
  ("div", [("style", "contain: content; isolation: isolate;"), ("data-treebark-container", "true")])
def shadowHost : String × List (String × String) := ("div", [("data-treebark-shadow", "true")])
def shadowRoot : String × List (String × String) := ("template", [("shadowrootmode", "open")])

end HtmlTemplate.Vocabulary
