import HtmlTemplate.Source.Node
namespace HtmlTemplate.Source.Yaml

-- YAML 1.2 without anchors, tags, directives and merge keys.

def isAdmitted (c : Char) : Bool :=
  let n := c.toNat
  n = 9 || n = 10 || n = 13 || (0x20 ≤ n && n ≤ 0x7e) || n = 0x85 || (0xa0 ≤ n && n ≠ 0xfffe && n ≠ 0xffff)

def unifyBreaks : List Char → List Char
  | '\r' :: '\n' :: s => '\n' :: unifyBreaks s
  | c :: s => (if c = '\r' || c = '\u0085' then '\n' else c) :: unifyBreaks s
  | [] => []

def dropByteOrderMark (s : List Char) : List Char := if s.head? = some '\ufeff' then s.drop 1 else s

def document? (s : List Char) : Option Node :=
  if s.all isAdmitted then (tokens? (unifyBreaks (dropByteOrderMark s))).bind Node.document? else none

def read (s : List Char) : Except Fault Value :=
  match document? s with
  | some node => node.value?
  | none => .error .malformed

end HtmlTemplate.Source.Yaml
