import HtmlTemplate.Json.Basic
import HtmlTemplate.Binary64.Reader
import HtmlTemplate.Text.Digit
import HtmlTemplate.Text.Surrogate
namespace HtmlTemplate.Json

def isSpace (c : Char) : Bool := c = ' ' || c = '\t' || c = '\n' || c = '\r'
def skip (s : List Char) : List Char := s.dropWhile isSpace

def simpleEscape? (c : Char) : Option Nat :=
  match c with
  | '"' | '\\' | '/' => some c.toNat
  | 'b' => some 8
  | 'f' => some 12
  | 'n' => some 10
  | 'r' => some 13
  | 't' => some 9
  | _ => none

def readUnits : List Char → Option (List Nat × List Char)
  | [] => none
  | '"' :: rest => some ([], rest)
  | '\\' :: 'u' :: a :: b :: c :: d :: rest => do
    let n ← Surrogate.hexNumber? [a, b, c, d]
    let (units, rest) ← readUnits rest
    some (n :: units, rest)
  | '\\' :: c :: rest => do
    let n ← simpleEscape? c
    let (units, rest) ← readUnits rest
    some (n :: units, rest)
  | c :: rest =>
    if c.toNat < 0x20 || c = '\\' then none
    else do
      let (units, rest) ← readUnits rest
      some (c.toNat :: units, rest)

def readText (s : List Char) : Option (String × List Char) :=
  (readUnits s).map fun (units, rest) => (String.ofList (Surrogate.combine units), rest)

def readNumber (s : List Char) : Option (Json × List Char) :=
  let (negative, body) := match s with
    | '-' :: rest => (true, rest)
    | s => (false, s)
  let (run, _) := Binary64.digitRun body
  let whole := if run.head? = some 0 then [0] else run
  let rest := body.drop whole.length
  if whole.isEmpty then none
  else
    let (fraction, rest) := match rest with
      | '.' :: more =>
        let (digits, after) := Binary64.digitRun more
        if digits.isEmpty then ([], rest) else (digits, after)
      | _ => ([], rest)
    let (power?, rest) := match rest with
      | c :: more =>
        if c = 'e' || c = 'E' then
          let (down, more) := Binary64.readSign more
          let (digits, after) := Binary64.digitRun more
          if digits.isEmpty then (none, rest)
          else (some (Binary64.signed down (Binary64.natural digits)), after)
        else (none, rest)
      | [] => (none, rest)
    match fraction, power? with
    | [], none =>
      if Digit.numeralLimit < whole.length then none
      else some (.int (Binary64.signed negative (Binary64.natural whole)), rest)
    | _, _ =>
      some (.float (Binary64.ofDecimal negative (Binary64.natural (whole ++ fraction))
        (power?.getD 0 - fraction.length)), rest)

def words : List (List Char × Json) := [
  ("null".toList, .null), ("true".toList, .bool true), ("false".toList, .bool false),
  ("NaN".toList, .float .nan), ("Infinity".toList, .float (.infinite false)),
  ("-Infinity".toList, .float (.infinite true))]

def readWord (s : List Char) : Option (Json × List Char) :=
  words.findSome? fun (word, json) => (Chars.dropLead word s).map fun rest => (json, rest)

-- Every call reads a character or has read one since the caller did, so a budget
-- of twice the length is never spent.
mutual
def readValue : (budget : Nat) → List Char → Option (Json × List Char)
  | 0, _ => none
  | budget + 1, s =>
    match s with
    | '"' :: rest => (readText rest).map fun (content, rest) => (.text content, rest)
    | '[' :: rest =>
      match skip rest with
      | ']' :: after => some (.array [], after)
      | rest => (readItems budget rest).map fun (items, rest) => (.array items, rest)
    | '\x7b' :: rest =>
      match skip rest with
      | '\x7d' :: after => some (.object [], after)
      | rest => (readMembers budget rest).map fun (members, rest) => (ofMembers members, rest)
    | s => readWord s <|> readNumber s
def readItems : (budget : Nat) → List Char → Option (List Json × List Char)
  | 0, _ => none
  | budget + 1, s => do
    let (item, rest) ← readValue budget s
    match skip rest with
    | ',' :: more =>
      let (items, rest) ← readItems budget (skip more)
      some (item :: items, rest)
    | ']' :: rest => some ([item], rest)
    | _ => none
def readMembers : (budget : Nat) → List Char → Option (List (String × Json) × List Char)
  | 0, _ => none
  | budget + 1, s =>
    match s with
    | '"' :: rest => do
      let (name, rest) ← readText rest
      match skip rest with
      | ':' :: more =>
        let (item, rest) ← readValue budget (skip more)
        match skip rest with
        | ',' :: more =>
          let (members, rest) ← readMembers budget (skip more)
          some ((name, item) :: members, rest)
        | '\x7d' :: rest => some ([(name, item)], rest)
        | _ => none
      | _ => none
    | _ => none
end

def read (s : List Char) : Option Json := do
  let (json, rest) ← readValue (2 * s.length + 2) (skip s)
  if (skip rest).isEmpty then some json else none

end HtmlTemplate.Json
