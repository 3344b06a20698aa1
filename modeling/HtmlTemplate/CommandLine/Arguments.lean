import HtmlTemplate.Text.Blank
import HtmlTemplate.Text.Digit
import HtmlTemplate.Text.Quoted
namespace HtmlTemplate.CommandLine

-- Flags may stand anywhere before `--`, and long ones may be shortened.

inductive Flag where
  | help
  | version
  | data
  | indent
  | blockContainer
  | shadowDom
  | dom
  | verbose
deriving DecidableEq, Repr

namespace Flag

def spellings : List (String × Flag) := [
  ("-h", .help), ("--help", .help), ("--version", .version), ("--data", .data), ("--indent", .indent),
  ("--block-container", .blockContainer), ("--shadow-dom", .shadowDom), ("--dom", .dom),
  ("-v", .verbose), ("--verbose", .verbose)]

def takesValue (flag : Flag) : Bool := flag = .data || flag = .indent

def name (flag : Flag) : String :=
  String.ofList (Chars.joinWith ['/'] ((spellings.filter (·.2 = flag)).map (·.1.toList)))

end Flag

inductive Indent where
  | spaces (n : Int)
  | tab
deriving DecidableEq, Repr

structure Arguments where
  template : Option String := none
  data : Option String := none
  indent : Option Indent := none
  blockContainer : Bool := false
  shadowDom : Bool := false
  dom : Bool := false
  verbose : Bool := false

inductive Stop where
  | help
  | version
  | usage (message : String)
deriving DecidableEq, Repr

inductive Reading where
  | positional
  | separator
  | flag (flag : Flag) (value : Option String)
  | cluster (flag : Flag) (letters : List Char)
  | unknown
deriving DecidableEq, Repr

def isNegativeNumber : List Char → Bool
  | '-' :: s =>
    let whole := s.takeWhile fun c => (Digit.decimalValue? c).isSome
    match s.drop whole.length with
    | [] => !whole.isEmpty
    | '.' :: fraction => !fraction.isEmpty && fraction.all fun c => (Digit.decimalValue? c).isSome
    | _ => false
  | _ => false

def splitValue (s : List Char) : List Char × Option (List Char) :=
  let name := s.takeWhile (· ≠ '=')
  (name, if name.length < s.length then some (s.drop (name.length + 1)) else none)

def candidates (s : List Char) : List (String × Reading) :=
  Flag.spellings.filterMap fun (spelling, flag) =>
    if Chars.beginsWith ['-', '-'] s then
      let (name, value) := splitValue s
      if Chars.beginsWith name spelling.toList then some (spelling, .flag flag (value.map String.ofList))
      else none
    else if spelling.toList = s.take 2 then some (spelling, .cluster flag (s.drop 2))
    else none

def read (argument : String) : Except Stop Reading :=
  let s := argument.toList
  let (name, value) := splitValue s
  if s.head? ≠ some '-' then .ok .positional
  else if let some flag := Flag.spellings.lookup argument then .ok (.flag flag none)
  else if s.length = 1 then .ok .positional
  else
    match value, Flag.spellings.lookup (String.ofList name) with
    | some value, some flag => .ok (.flag flag (some (String.ofList value)))
    | _, _ =>
      match candidates s with
      | [(_, reading)] => .ok reading
      | [] =>
        if isNegativeNumber s || s.contains ' ' then .ok .positional else .ok .unknown
      | several =>
        .error (.usage ("ambiguous option: " ++ argument ++ " could match " ++
          String.ofList (Chars.joinWith [',', ' '] (several.map (·.1.toList)))))

def readAll : List String → Except Stop (List (String × Reading))
  | [] => .ok []
  | argument :: rest =>
    if argument = "--" then .ok ((argument, .separator) :: rest.map fun other => (other, .positional))
    else do
      let reading ← read argument
      let readings ← readAll rest
      .ok ((argument, reading) :: readings)

def complaint (flag : Flag) (what : String) : Stop := .usage ("argument " ++ flag.name ++ ": " ++ what)

def integer? (s : List Char) : Option Int :=
  let (negative, body) := match Blank.trim s with
    | '-' :: rest => (true, rest)
    | '+' :: rest => (false, rest)
    | rest => (false, rest)
  let groups := Chars.splitOn '_' body
  let digits := groups.flatten
  if groups.any List.isEmpty || Digit.numeralLimit < digits.length ||
      !digits.all fun c => (Digit.decimalValue? c).isSome then none
  else
    let n : Int := Digit.valueOf (digits.filterMap Digit.decimalValue?)
    some (if negative then -n else n)

def indentOf (value : String) : Except Stop Indent :=
  if value = "tab" then .ok .tab
  else
    match integer? value.toList with
    | some n => .ok (.spaces n)
    | none =>
      .error (complaint .indent ("expected a number of spaces or 'tab', got " ++
        String.ofList (Quoted.quote value.toList)))

def withValue (flag : Flag) (value : String) (arguments : Arguments) : Except Stop Arguments :=
  match flag with
  | .indent => (indentOf value).map fun indent => { arguments with indent := some indent }
  | _ => .ok { arguments with data := some value }

def withFlag (flag : Flag) (arguments : Arguments) : Except Stop Arguments :=
  match flag with
  | .help => .error .help
  | .version => .error .version
  | .blockContainer => .ok { arguments with blockContainer := true }
  | .shadowDom => .ok { arguments with shadowDom := true }
  | .dom => .ok { arguments with dom := true }
  | .verbose => .ok { arguments with verbose := true }
  | .data | .indent => .ok arguments

def unwanted (flag : Flag) (value : List Char) : Stop :=
  complaint flag ("ignored explicit argument " ++ String.ofList (Quoted.quote value))

def cluster (flag : Flag) : (letters : List Char) → Except Stop (List Flag × List Char)
  | [] => .ok ([flag], [])
  | letter :: rest =>
    if letter = '=' then .error (unwanted flag rest)
    else if letter = '-' then .error (unwanted flag (letter :: rest))
    else
      match Flag.spellings.lookup (String.ofList ['-', letter]) with
      | some next => (cluster next rest).map fun (flags, left) => (flag :: flags, left)
      | none => .ok ([flag], '-' :: letter :: rest)

def isFlagReading : Reading → Bool
  | .flag _ _ | .cluster _ _ | .unknown => true
  | .positional | .separator => false

def takeTemplate (readings : List (String × Reading)) : Option (String × List (String × Reading)) :=
  match readings with
  | (_, .separator) :: (name, .positional) :: rest => some (name, rest)
  | (name, .positional) :: (_, .separator) :: rest => some (name, rest)
  | (name, .positional) :: rest => some (name, rest)
  | _ => none

structure Progress where
  arguments : Arguments
  extras : List String
  rest : List (String × Reading)

def takeFlag (arguments : Arguments) (extras : List String) :
    List (String × Reading) → Except Stop Progress
  | (_, .flag flag none) :: rest =>
    if flag.takesValue then
      match rest with
      | (value, .positional) :: rest => (withValue flag value arguments).map (⟨·, extras, rest⟩)
      | _ => .error (complaint flag "expected one argument")
    else (withFlag flag arguments).map (⟨·, extras, rest⟩)
  | (_, .flag flag (some value)) :: rest =>
    if flag.takesValue then (withValue flag value arguments).map (⟨·, extras, rest⟩)
    else .error (unwanted flag value.toList)
  | (_, .cluster flag letters) :: rest => do
    let (flags, left) ← cluster flag letters
    let arguments ← flags.foldlM (fun arguments flag => withFlag flag arguments) arguments
    .ok ⟨arguments, if left.isEmpty then extras else extras ++ [String.ofList left], rest⟩
  | (argument, _) :: rest => .ok ⟨arguments, extras ++ [argument], rest⟩
  | [] => .ok ⟨arguments, extras, []⟩

-- Each turn takes a reading at least, so their number bounds the turns.
def gather : (turns : Nat) → Progress → Except Stop Progress
  | 0, progress => .ok progress
  | turns + 1, ⟨arguments, extras, rest⟩ =>
    let found := if arguments.template.isSome then none else takeTemplate rest
    if !rest.any fun r => isFlagReading r.2 then
      match found with
      | some (name, rest) => .ok ⟨{ arguments with template := some name }, extras ++ rest.map (·.1), []⟩
      | none => .ok ⟨arguments, extras ++ rest.map (·.1), []⟩
    else
      match found with
      | some (name, rest) => gather turns ⟨{ arguments with template := some name }, extras, rest⟩
      | none =>
        let passed := rest.takeWhile fun r => !isFlagReading r.2
        match takeFlag arguments (extras ++ passed.map (·.1)) (rest.drop passed.length) with
        | .error stop => .error stop
        | .ok progress => gather turns progress

def parse (argv : List String) : Except Stop Arguments := do
  let readings ← readAll argv
  let progress ← gather (readings.length + 1) ⟨{}, [], readings⟩
  if progress.arguments.template.isNone then
    .error (.usage "the following arguments are required: template")
  else if !progress.extras.isEmpty then
    .error (.usage ("unrecognized arguments: " ++
      String.ofList (Chars.joinWith [' '] (progress.extras.map String.toList))))
  else .ok progress.arguments

end HtmlTemplate.CommandLine
