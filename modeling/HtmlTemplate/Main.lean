import HtmlTemplate.CommandLine.Program
namespace HtmlTemplate.CommandLine

def reasonOf : IO.Error → String
  | .noFileOrDirectory _ _ _ => "[Errno 2] No such file or directory"
  | .permissionDenied _ _ _ => "[Errno 13] Permission denied"
  | _ => "[Errno 21] Is a directory"

def fetch (path : String) : IO (String × Except String String) := do
  try
    let text ← IO.FS.readFile path
    pure (path, .ok text)
  catch error => pure (path, .error (reasonOf error))

def fetchAll (argv : List String) : IO Files := do
  let paths := match parse argv with
    | .error _ => []
    | .ok arguments => (arguments.template.map plainPath).toList ++ arguments.data.toList
  let texts ← paths.mapM fetch
  pure fun path => (texts.lookup path).getD (.error "[Errno 2] No such file or directory")

end HtmlTemplate.CommandLine

def main (argv : List String) : IO UInt32 := do
  let files ← HtmlTemplate.CommandLine.fetchAll argv
  match HtmlTemplate.CommandLine.run files argv with
  | .ok result =>
    IO.print result.output
    IO.eprint result.errors
    pure result.code.toUInt32
  | .error failure =>
    IO.eprintln failure.message
    pure 1
