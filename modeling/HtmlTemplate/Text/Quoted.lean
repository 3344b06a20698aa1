import HtmlTemplate.Text.Printable
namespace HtmlTemplate.Quoted

-- Single quotes are used unless the text has a single quote and no double quote.

def quoteFor (s : List Char) : Char :=
  if s.contains '\'' && !s.contains '"' then '"' else '\''

def escapeChar (quote c : Char) : List Char :=
  if c = quote || c = '\\' then ['\\', c]
  else if c = '\t' then ['\\', 't']
  else if c = '\n' then ['\\', 'n']
  else if c = '\r' then ['\\', 'r']
  else if Printable.isPrintable c then [c]
  else if c.toNat < 0x100 then '\\' :: 'x' :: Chars.hex 2 c.toNat
  else if c.toNat < 0x10000 then '\\' :: 'u' :: Chars.hex 4 c.toNat
  else '\\' :: 'U' :: Chars.hex 8 c.toNat

def quote (s : List Char) : List Char :=
  let q := quoteFor s
  q :: s.flatMap (escapeChar q) ++ [q]

end HtmlTemplate.Quoted
