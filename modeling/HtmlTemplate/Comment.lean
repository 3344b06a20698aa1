namespace HtmlTemplate.Comment

def breakDashes : List Char → List Char
  | [] => []
  | '-' :: '-' :: s => '-' :: ' ' :: breakDashes ('-' :: s)
  | c :: s => c :: breakDashes s

end HtmlTemplate.Comment
