namespace RegexNfa.Text

def verdict : Bool → String
  | true => "true"
  | false => "false"

end RegexNfa.Text
