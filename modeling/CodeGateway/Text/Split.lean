namespace CodeGateway.Text

def splitAt (separator : Char) : List Char → List (List Char)
  | [] => [[]]
  | c :: rest =>
    if c == separator then [] :: splitAt separator rest
    else
      match splitAt separator rest with
      | first :: more => (c :: first) :: more
      | [] => [[c]]

def joinWith (separator : Char) : List (List Char) → List Char
  | [] => []
  | [part] => part
  | part :: rest => part ++ separator :: joinWith separator rest

end CodeGateway.Text
