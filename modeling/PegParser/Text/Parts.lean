namespace PegParser.Text

def parts (mark : Char) : List Char → List (List Char)
  | [] => [[]]
  | c :: cs =>
    match parts mark cs with
    | [] => [[c]]
    | part :: rest => if c = mark then [] :: part :: rest else (c :: part) :: rest

def words (text : String) : List String :=
  ((parts ' ' text.toList).filter (!·.isEmpty)).map String.ofList

end PegParser.Text
