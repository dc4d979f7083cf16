namespace PegParser.Text

def blanks (n : Nat) : String :=
  String.ofList (List.replicate n ' ')

def padRight (width : Nat) (text : String) : String :=
  text ++ blanks (width - text.length)

def padLeft (width : Nat) (text : String) : String :=
  blanks (width - text.length) ++ text

end PegParser.Text
