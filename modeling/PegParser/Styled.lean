namespace PegParser

inductive Color
  | green
  | yellow
  | cyan
deriving DecidableEq, Repr

def Color.digit : Color → String
  | green => "2"
  | yellow => "3"
  | cyan => "6"

inductive Piece
  | text (content : String)
  -- From here on the text has a colour.
  | color (c : Color) (bold : Bool)
  -- From here on the text is plain.
  | reset
deriving DecidableEq, Repr

abbrev Styled := List Piece

def Piece.resetCode : String := "\x1b[0m"

def Piece.render (colored : Bool) : Piece → String
  | text content => content
  | color c bold =>
    if colored then
      resetCode ++ (if bold then "\x1b[1m" else "") ++ "\x1b[3" ++ c.digit ++ "m"
    else
      ""
  | reset => if colored then resetCode else ""

def Styled.render (colored : Bool) (pieces : Styled) : String :=
  String.join (pieces.map (Piece.render colored))

end PegParser
