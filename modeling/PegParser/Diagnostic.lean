namespace PegParser

structure Label where
  text : String
  offset : Nat
  length : Nat
deriving DecidableEq, Repr

structure Source where
  name : Option String
  text : String
deriving DecidableEq, Repr

structure Diagnostic where
  message : String
  code : String
  help : Option String := none
  labels : Option (List Label) := none
  source : Option Source := none
deriving DecidableEq, Repr

end PegParser
