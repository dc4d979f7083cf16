import PegParser.CommandLine.Arguments
import PegParser.Proofs.Except
import PegParser.Proofs.List

namespace PegParser.CommandLine

-- What an argument says after a command, or two of them together.
inductive Item
  | option (opt : Opt) (value : String)
  | file (path : String)

inductive Spells : List String → Item → Prop
  | long {name opt value} :
    Opt.ofLongName? name = some opt → opt.takesValue → ¬isOptionLike value →
    Spells ["--" ++ name, value] (.option opt value)
  | attached {name opt value} :
    Opt.ofLongName? name = some opt → opt.takesValue →
    Spells ["--" ++ name ++ "=" ++ value] (.option opt value)
  | short {letter opt value} :
    Opt.ofLetter? letter = some opt → ¬isOptionLike value →
    Spells ["-" ++ letter.toString, value] (.option opt value)
  | flag {name opt} :
    Opt.ofLongName? name = some opt → ¬opt.takesValue → Spells ["--" ++ name] (.option opt "")
  | file {path} : path.toList.head? ≠ some '-' → Spells [path] (.file path)

inductive Says : List String → List Item → Prop
  | nil : Says [] []
  | cons {args rest item items} :
    Spells args item → Says rest items → Says (args ++ rest) (item :: items)

theorem Says.single {args : List String} {item : Item} (h : Spells args item) : Says args [item] :=
  args.append_nil ▸ cons h nil

theorem Says.append {args args' : List String} {items items' : List Item} (h : Says args items)
    (h' : Says args' items') : Says (args ++ args') (items ++ items') := by
  induction h
  case nil => exact h'
  case cons hs _ hi => exact List.append_assoc .. ▸ .cons hs hi

variable {g : Given} {args rest : List String} {item : Item} {items : List Item}

section Forms

variable {name value : String} {letter : Char} {opt : Opt}

end Forms

section Level

variable {verb : Option Verb} {arg value : String} {opt : Opt}
variable (hs : stopOf? verb (.ofArg arg) = none)

include hs

end Level

section Taken

variable {opt : Opt} {value path : String}

end Taken

def Format.name : Format → String
  | tree => "tree"
  | json => "json"

section Request

variable {grammar : String} {source : InputSource} {format : Format} {format? : Option String}
variable {complete showErrors : Bool} {name : String} {opt : Opt}

def InputSource.IsNamed : InputSource → Prop
  | file path => path ≠ "" ∧ path.toList.head? ≠ some '-'
  | _ => True

end Request
end PegParser.CommandLine
