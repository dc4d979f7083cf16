import PegParser.Grammar.Document
import PegParser.Json.Reader
import PegParser.Text.Parts
import PegParser.Yaml

namespace PegParser

abbrev FileContent := Option ByteArray

namespace FileContent

def text? (content : FileContent) : Option String :=
  content.bind String.fromUTF8?

def refusal (content : FileContent) : String :=
  if content.isSome then "stream did not contain valid UTF-8" else "no such file"

end FileContent

namespace Grammar

variable [RegexEngine]

def ofJsonText (text : String) : Except GrammarError Grammar :=
  match Json.ofText? text with
  | some document => ofDocument document
  | none => .error (.undecodable "JSON" "no JSON text")

def ofYamlText (text : String) : Except GrammarError Grammar :=
  match Yaml.ofText? text with
  | some document => ofDocument document
  | none => .error (.undecodable "YAML" "no YAML text")

-- What follows the last dot of a name, unless the name starts with that dot.
def extension? (name : List Char) : Option String :=
  let extension := (name.reverse.takeWhile (· != '.')).reverse
  if extension.length + 1 < name.length && name != ['.', '.'] then
    some (String.ofList extension)
  else
    none

def fileName? (path : String) : Option (List Char) :=
  let parts := (Text.parts '/' path.toList).filter fun part => part != [] && part != ['.']
  parts.getLast?

def isYamlPath (path : String) : Bool :=
  match (fileName? path).bind extension? with
  | some extension => extension == "yaml" || extension == "yml"
  | none => false

def ofFile (path : String) (content : FileContent) : Except GrammarError Grammar :=
  match content.text? with
  | none => .error (.unreadable path content.refusal)
  | some text => if isYamlPath path then ofYamlText text else ofJsonText text

end Grammar
end PegParser
