import PegParser.CommandLine.Run
import PegParser.Proofs.CommandLine.Arguments
import PegParser.Proofs.Grammar.Document
import PegParser.Proofs.Parse.Bounds

namespace PegParser

namespace Grammar

variable [RegexEngine] {path text : String} {content : FileContent} {g : Grammar}

end Grammar

namespace CommandLine

-- What is to be seen of a parse that the library has done: the exit code, the output and what the
-- program itself writes to the error output.
inductive Shows (colored : Bool) :
    Format → Bool → Except GrammarError (Outcome × ErrorStack) → Nat → String → String → Prop
  | tree {showErrors tree errors} :
    Shows colored .tree showErrors (.ok (.parsed tree, errors)) 0 (tree.listing.render colored) ""
  | json {showErrors tree errors} :
    Shows colored .json showErrors (.ok (.parsed tree, errors)) 0 tree.toJson.listing ""
  | stackTree {e errors} :
    Shows colored .tree true (.ok (.rejected e, errors)) 1 "" (errors.listing.render colored)
  | stackJson {e errors} :
    Shows colored .json true (.ok (.rejected e, errors)) 1 "" errors.toJson.listing
  | rejected {format e errors} : Shows colored format false (.ok (.rejected e, errors)) 1 "" ""
  | noGrammar {format showErrors e} : Shows colored format showErrors (.error e) 1 "" ""

section Spec

variable (env : Surroundings)

inductive Gives (text : String) : InputSource → Prop
  | text : Gives text (.text text)
  | file {path} : env.contentOf path = some text.toUTF8 → Gives text (.file path)
  | standardInput : env.standardInput = text.toUTF8 → Gives text .standardInput

end Spec

section

variable {env : Surroundings} {args : List String} {source : InputSource}
variable {grammar text : String} {content : FileContent} {format : Format}
variable {complete showErrors colored : Bool} {r : Except GrammarError (Outcome × ErrorStack)}

theorem Shows.unique {exitCode exitCode' : Nat} {output output' errorOutput errorOutput' : String}
    (h : Shows colored format showErrors r exitCode output errorOutput)
    (h' : Shows colored format showErrors r exitCode' output' errorOutput') :
    exitCode = exitCode' ∧ output = output' ∧ errorOutput = errorOutput' := by
  cases h <;> cases h' <;> simp

variable [RegexEngine]

end

end CommandLine
end PegParser
