import PegParser.CommandLine.Run

namespace PegParser.CommandLine

def readFile (path : String) : IO FileContent := do
  try
    return some (← IO.FS.readBinFile path)
  catch _ =>
    return none

partial def readAll (stream : IO.FS.Stream) (done : ByteArray) : IO ByteArray := do
  let bytes ← stream.read 65536
  if bytes.isEmpty then return done else readAll stream (done ++ bytes)

def report (failure : Failure) : String :=
  let d := failure.diagnostic
  "Error: " ++ d.message ++ "\n  code: " ++ d.code ++ "\n" ++
    match d.help with
    | some help => "  help: " ++ help ++ "\n"
    | none => ""

def surroundings (request : Option Request) : IO Surroundings := do
  let paths := (request.map Request.paths).getD []
  let contents ← paths.mapM fun path => do return (path, ← readFile path)
  let stdin ← IO.getStdin
  let readsInput := request.any Request.readsStandardInput
  return {
    contentOf := fun path => (contents.lookup path).join
    standardInput := ← if readsInput then readAll stdin .empty else pure .empty
    colored := ← (← IO.getStdout).isTty
  }

end PegParser.CommandLine

open PegParser.CommandLine in
def main (args : List String) : IO UInt32 := do
  let request := (Invocation.ofArgs args).toOption.map (·.request)
  let result := run (← surroundings request) args
  IO.print result.output
  IO.eprint (result.errorOutput ++ (result.failure.map report).getD "")
  return result.exitCode.toUInt32
