import QueryTree.CommandLine.Run

/-! # The program

Reads what a command needs, runs it and writes its report. The program makes no connections, so an
endpoint counts as unanswering. -/

namespace QueryTree.CommandLine

def contentOf (bytes : ByteArray) : FileContent :=
  match String.fromUTF8? bytes with
  | some text => .text text
  | none => .notText

/-- What stands at a path. -/
def readContent (path : String) : IO FileContent := do
  try
    return contentOf (← IO.FS.readBinFile path)
  catch error =>
    match error with
    | .noFileOrDirectory _ _ _ => return .absent
    | .inappropriateType _ _ _ => return .directory
    | _ => return .notText

/-- All that is left to read of the input. -/
partial def readInput (input : IO.FS.Stream) (bytes : ByteArray) : IO ByteArray := do
  let more ← input.read 65536
  if more.isEmpty then return bytes else readInput input (bytes ++ more)

def surroundings (arguments : List String) : IO Surroundings := do
  let headersPath := (← IO.getEnv "HOME").getD "" ++ "/" ++ Headers.fileName
  let path := treeFile? arguments
  let input ← if path == some "-" then readInput (← IO.getStdin) .empty else pure .empty
  let content ← match path with
    | none => pure FileContent.absent
    | some "-" => pure FileContent.absent
    | some path => readContent path
  return { environment := ← IO.getEnv Headers.environmentVariable
           headersPath
           headersFile := ← readContent headersPath
           file := fun _ => content
           input := contentOf input
           reply? := fun _ => none }

end QueryTree.CommandLine

open QueryTree.CommandLine in
def main (arguments : List String) : IO UInt32 := do
  let report := runArguments arguments (← surroundings arguments)
  IO.print report.output
  IO.eprint report.errors
  return UInt32.ofNat report.exitCode
