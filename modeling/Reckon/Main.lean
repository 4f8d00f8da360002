import Reckon.CommandLine.Run

/-!
The program. It gathers the surroundings of a run, performs it and prints what
it yields. A session at a terminal is answered line by line.
-/

namespace Reckon.CommandLine

/-- What the stack of a run is taken to have room for. -/
def room : Limits := ⟨490, 980⟩

def print (output : Output) : IO UInt32 := do
  let out ← IO.getStdout
  let err ← IO.getStderr
  out.putStr output.out
  out.flush
  err.putStr output.err
  return output.status.toUInt32

def fail (message : String) : IO UInt32 :=
  print ⟨1, "", message ++ "\n"⟩

/-- Answers one line at a time until the input ends or a line asks to leave. -/
partial def converse (terminal showTree : Bool) : IO UInt32 := do
  let out ← IO.getStdout
  out.putStr (prompt terminal)
  out.flush
  let line ← (← IO.getStdin).getLine
  if line.isEmpty || asksToLeave line.toList then return 0
  discard (print (answerLine room showTree line.toList))
  converse terminal showTree

def start (arguments : List String) : IO UInt32 := do
  match task arguments with
  | .session showTree => converse (← (← IO.getStdin).isTty) showTree
  | .file path least =>
      try
        let bytes ← IO.FS.readBinFile path
        match Text.Utf8.decode bytes.toList with
        | .ok content => print (fileReport room least content)
        | .error error => fail error.message
      catch error => fail (toString error)
  | task =>
      match perform ⟨room, "", false, fun path => .error (.blocked .notFound path)⟩ task with
      | .ok output => print output
      | .error abort => fail abort.message

end Reckon.CommandLine

def main (arguments : List String) : IO UInt32 :=
  Reckon.CommandLine.start arguments
