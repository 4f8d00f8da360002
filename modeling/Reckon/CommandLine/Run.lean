import Reckon.Batch
import Reckon.CommandLine.Arguments
import Reckon.CommandLine.Files

/-!
What a command line does. The level of logging is settled before anything is
read. A file wins over an expression, and without either the lines of the
standard input are answered.
-/

namespace Reckon.CommandLine

/-- The least rank that is logged, by the name of a level in upper case. -/
def levelRank? : String → Option Nat
  | "CRITICAL" | "FATAL" => some 50
  | "ERROR" => some 40
  | "WARNING" | "WARN" => some 30
  | "INFO" => some 20
  | "DEBUG" => some 10
  | "NOTSET" => some 0
  | _ => none

inductive Task where
  | help
  | misuse (error : UsageError)
  | noLevel
  | unknownLevel (name : String)
  | file (path : String) (least : Nat)
  | expression (text : String) (showTree : Bool)
  | session (showTree : Bool)
  deriving DecidableEq

/-- A file of no name is no file. -/
def Options.source (options : Options) (least : Nat) : Task :=
  match options.file.filter (· ≠ ""), options.expression with
  | some path, _ => .file path least
  | none, some text => .expression text options.showTree
  | none, none => .session options.showTree

def Options.task (options : Options) : Task :=
  match options.logLevel with
  | none => .noLevel
  | some name =>
      let level := Text.upper name
      match levelRank? level with
      | none => .unknownLevel level
      | some least => options.source least

def task (arguments : List String) : Task :=
  match parse arguments with
  | .error error => .misuse error
  | .ok .help => .help
  | .ok (.run options) => options.task

inductive Abort where
  | noLevel
  | unknownLevel (name : String)
  | unreadable (error : FileError)
  | undecodable (error : Text.Utf8.DecodeError)
  deriving DecidableEq

def Abort.message : Abort → String
  | .noLevel => "'list' object has no attribute 'upper'"
  | .unknownLevel name => "Unknown level: " ++ Text.quote name
  | .unreadable error => error.message
  | .undecodable error => error.message

def logLine (record : LogRecord) : String :=
  record.level.name ++ " " ++ record.source ++ ": " ++ record.message ++ "\n"

def fileReport (limits : Limits) (least : Nat) (content : List Char) : Output :=
  let rows := evaluateBatch limits ((Text.fileLines content).map String.ofList)
  let logged := (rows.map Row.record).filter fun record => least ≤ record.level.rank
  { status := if rows.any Row.failed then 1 else 0
    out := Report.text rows
    err := String.join (logged.map logLine) }

structure Surroundings where
  limits : Limits
  input : String
  terminal : Bool
  readFile : String → Except FileError Bytes

def perform (surroundings : Surroundings) : Task → Except Abort Output
  | .help => .ok ⟨0, help, ""⟩
  | .misuse error => .ok ⟨2, "", usageErrorText error⟩
  | .noLevel => .error .noLevel
  | .unknownLevel name => .error (.unknownLevel name)
  | .file path least => do
      let bytes ← (surroundings.readFile path).mapError .unreadable
      let content ← (Text.Utf8.decode bytes).mapError .undecodable
      return fileReport surroundings.limits least content
  | .expression text showTree => .ok (runOne surroundings.limits showTree text)
  | .session showTree =>
      .ok (session surroundings.limits surroundings.terminal showTree surroundings.input)

def run (surroundings : Surroundings) (arguments : List String) : Except Abort Output :=
  perform surroundings (task arguments)

end Reckon.CommandLine
