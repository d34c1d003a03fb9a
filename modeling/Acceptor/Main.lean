import Acceptor.Command.LogFilter
import Acceptor.Command.Session
import Acceptor.Command.Stamp
import Acceptor.Command.Usage
import Std.Time.DateTime.Timestamp

/-! The program: it gathers arguments, environment, file and input, lets the request be
carried out, and prints the report. A conversation is answered line by line. -/
namespace Acceptor.Program

open Command

def now : IO String := do
  let time ← Std.Time.Timestamp.now
  let nanoseconds := time.toNanosecondsSinceUnixEpoch.val.toNat
  pure (stamp (nanoseconds / 1000000000) (nanoseconds % 1000000000))

def readFile? (path : String) : IO (Option Text.Bytes) := do
  try
    let bytes ← IO.FS.readBinFile path
    pure (some bytes.data.toList)
  catch _ => pure none

/-- Up to and with the next line feed, or up to the end. -/
partial def readLine (source : IO.FS.Stream) (line : Array UInt8) : IO Text.Bytes := do
  let piece ← source.read 1
  match piece.data[0]? with
  | none => pure line.toList
  | some byte =>
    if byte = 10 then pure (line.push byte).toList else readLine source (line.push byte)

def emit (f : LogFilter) (r : Report) : IO UInt32 := do
  let out ← IO.getStdout
  let err ← IO.getStderr
  err.putStr (String.join ((r.log.filter f.shows).map Event.line))
  out.putStr r.stdout
  out.flush
  match r.error? with
  | none => pure 0
  | some message => do
    err.putStr ("Error: " ++ message ++ "\n")
    pure 1

/-- Turn by turn as in `converse`, but every line is answered before the next one is read. -/
partial def talk (f : LogFilter) (r : Registry) (source : IO.FS.Stream) : IO UInt32 := do
  discard (emit f (.printed prompt []))
  let line ← readLine source #[]
  if line.isEmpty then pure 0
  else
    let said := turn r line
    let code ← emit f said.report
    if said.goesOn then talk f r source else pure code

def carryOut (i : Invocation) : IO UInt32 := do
  let f := LogFilter.choose (← IO.getEnv "RUST_LOG") i
  let content ← match i.path? with
    | none => pure none
    | some path => readFile? path
  let opening := start i (← now) content
  let code ← emit f opening.report
  match opening.about? with
  | none => pure code
  | some r => talk f r (← IO.getStdin)

end Acceptor.Program

def main (args : List String) : IO UInt32 := do
  let out ← IO.getStdout
  match Acceptor.Command.Request.ofArguments (← IO.getEnv "DFA_TRACE_DEFINITIONS") args with
  | .misuse => do
    (← IO.getStderr).putStr Acceptor.Command.misuseText
    pure 2
  | .help => do
    out.putStr Acceptor.Command.usage
    pure 0
  | .version => do
    out.putStr Acceptor.Command.versionText
    pure 0
  | .invoke i => Acceptor.Program.carryOut i
