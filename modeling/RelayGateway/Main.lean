import RelayGateway.Json.Text
import RelayGateway.Startup.Launch
import Std.Time.Format

/-! # The program

* `answerFileCall`: the file system of the machine.
* `readVariables`: the variables of the process.
* `serveLines`: a gateway that answers requests, one per line, until the input ends.
* `main`: starts up, then serves; the exit code tells how that went.
-/

set_option autoImplicit false

namespace RelayGateway

def FileError.ofIO : IO.Error → FileError
  | .noFileOrDirectory .. => .notFound
  | .inappropriateType .. => .notDirectory
  | .invalidArgument .. => .nameTooLong
  | _ => .isDirectory

def tablesMark : ByteArray := "relay gateway tables\n".toUTF8

def tryMake (make : IO Unit) : IO (Except FileError Unit) := do
  try
    make
    return .ok ()
  catch err => return .error (.ofIO err)

def readFile (path : String) : IO SettingsFile := do
  try return .bytes (← IO.FS.readBinFile path)
  catch
    | .noFileOrDirectory .. => return .missing
    | _ => return .unreadable

def answerFileCall : (call : FileCall) → IO (FileReply call)
  | .kind path => do
    match ← readFile path with
    | .missing => return (none : Option PathKind)
    | .bytes _ => return some .file
    | .unreadable => return some .directory
  | .read path => readFile path
  | .makeDirectories path => tryMake (IO.FS.createDirAll path)
  | .makeFile path => tryMake (IO.FS.writeBinFile path ByteArray.empty)
  | .makeTables path => do
    match ← readFile path with
    | .bytes content =>
      if content.size = 0 then IO.FS.writeBinFile path tablesMark
      return (content.size == 0 || content.data == tablesMark.data : Bool)
    | _ => return (false : Bool)

def readVariables : IO (List Variable) := do
  match ← readFile "/proc/self/environ" with
  | .bytes content =>
    let text := (Http.ofUtf8? content.toList).getD ""
    return (Text.splitAt '\x00' text).filterMap Variable.ofText?
  | _ => return []

/-- The present moment, for a program that has run since `start`, in milliseconds. -/
def readMoment (start : Nat) : IO Http.Moment := do
  let bytes ← IO.getRandomBytes 16
  let now := Std.Time.PlainDateTime.ofWallTime (.ofTimestamp (← Std.Time.Timestamp.now) .zero)
  return {
    freshId := Http.freshRequestId bytes.toList
    timestamp := now.date.toSQLDateString ++ "T" ++ now.time.toTime24Hour ++ "Z"
    uptimeSeconds := ((← IO.monoMsNow) - start) / 1000 }

/-- Prints a response: its status, its headers and its body. -/
def printResponse (output : IO.FS.Stream) (response : Http.Response) : IO Unit := do
  output.putStrLn (toString response.status)
  for (name, value) in response.headers do
    output.putStrLn (name ++ ": " ++ (Http.ofUtf8? value).getD "")
  output.putStrLn ""
  match response.body with
  | .empty => pure ()
  | .text content => output.putStrLn content
  | .json content => output.putStrLn content.text
  output.flush

/-- Answers requests, each a method and a target on one line, until the input ends. -/
partial def serveLines (input output : IO.FS.Stream) (start : Nat) (gateway : Gateway) : IO Unit := do
  let line ← input.getLine
  if line.isEmpty then return
  match (Text.splitAt ' ' (Text.trim line)).filter (· != "") with
  | [method, target] =>
    let (response, gateway) := gateway.serve (← readMoment start) ⟨method, target, []⟩
    printResponse output response
    serveLines input output start gateway
  | _ => serveLines input output start gateway

end RelayGateway

open RelayGateway in
/-- Starts up, then serves; the exit code tells how that went. -/
def main (arguments : List String) : IO UInt32 := do
  let start ← IO.monoMsNow
  let exit ← (invoke (← readVariables) arguments).run answerFileCall
  match exit with
  | .help => IO.print usageText
  | .version => IO.print versionLine
  | .mistake => IO.eprint usageText
  | .failed err => IO.eprintln err.message
  | .serving launched =>
    IO.println launched.address.text
    serveLines (← IO.getStdin) (← IO.getStdout) start launched.gateway
  return UInt32.ofNat exit.code
