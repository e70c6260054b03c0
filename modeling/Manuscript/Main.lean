/-
# Manuscript.Main -- the language server on standard input and output

Each message is preceded by a header with its length in bytes and an empty line.
-/
import Manuscript.Json.Parser
import Manuscript.Json.Printer
import Manuscript.Wire.Message

namespace Manuscript

set_option autoImplicit false

/-- The length that the lines of a header announce. -/
partial def readLength (input : IO.FS.Stream) (found : Option Nat) : IO (Option Nat) := do
  let line ← input.getLine
  if line.isEmpty then return none
  let line := line.trimAscii.toString
  if line.isEmpty then return found
  match line.splitOn ":" with
  | [name, value] =>
      let length :=
        if name.toLower = "content-length" then value.trimAscii.toString.toNat? else none
      readLength input (length.or found)
  | _ => readLength input found

partial def readBytes (input : IO.FS.Stream) (length : Nat) (read : ByteArray) : IO ByteArray := do
  if length ≤ read.size then return read
  let more ← input.read (length - read.size).toUSize
  if more.isEmpty then return read
  readBytes input length (read ++ more)

def writeMessage (output : IO.FS.Stream) (j : Json) : IO Unit := do
  let body := j.render
  output.putStr ("Content-Length: " ++ toString body.utf8ByteSize ++ "\r\n\r\n" ++ body)
  output.flush

/-- The configuration file in the root that a message names. -/
def readConfig (m : Wire.Message) : IO ConfigFile := do
  if m.method ≠ "initialize" then return .missing
  match Wire.root? m.params >>= Url.filePath? with
  | none => return .missing
  | some directory =>
      let path := directory ++ "/" ++ configFileName
      try
        let bytes ← IO.FS.readBinFile path
        match String.fromUTF8? bytes with
        | some text => return .holds text
        | none => return .unreadable
      catch
        | .noFileOrDirectory .. => return .missing
        | _ => return .unreadable

partial def serve (input output : IO.FS.Stream) (server : Server) : IO Unit := do
  match ← readLength input none with
  | none => return
  | some length =>
      let bytes ← readBytes input length .empty
      match String.fromUTF8? bytes >>= Json.parse? >>= Wire.message? with
      | none => serve input output server
      | some m =>
          if m.method = "exit" then return
          let (server, messages) := Wire.handle server (← readConfig m) m
          for message in messages do
            writeMessage output message
          serve input output server

end Manuscript

def main : IO Unit := do
  Manuscript.serve (← IO.getStdin) (← IO.getStdout) .fresh
