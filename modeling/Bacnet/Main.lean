import Bacnet.Arguments
import Bacnet.Octets.Hex
import Bacnet.Responder
import Bacnet.Summary
import Bacnet.Template.Text

set_option autoImplicit false

/-! # The command line

The program reads the template of a device. It shows a summary of the device, or it answers
datagrams: every line of the input is an endpoint and the octets that come from there, and every
line of the output an endpoint and the octets that go there. -/

namespace Bacnet.Program

/-- The datagram of a line, and where it comes from. -/
def ofLine? (line : String) : Option (Octets × Endpoint) :=
  match line.trimAscii.copy.splitOn " " with
  | [source, octets] => do return (← Octets.ofHex? octets, ← Endpoint.ofText? source)
  | _ => none

/-- The line of a datagram to send. -/
def lineOf (outgoing : Outgoing) : String :=
  outgoing.destination.label ++ " " ++ outgoing.frame.toHex

/-- Answers the lines of an input up to its end. -/
partial def answerLines (r : Responder) (input output : IO.FS.Stream) : IO Unit := do
  let line ← input.getLine
  if line.isEmpty then return
  if let some (datagram, source) := ofLine? line then
    if let some outgoing := r.process datagram source then
      output.putStrLn (lineOf outgoing)
      output.flush
  answerLines r input output

/-- Ends in a failure. -/
def fail (message : String) : IO UInt32 := do
  IO.eprintln ("error: " ++ message)
  return 1

/-- Runs the program with arguments. -/
def run (arguments : Arguments) : IO UInt32 := do
  let text ← IO.FS.readFile arguments.template
  match Template.ofText text >>= Template.build with
  | .error e => fail e.message
  | .ok device =>
    if arguments.check then
      IO.println device.summary.toJson.text
    else
      answerLines ⟨device, arguments.config⟩ (← IO.getStdin) (← IO.getStdout)
    return 0

end Bacnet.Program

/-- Runs the program as the command line says. -/
def main (words : List String) : IO UInt32 :=
  match Bacnet.Arguments.ofList words with
  | .error e => Bacnet.Program.fail e.message
  | .ok arguments => Bacnet.Program.run arguments
