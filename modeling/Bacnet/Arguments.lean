import Bacnet.Endpoint.Text
import Bacnet.Responder.Config

set_option autoImplicit false

/-! # Arguments of the command line -/

namespace Bacnet

/-- What a run of the program is to do. -/
structure Arguments where
  /-- The file of the template. -/
  template : String := "templates/default.json"
  config : Config := {}
  /-- Whether to show a summary of the device and end. -/
  check : Bool := false
deriving DecidableEq, Repr

/-- Why arguments cannot be understood. -/
inductive ArgumentError where
  | unknown (argument : String)
  | missing (argument : String)
  | invalid (argument value : String)
deriving DecidableEq, Repr

def ArgumentError.message : ArgumentError → String
  | unknown argument => "unexpected argument `" ++ argument ++ "`"
  | missing argument => "a value is required for `" ++ argument ++ "`"
  | invalid argument value => "invalid value `" ++ value ++ "` for `" ++ argument ++ "`"

namespace Arguments

/-- The arguments that take a value. -/
def options : List String := ["--template", "--broadcast", "--i-am-addressing"]

/-- The arguments with one that takes a value. -/
def setOption (a : Arguments) (option value : String) : Except ArgumentError Arguments :=
  match option with
  | "--template" => .ok { a with template := value }
  | "--broadcast" =>
    match IpAddress.ofText? value with
    | some ip => .ok { a with config.broadcast := ip }
    | none => .error (.invalid option value)
  | "--i-am-addressing" =>
    match Addressing.ofName? value with
    | some addressing => .ok { a with config.addressing := addressing }
    | none => .error (.invalid option value)
  | _ => .error (.unknown option)

/-- The arguments with more of them, as they stand on the command line. -/
def add (a : Arguments) : List String → Except ArgumentError Arguments
  | [] => .ok a
  | "--check" :: rest => add { a with check := true } rest
  | "--reject-unrecognized-services" :: rest =>
    add { a with config.rejectUnrecognized := true } rest
  | [word] => .error (if options.contains word then .missing word else .unknown word)
  | option :: value :: rest => do add (← a.setOption option value) rest

/-- The arguments that stand on a command line. -/
def ofList (words : List String) : Except ArgumentError Arguments := add {} words

end Arguments

end Bacnet
