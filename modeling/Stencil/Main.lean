import Stencil.Command.Session

/-! The command line: reads what the arguments name, makes one run, and prints what comes of it. -/

namespace Stencil.Command

def helpText : String :=
  "Compile a weft template and render it.\n\n" ++
  "Usage: weft [OPTIONS] <TEMPLATE>\n\n" ++
  "  --context <FILE>         JSON file whose members are render values; may be repeated\n" ++
  "  -v, --var <KEY=VALUE>    a single render value, as JSON or else as a plain string\n" ++
  "  --emit-code              print the generated render procedure\n" ++
  "  --list-vars              print the variables the template needs\n" ++
  "  --config <PATH>          settings file\n" ++
  "  --log-level <LEVEL>      off, error, warn, info, debug or trace\n" ++
  "  --json-output            print logs as JSON\n" ++
  "  -h, --help               print help\n" ++
  "  -V, --version            print version\n"

def UsageError.message : UsageError → String
  | .help | .nothingGiven => helpText
  | .version => "weft 0.1.0\n"
  | .unknownArgument => "error: unexpected argument\n"
  | .conflict => "error: an argument cannot be used again or together with another\n"
  | .emptyValue => "error: a value is required\n"
  | .tooManyValues => "error: unexpected value\n"
  | .badValue => "error: invalid value\n"
  | .missingArgument => "error: the template is missing\n"

def readPlace (path : String) : IO (Option Place) := do
  match ← (IO.FS.readBinFile path).toBaseIO with
  | .ok bytes => return some (.file bytes)
  | .error (.noFileOrDirectory ..) => return none
  | .error _ => return some .unreadable

def survey (a : Arguments) : IO Surroundings := do
  let user := Settings.userPath (← IO.getEnv "XDG_CONFIG_HOME") (← IO.getEnv "HOME")
  let input ← if a.template = "-" then (← IO.getStdin).readBinToEnd else pure ByteArray.empty
  let paths := a.template :: a.contexts ++ a.config.toList ++ user.toList
  let places ← paths.mapM fun path => return (path, ← readPlace path)
  return ⟨fun path => (places.lookup path).join, input, user⟩

def printBytes (bytes : ByteArray) : IO Bool := do
  let out ← IO.getStdout
  match ← (do out.write bytes; out.flush : IO Unit).toBaseIO with
  | .ok () => return true
  | .error _ => return false

def perform (a : Arguments) : IO Nat := do
  let (sink, result) := run Empty Empty a (← survey a) .unbounded
  let printed ← if sink.taken.isEmpty then pure true else printBytes ⟨sink.taken.toArray⟩
  match result with
  | .error e =>
    (← IO.getStderr).putStrLn e.message
    return e.exitNumber
  | .ok () => return if printed then 0 else (SessionError.print "").exitNumber

end Stencil.Command

open Stencil.Command in
def main (words : List String) : IO UInt32 := do
  let env : Environment := ⟨← IO.getEnv "WEFT_CONFIG", ← IO.getEnv "WEFT_LOG"⟩
  match Arguments.read words env with
  | .ok a => return UInt32.ofNat (← perform a)
  | .error e =>
    let out ← if e.exitNumber = 0 then IO.getStdout else IO.getStderr
    out.putStr e.message
    return UInt32.ofNat e.exitNumber
