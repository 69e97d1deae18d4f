import CnfSearch.Directory
import CnfSearch.Filter

namespace CnfSearch

def FileError.ofSystem : IO.Error → FileError
  | .noFileOrDirectory _ _ _ => .notFound
  | .inappropriateType none _ _ => .isDirectory
  | .inappropriateType (some _) _ _ => .notDirectory
  | .invalidArgument _ _ "name too long" => .nameTooLong
  | .permissionDenied _ _ _ => .other "Permission denied (os error 13)"
  | error => .other (toString error)

def load (path : String) : IO (Except FileError String) := do
  match ← (IO.FS.readBinFile path).toBaseIO with
  | .ok bytes => return Directory.decode bytes
  | .error error => return .error (.ofSystem error)

-- The one file that a command reads is read before the command is performed.
def sourceFor : Except CommandError Command → IO Source
  | .ok (.check path) => do
    let contents ← load path
    return fun _ => contents
  | _ => return fun _ => .error .notFound

end CnfSearch

open CnfSearch in
def main (arguments : List String) : IO UInt32 := do
  let setting ← IO.getEnv "RUST_LOG"
  let program ← IO.appPath
  let source ← sourceFor (Command.read arguments)
  let outcome := Command.runWith source setting arguments (some program.toString)
  IO.eprint outcome.stderr
  IO.print outcome.stdout
  return outcome.status.toUInt32
