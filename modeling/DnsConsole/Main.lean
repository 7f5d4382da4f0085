import DnsConsole.Server.Startup

/-!
# The program

Starts the console server in the environment of the process, with the settings of a file `.env` in the
working directory, and reports how far it gets.
-/

namespace DnsConsole

/-- The variables in a block of `NAME=VALUE` entries that each end in a zero byte. -/
def Environment.ofBlock (block : List UInt8) : Environment :=
  ofList ((block.splitOn 0).filterMap fun entry =>
    match entry.span (· != 0x3D) with
    | (name, _ :: value) => some (name, value)
    | (_, []) => none)

end DnsConsole

open DnsConsole in
/-- Starts the server and says how far it gets; the exit code is 1 if it does not listen. -/
def main : IO UInt32 := do
  let block ← IO.FS.readBinFile "/proc/self/environ"
  let file ← try some <$> IO.FS.readFile ".env" catch _ => pure none
  let startup := Server.start (.ofBlock block.toList) file true
  startup.log.forM IO.println
  match startup.outcome with
  | .ok _ =>
    IO.eprint startup.notice
    return 0
  | .error e =>
    IO.eprint (startup.errorText e)
    return 1
