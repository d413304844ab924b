import Catalog.Command
import Catalog.CommandLine.Parser
import Catalog.Settings.EnvFile

namespace Catalog.Program

structure Exit where
  code : Nat
  stdout : String
  stderr : String

def ofUsageError (e : CommandLine.UsageError) : Exit :=
  match e with
  | .help | .version => ⟨e.exitCode, e.message ++ "\n", ""⟩
  | _ => ⟨e.exitCode, "", s!"error: {e.message}\n"⟩

def ofOutput (o : Command.Output) : Exit :=
  match o.result with
  | .ok () => ⟨0, o.printed, ""⟩
  | .error f => ⟨f.exitCode, o.printed, f.response.compact ++ "\n"⟩

def backendVariable : String := "DATABASE_BACKEND"

def invocation (env : Environment) (words : List String) :
    Except CommandLine.UsageError CommandLine.Invocation :=
  CommandLine.parse (env.get? backendVariable) words

/-- The settings of an invocation. The file of variables, if there is one, is read after the command
line. -/
def settings (env : Environment) (file : Option String) (i : CommandLine.Invocation) : Settings :=
  (Settings.ofEnvironment ((file.map (EnvFile.load env)).getD env)).withBackend i.backend

/-- Why a command cannot reach its database from here, where there is none. -/
def unreachable (s : Settings) : Failure :=
  (Command.refused? s).getD (.unavailable "Connection refused")

def run (env : Environment) (file : Option String) (words : List String) : Exit :=
  match invocation env words with
  | .error e => ofUsageError e
  | .ok i =>
    match i.command with
    | .sql f => ofOutput (Command.sql f)
    | .migrate _ | .entries _ => ofOutput (Command.fail (unreachable (settings env file i)))

end Catalog.Program
