import Catalog.Program

open Catalog

def readFirst : List String → IO (Option String)
  | [] => return none
  | file :: files => do
    try return some (← IO.FS.readFile file)
    catch _ => readFirst files

/-- The paths of a file in a directory and in those around it, from the inside. The directory is
given by its parts in reverse. -/
def upwards (file : String) : List String → List String
  | [] => []
  | part :: parts => ("/".intercalate (part :: parts).reverse ++ "/" ++ file) :: upwards file parts

def main (words : List String) : IO UInt32 := do
  let names := ["DATABASE_URL", "DATABASE_BACKEND", "QUERY_TIMEOUT_SECS", "ACTOR"]
  let set ← names.filterMapM fun n => return (← IO.getEnv n).map fun v => (n, v)
  let directory := toString (← IO.currentDir)
  let file ← readFirst (upwards ".env" (directory.splitOn "/").reverse)
  let exit := Program.run set file words
  IO.print exit.stdout
  IO.eprint exit.stderr
  return exit.code.toUInt32
