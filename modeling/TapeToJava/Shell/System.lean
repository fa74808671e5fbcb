import TapeToJava.Shell.Image

/-! The files of a system: the usual directories, with the programs in them. -/

namespace TapeToJava

namespace Shell

/-- Programs that run others, or that look into the shell's own state. -/
def wrappers : List String :=
  ["sh", "dash", "bash", "env", "nohup", "nice", "timeout", "xargs", "which", "printenv", "pwd"]

/-- The names of all programs. -/
def programNames : List String :=
  wrappers ++ Utility.table.map (·.1)

/-- A place from the names that lead to it. -/
def place (names : List String) : Location :=
  (names.map fun n => Name.text n.toList).reverse

/-- The place of the file that keeps nothing. -/
def nullPlace : Location := place ["dev", "null"]

/-- The directories of a system. -/
def systemDirectories : List (List String) := [
  ["bin"], ["boot"], ["dev"], ["etc"], ["home"], ["lib"], ["media"], ["mnt"], ["opt"], ["proc"], ["root"], ["run"],
  ["sbin"], ["srv"], ["sys"], ["tmp"], ["usr"], ["usr", "bin"], ["usr", "lib"], ["usr", "local"],
  ["usr", "local", "bin"], ["usr", "local", "sbin"], ["usr", "sbin"], ["var"], ["var", "tmp"]]

/-- The directories that hold the programs. -/
def programDirectories : List (List String) := [["bin"], ["usr", "bin"]]

end Shell

open Shell

namespace Volume

/-- A file system with the usual directories and programs; paths begin at the root. -/
def system : Volume where
  workingDirectory := []
  entries :=
    systemDirectories.map (fun names => (place names, .directory directoryMode)) ++
      [(nullPlace, .file 0o666 [])] ++
      programDirectories.flatMap fun directory =>
        programNames.map fun name => (place (directory ++ [name]), .file 0o755 (programBytes name))

/-- The place of a directory for temporary files that nothing else uses. -/
def scratchPlace : Location :=
  place ["tmp", ".tmp000000"]

/-- A file system in which paths begin in an empty directory. -/
def scratch : Volume :=
  { system.insert scratchPlace (.directory directoryMode) with workingDirectory := scratchPlace }

end Volume

end TapeToJava
