import Toolmark.Budget
import Toolmark.CommandLine
import Toolmark.Shell.Run

/-!
# Hosts

A host as a value: its files, the directory in which the program runs, and the variables that
processes get. From it follows what every tool would print, so a run on a host can be computed.
-/

namespace Toolmark

/-- What a process does that ends with a status after some time and has printed bytes until then.
They are decoded if the status tells success. -/
def Work.ofExit (program : String) (duration : Nat) (status : Host.Status) (bytes : List UInt8) :
    Work where
  duration := duration
  result :=
    if status.isSuccess then .ok (Text.Utf8.decode bytes)
    else .error (.failed program status.text)

/-- A host with a directory in which the program runs. -/
structure Host where
  /-- The files. -/
  tree : Host.Tree
  /-- The directory in which relative paths begin. -/
  directory : Host.Place
  /-- The variables that processes get. -/
  environment : List (String × String)

namespace Host

/-- The directories of every host. -/
def systemDirectories : List Place :=
  [["bin"], ["boot"], ["dev"], ["etc"], ["home"], ["lib"], ["lib64"], ["media"], ["mnt"], ["opt"],
    ["proc"], ["root"], ["run"], ["sbin"], ["srv"], ["sys"], ["tmp"], ["usr"], ["usr", "bin"],
    ["usr", "include"], ["usr", "lib"], ["usr", "local"], ["usr", "local", "bin"], ["usr", "sbin"],
    ["usr", "share"], ["var"], ["var", "log"], ["var", "tmp"], ["dev", "shm"]]

/-- The files of every host, as far as scripts may read them. -/
def systemFiles : List (Place × String) :=
  [(["dev", "null"], ""), (["etc", "passwd"], "root:x:0:0:root:/root:/bin/sh\n"),
    (["etc", "group"], "root:x:0:\n"), (["etc", "hosts"], "127.0.0.1 localhost\n"),
    (["etc", "hostname"], "host\n")]

/-- The names of the programs of every host. -/
def systemPrograms : List String := "sh" :: "env" :: Shell.Utility.names

/-- The files that every host has. -/
def systemTree : Tree :=
  let tree := systemDirectories.foldl Tree.makeDirectory Tree.empty
  let tree := systemFiles.foldl
    (fun tree file => tree.add file.1 (.file (Text.Utf8.encode file.2) false)) tree
  systemPrograms.foldl
    (fun tree name =>
      (tree.put ["bin", name] (.program name)).put ["usr", "bin", name] (.program name))
    tree

/-- The directory in which the program runs. -/
def workingDirectory : Place := ["tmp", "work"]

/-- The directory of the programs beside the working directory, and those of the system. -/
def searchPath (hasSystem : Bool) : String :=
  "/tmp/work/bin" ++ if hasSystem then ":/usr/bin:/bin" else ""

/-- A host with an empty directory for programs in its working directory. -/
def initial (hasSystem : Bool) (environment : List (String × String)) : Host where
  tree := systemTree.makeDirectory (workingDirectory ++ ["bin"])
  directory := workingDirectory
  environment := ("PATH", searchPath hasSystem) :: environment

/-- The place of a relative path without detours. -/
def below (host : Host) (path : String) : Place :=
  host.directory ++ (path.splitOn "/").filter fun name => !name.isEmpty && name ≠ "."

/-- The host with a directory. -/
def withDirectory (host : Host) (path : String) : Host :=
  { host with tree := host.tree.makeDirectory (host.below path) }

/-- The host with a file. -/
def withFile (host : Host) (path : String) (content : List UInt8) (runnable : Bool) : Host :=
  { host with tree := host.tree.add (host.below path) (.file content runnable) }

/-- What the program can learn about the files of a host. -/
def files (host : Host) : Files where
  exists? path := (host.tree.find host.directory path).isOk
  read path := (host.tree.read host.directory path).mapError Fault.message

/-- A session before the start of a process whose output is caught in the first channel. -/
def session (host : Host) : Shell.Session where
  tree := host.tree
  directory := host.directory
  bindings := host.environment.map fun entry =>
    (Shell.Octets.ofText entry.1, Shell.Octets.ofText entry.2)
  exported := host.environment.map fun entry => Shell.Octets.ofText entry.1
  functions := []
  name := []
  arguments := []
  code := 0
  written := []
  nextChannel := 1
  descriptors := [(1, some 0), (2, none)]
  files := []
  input := []
  clock := 0
  holds := []
  jobsEnd := 0
  stopsOnError := false
  stopsOnMissing := false
  traps := []
  loops := 0

/-- The greatest number of bytes of an argument. -/
def argumentLimit : Nat := 131071

/-- What is started for a command line, or why nothing is. -/
def launch (host : Host) (program : String) (arguments : List String) : Except Fault Launch :=
  if (program :: arguments).any (·.contains '\x00') then .error .nullInArgument
  else if (program :: arguments).any fun text => argumentLimit < text.utf8ByteSize then
    .error .argumentsTooLong
  else
    let path := (host.environment.find? fun entry => entry.1 == "PATH").map (·.2)
    Launch.ofName host.tree host.directory ((path.getD "").splitOn ":") program

/-- What a tool does on a host when nothing stops it. A process takes time, however little it does;
it has ended once nothing holds its output. -/
def work (host : Host) (invocation : Invocation) (binary : String) : Work :=
  let arguments := invocation.args ++ [binary]
  match host.launch invocation.program arguments with
  | .error fault =>
      { duration := 0, result := .error (.spawn invocation.program fault.message) }
  | .ok launch =>
      let words := (launch.arguments ++ arguments).map Shell.Octets.ofText
      match Shell.runProgram Shell.depthBound launch.name words host.session with
      | (_, none) =>
          { duration := Shell.Session.forever, result := .error (.timeout invocation.program) }
      | (session, some status) =>
          .ofExit invocation.program (max 1 (session.heldUntil 0)) status
            (Shell.Octets.toBytes (session.text 0))

/-- The tools of a host. -/
def tools (host : Host) : Tools := Tools.processes host.work

end Host

end Toolmark
