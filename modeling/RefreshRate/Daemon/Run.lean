import RefreshRate.Daemon.Session
import RefreshRate.FileTree

namespace RefreshRate.Daemon

/-!
# Running the daemon on a tree of files

The log is opened before the configuration is read, so that a configuration read
from the log file holds the first line of the log.  That line is all of the log
that can be read again, and all that the tree keeps of it.
-/

/-- The tree after the log has been opened and its first line written. -/
def openLog
    (tree : FileTree)
    (options : Options) :
    Except FileError FileTree :=
  match options.logPath? with
  | none =>
      .ok tree
  | some path =>
      tree.append path Milestone.starting.line.toUTF8.toList

/-- What the daemon finds in a tree, of which its log may have changed a file. -/
def surroundings
    (opened : Except FileError FileTree)
    (options : Options)
    (input : List UInt8) :
    Surroundings where
  logFile := opened.map fun _ => ()
  config := opened.bind fun tree => tree.readText options.configPath
  input := input

/-- The tree after values have been written to the notify file, where it can be written. -/
def notifyAll
    (tree : FileTree)
    (options : Options)
    (values : List String) :
    FileTree :=
  match options.notifyPath? with
  | none =>
      tree
  | some path =>
      values.foldl
        (fun tree value => (tree.write path value.toUTF8.toList).toOption.getD tree)
        tree

/-- The milestones that are found in the log afterwards: none where nothing written is kept. -/
def loggedMilestones
    (tree : FileTree)
    (report : Report) :
    List Milestone :=
  match report.logPath? with
  | none =>
      report.milestones
  | some path =>
      if tree.bytes? path = some [] then [] else report.milestones

/-- Run the daemon with given arguments and input. -/
def run
    (tree : FileTree)
    (arguments : List String)
    (input : List UInt8) :
    Report × FileTree :=
  match Invocation.ofArguments arguments with
  | .error _ =>
      (.usage, tree)
  | .ok .help =>
      (.help, tree)
  | .ok .version =>
      (.version, tree)
  | .ok (.run options) =>
      let opened := openLog tree options
      let report := session options (surroundings opened options input)
      (report, notifyAll (opened.toOption.getD tree) options report.applied)

end RefreshRate.Daemon
