/-
  Deskhand.Desk.Launch

  Launching programs.

  Which program a platform starts to open a file, to bring a window to the front or to lock the
  screen. A request is a program with its arguments, or one line for the shell.
-/

import Deskhand.Error
import Deskhand.Text.Search

namespace Deskhand.Desk

open Deskhand.Text

inductive Platform where
  | windows
  | macOs
  | linux
  deriving DecidableEq, Repr

/-- A program to start. For a shell request the program is the whole command line. -/
structure LaunchRequest where
  program : String
  args : List String
  shell : Bool
  deriving DecidableEq, Repr

/-- A text with every occurrence of a character replaced. -/
def replaceChar (c : Char) (replacement : List Char) (s : String) : String :=
  String.ofList (s.toList.flatMap fun d => if d = c then replacement else [d])

namespace LaunchRequest

def direct (program : String) (args : List String) : LaunchRequest := ⟨program, args, false⟩

/-- A line for the shell. -/
def ofLine (line : String) : LaunchRequest := ⟨line, [], true⟩

/-- Opens a file or an address with whatever is meant for it. -/
def opening (platform : Platform) (target : String) : LaunchRequest :=
  match platform with
  | .windows => direct "cmd" ["/c", "start", "", target]
  | .macOs => direct "open" [target]
  | .linux => direct "xdg-open" [target]

def openingFolder (platform : Platform) (folder : String) : LaunchRequest :=
  match platform with
  | .windows => direct "explorer" [folder]
  | _ => opening platform folder

/-- The command that brings a window to the front on Windows. The title stands between
apostrophes, and one inside it is doubled. -/
def activationCommand (title : String) : String :=
  "(New-Object -ComObject WScript.Shell).AppActivate('" ++ replaceChar '\'' ['\'', '\''] title ++
    "')"

/-- The script that brings an application to the front on macOS. Its name stands between quotes,
and a quote inside it gets a backslash. -/
def activationScript (title : String) : String :=
  "tell application \"" ++ replaceChar '"' ['\\', '"'] title ++ "\" to activate"

/-- Brings the window with a title to the front. -/
def focusing (platform : Platform) (title : String) : LaunchRequest :=
  match platform with
  | .windows => direct "powershell" ["-NoProfile", "-Command", activationCommand title]
  | .macOs => direct "osascript" ["-e", activationScript title]
  | .linux => direct "wmctrl" ["-a", title]

def locking : Platform → LaunchRequest
  | .windows => direct "rundll32.exe" ["user32.dll,LockWorkStation"]
  | .macOs => direct "pmset" ["displaysleepnow"]
  | .linux => direct "loginctl" ["lock-session"]

def display (request : LaunchRequest) : String :=
  if request.args.isEmpty then request.program
  else request.program ++ " " ++ " ".intercalate request.args

end LaunchRequest

/-- A launcher: one that only records the requests, one that starts the programs that are
installed, or one that refuses requests for a reason that it may have. -/
inductive Launcher where
  | recording
  | system (installed : String → Bool)
  | refusing (reason : LaunchRequest → Option String)

/-- Whether a text cannot be handed to a program because it holds a null character. -/
def holdsNull (s : String) : Bool := s.toList.contains '\x00'

/-- The answer of a launcher to a request. The shell itself is always there. -/
def Launcher.answer (launcher : Launcher) (request : LaunchRequest) : Except ActionError Unit :=
  let refuse (reason : String) : Except ActionError Unit :=
    .error (.launch (request.display ++ ": " ++ reason))
  match launcher with
  | .recording => .ok ()
  | .system installed =>
    if holdsNull request.program || request.args.any holdsNull then
      refuse "nul byte found in provided data"
    else if request.shell || installed request.program then .ok ()
    else refuse "No such file or directory (os error 2)"
  | .refusing reason => (reason request).elim (.ok ()) refuse

end Deskhand.Desk
