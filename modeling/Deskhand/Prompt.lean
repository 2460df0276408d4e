/-
  Deskhand.Prompt

  The prompt.

  What the language model is told: the commands that it may use, a worked example, and the
  instruction as a JSON string, so that nothing in it can end its line.
-/

import Deskhand.Json.Writer
import Deskhand.Registry

namespace Deskhand

/-- What the prompt knows about a command: how to write it and, where that is not plain, what it
is for. -/
structure CommandDoc where
  name : String
  signature : String
  hint : String

def CommandDoc.line (doc : CommandDoc) : String :=
  if doc.hint.isEmpty then doc.signature else doc.signature ++ "  (" ++ doc.hint ++ ")"

/-- The documented commands for the desktop. -/
def CommandDoc.desktop : List CommandDoc :=
  [⟨"runAppByName", "runAppByName(\"App Name\")", "open an app through the system launcher"⟩,
    ⟨"launchApp", "launchApp(\"C:\\\\full\\\\path\\\\to\\\\app.exe\")", "start an executable"⟩,
    ⟨"openUrl", "openUrl(\"https://...\")", "open a URL in the default browser"⟩,
    ⟨"openFolder", "openFolder(\"path\")", ""⟩,
    ⟨"openFile", "openFile(\"path\")", ""⟩,
    ⟨"focusWindow", "focusWindow(\"Window Title\")", ""⟩,
    ⟨"typeText", "typeText(\"...\")", ""⟩,
    ⟨"pressKey", "pressKey(\"Enter\"|\"Ctrl+V\"|\"/\"|...)", ""⟩,
    ⟨"moveTo", "moveTo(x,y)", ""⟩,
    ⟨"clickAt", "clickAt(x,y)", ""⟩,
    ⟨"wait", "wait(ms)", ""⟩,
    ⟨"scroll", "scroll(dx,dy)", "positive dy scrolls up"⟩,
    ⟨"copyClipboard", "copyClipboard()", ""⟩,
    ⟨"pasteClipboard", "pasteClipboard()", ""⟩,
    ⟨"minimizeWindow", "minimizeWindow()", ""⟩,
    ⟨"switchApp", "switchApp()", ""⟩,
    ⟨"lockWorkstation", "lockWorkstation()", ""⟩,
    ⟨"mediaControl",
      "mediaControl(\"play\"|\"pause\"|\"fullscreen\"|\"exitFullscreen\"|\"mute\"|\"next\"|\"previous\")",
      ""⟩,
    ⟨"playVideo", "playVideo()", ""⟩,
    ⟨"pauseVideo", "pauseVideo()", ""⟩,
    ⟨"closeVideo", "closeVideo()", ""⟩,
    ⟨"takeScreenshot", "takeScreenshot(\"file.png\")", ""⟩,
    ⟨"adjustVolume", "adjustVolume(\"up\"|\"down\", steps)", ""⟩]

/-- The documented commands for the browser. -/
def CommandDoc.browser : List CommandDoc :=
  [⟨"navigate", "navigate(\"https://...\")", "load a page in the controlled browser"⟩,
    ⟨"clickSelector", "clickSelector(\"css selector\")", ""⟩,
    ⟨"typeSelector", "typeSelector(\"css selector\", \"text\")", ""⟩,
    ⟨"extractTable", "extractTable(\"css selector\", \"out.csv\")", "save a table as CSV"⟩,
    ⟨"screenshotRegion", "screenshotRegion(\"css selector\", \"out.png\")", ""⟩,
    ⟨"orderFlow", "orderFlow(\"flow name\", ...)", "run a predefined multi-step browser flow"⟩]

def CommandDoc.find? (name : String) : Option CommandDoc :=
  (desktop ++ browser).find? fun doc => doc.name == name

/-- A prompt without its instruction: the lines of the commands that it offers. -/
structure Prompt where
  commands : List String

namespace Prompt

/-- The prompt that offers the desktop commands. -/
def desktop : Prompt := ⟨CommandDoc.desktop.map CommandDoc.line⟩

/-- The line of a command; one without documentation takes whatever it takes. -/
def lineOf (name : String) : String :=
  match CommandDoc.find? name with
  | some doc => doc.line
  | none => name ++ "(...)"

/-- The prompt that offers the commands of a registry. -/
def ofRegistry {I : Interface} (registry : Registry I) : Prompt := ⟨registry.names.map lineOf⟩

def exampleInstruction : String :=
  "Open Microsoft Edge and go to youtube.com and search for cat videos"

def examplePlan : List String :=
  ["runAppByName(\"Microsoft Edge\")", "wait(3000)", "typeText(\"youtube.com\")",
    "pressKey(\"Enter\")", "wait(5000)", "pressKey(\"/\")", "wait(300)", "typeText(\"cat videos\")",
    "pressKey(\"Enter\")"]

/-- Everything before the instruction. -/
def preamble (prompt : Prompt) : String :=
  "You are an RPA agent running on a desktop computer. Respond ONLY with a pure JSON array of strings.\n" ++
  "Each string must be one of these commands (commands can be repeated and combined as needed to satisfy the instruction):\n" ++
  String.join (prompt.commands.map fun line => "- " ++ line ++ "\n") ++
  "\nIf the instruction contains multiple tasks separated by \"and\", " ++
  "include the commands for each task in order and do not stop until the goal is achieved.\n\n" ++
  "Example:\nInstruction: " ++ Json.quote exampleInstruction ++ "\nResponse:\n[\n" ++
  ",\n".intercalate (examplePlan.map fun command => "  " ++ Json.quote command) ++ "\n]\n\n" ++
  "DO NOT include any markdown, comments, or extra text. Only the JSON array.\n\n"

def build (prompt : Prompt) (instruction : String) : String :=
  prompt.preamble ++ "User instruction: " ++ Json.quote instruction ++ "\n"

end Prompt

end Deskhand
