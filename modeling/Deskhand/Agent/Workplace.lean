/-
  Deskhand.Agent.Workplace

  Where the agent works.

  The agent that settings describe, at a given place. In a dry run the devices only record what is
  asked of them. Otherwise programs are started, and there is no input device, so that every command
  that needs one fails.
-/

import Deskhand.Agent.Basic
import Deskhand.Desk.BrowserCommand
import Deskhand.Desk.DesktopCommand
import Deskhand.Settings.Agent

namespace Deskhand

open Deskhand.Desk

/-- A place to work at: its platform, the folder that the agent starts in, which programs are there,
and the page of the browser, if one is controlled. -/
structure Workplace where
  platform : Platform
  folder : String
  installed : String → Bool
  page : Option Page

namespace AgentSettings

def device (s : AgentSettings) : Device := if s.dryRun then .recording else .unavailable

def launcher (s : AgentSettings) (place : Workplace) : Launcher :=
  if s.dryRun then .recording else .system place.installed

/-- Everything that commands act upon. -/
def peripherals (s : AgentSettings) (place : Workplace) : Peripherals Nat :=
  .of s.device (s.launcher place) (place.page.getD noPage)

/-- The handlers: those of the desktop and, where there is a page, those of the browser. -/
def registry (s : AgentSettings) (place : Workplace) : Registry desk :=
  let folder := s.folder.getD place.folder
  let desktop : Desktop := ⟨place.platform, s.timing, folder⟩
  let browser := place.page.map fun _ => (⟨folder⟩ : Browser)
  .registerAll (desktop.handlers ++ browser.elim [] Browser.handlers) .empty

def agent (s : AgentSettings) (place : Workplace) : Agent desk :=
  .ofRegistry (s.registry place) (s.planTimeout.map Duration.toMillis)

def host (s : AgentSettings) (place : Workplace) (identifier : Nat → String) :
    Host desk (World Nat) :=
  Desk.host (s.peripherals place) identifier

/-- The situation in which an agent starts. -/
def start (s : AgentSettings) (files : Files.FileTree) : Execution.Situation (World Nat) :=
  ⟨.empty s.cacheCapacity, ⟨0, files, 0⟩, 0⟩

end AgentSettings

end Deskhand
