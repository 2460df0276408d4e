/-
  Deskhand.Desk.Key

  Keys.

  The keys that are not characters, with the names under which they are known.
-/

namespace Deskhand.Desk

/-- A key that is not a character. -/
inductive Key where
  | controlLeft
  | controlRight
  | shiftLeft
  | shiftRight
  | altLeft
  | altRight
  | metaLeft
  | metaRight
  | leftSuper
  | rightSuper
  | enter
  | escape
  | tab
  | space
  | backspace
  | delete
  | insert
  | home
  | end_
  | pageUp
  | pageDown
  | arrowUp
  | arrowDown
  | arrowLeft
  | arrowRight
  | f1
  | f2
  | f3
  | f4
  | f5
  | f6
  | f7
  | f8
  | f9
  | f10
  | f11
  | f12
  | slash
  | backslash
  | comma
  | period
  | minus
  | equal
  | semicolon
  | quote
  | grave
  | leftBracket
  | rightBracket
  | capsLock
  | numLock
  | scrollLock
  | printScreen
  | pause
  | menu
  | volumeUp
  | volumeDown
  | volumeMute
  | audioPlay
  | audioStop
  | audioNext
  | audioPrev
  deriving DecidableEq, Repr

namespace Key

def name : Key → String
  | .controlLeft => "ControlLeft"
  | .controlRight => "ControlRight"
  | .shiftLeft => "ShiftLeft"
  | .shiftRight => "ShiftRight"
  | .altLeft => "AltLeft"
  | .altRight => "AltRight"
  | .metaLeft => "MetaLeft"
  | .metaRight => "MetaRight"
  | .leftSuper => "LeftSuper"
  | .rightSuper => "RightSuper"
  | .enter => "Enter"
  | .escape => "Escape"
  | .tab => "Tab"
  | .space => "Space"
  | .backspace => "Backspace"
  | .delete => "Delete"
  | .insert => "Insert"
  | .home => "Home"
  | .end_ => "End"
  | .pageUp => "PageUp"
  | .pageDown => "PageDown"
  | .arrowUp => "ArrowUp"
  | .arrowDown => "ArrowDown"
  | .arrowLeft => "ArrowLeft"
  | .arrowRight => "ArrowRight"
  | .f1 => "F1"
  | .f2 => "F2"
  | .f3 => "F3"
  | .f4 => "F4"
  | .f5 => "F5"
  | .f6 => "F6"
  | .f7 => "F7"
  | .f8 => "F8"
  | .f9 => "F9"
  | .f10 => "F10"
  | .f11 => "F11"
  | .f12 => "F12"
  | .slash => "Slash"
  | .backslash => "Backslash"
  | .comma => "Comma"
  | .period => "Period"
  | .minus => "Minus"
  | .equal => "Equal"
  | .semicolon => "Semicolon"
  | .quote => "Quote"
  | .grave => "Grave"
  | .leftBracket => "LeftBracket"
  | .rightBracket => "RightBracket"
  | .capsLock => "CapsLock"
  | .numLock => "NumLock"
  | .scrollLock => "ScrollLock"
  | .printScreen => "PrintScreen"
  | .pause => "Pause"
  | .menu => "Menu"
  | .volumeUp => "VolumeUp"
  | .volumeDown => "VolumeDown"
  | .volumeMute => "VolumeMute"
  | .audioPlay => "AudioPlay"
  | .audioStop => "AudioStop"
  | .audioNext => "AudioNext"
  | .audioPrev => "AudioPrev"

def all : List Key :=
  [.controlLeft, .controlRight, .shiftLeft, .shiftRight, .altLeft, .altRight, .metaLeft,
    .metaRight, .leftSuper, .rightSuper, .enter, .escape, .tab, .space, .backspace, .delete,
    .insert, .home, .end_, .pageUp, .pageDown, .arrowUp, .arrowDown, .arrowLeft, .arrowRight,
    .f1, .f2, .f3, .f4, .f5, .f6, .f7, .f8, .f9, .f10, .f11, .f12, .slash, .backslash, .comma,
    .period, .minus, .equal, .semicolon, .quote, .grave, .leftBracket, .rightBracket, .capsLock,
    .numLock, .scrollLock, .printScreen, .pause, .menu, .volumeUp, .volumeDown, .volumeMute,
    .audioPlay, .audioStop, .audioNext, .audioPrev]

def ofName? (name : String) : Option Key := all.find? fun key => key.name == name

/-- No key is missing from the list. -/
theorem mem_all (key : Key) : key ∈ all := by cases key <;> decide

/-- Each key is found by its name. -/
theorem ofName?_name (key : Key) : ofName? key.name = some key := by cases key <;> decide

end Key

end Deskhand.Desk
