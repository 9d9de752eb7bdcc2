import Narrative.Action

/-!
# Action/Page — the page of lines on screen

Lines may accumulate on a **page**.  The page and whether it shows are globals, so no save holds
them; they are kept in written form, and a page that cannot be read counts as empty.
-/

namespace Narrative.Page

/-- The stack of closed pages. -/
def stack : String := "nvl"

/-- The global that tells whether the page shows. -/
def modeKey : String := "dialog.nvl"

/-- The global that holds the page. -/
def pageKey : String := "dialog.page"

/-- Whether the page shows. -/
def isShowing (world : World) : Bool := ((world.globals.get? modeKey).bind Json.asBool?).getD false

/-- The lines on the page, oldest first. -/
def lines (world : World) : List Line :=
  ((world.globals.get? pageKey).bind Line.pageOfJson?).getD []

/-- Put lines on the page. -/
def setLines (world : World) (lines : List Line) : World :=
  world.withGlobals (·.set pageKey (Line.pageToJson lines))

/-- Show a page. -/
def display (world : World) (lines : List Line) : World :=
  setLines (world.withGlobals (·.set modeKey (.bool true))) lines

/-- Leave the page; its lines are dropped. -/
def leave (world : World) : World :=
  world.withGlobals fun globals => (globals.set modeKey (.bool false)).remove pageKey

end Narrative.Page
