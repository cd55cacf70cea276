import FrameTree.Text.Category
import FrameTree.Text.Flag

/-!
# Characters that show by themselves

A character is *visible* when it leaves a mark of its own: it is neither a control, format, private
or unassigned character, nor a separator other than the blank, nor a mark that joins the character
before it, nor a letter that only fills a place. The two sound marks of half width do join the
character before them, but they are letters and show.
-/

namespace FrameTree.Text

/-- The categories of characters that leave no mark. -/
def blankCategories : List Category :=
  [.control, .format, .surrogate, .privateUse, .unassigned, .spaceSeparator, .lineSeparator,
    .paragraphSeparator]

/-- The letters that fill the place of another one. -/
def fillers : List Char := ['\u115f', '\u1160', '\u3164', '\uffa0']

/-- The letters that join the character before them. -/
def soundMarks : List Char := ['\uff9e', '\uff9f']

/-- The character shows by itself. -/
def isVisible (c : Char) : Bool :=
  if c.toNat < 0x7f then 0x20 ≤ c.toNat
  else
    soundMarks.contains c
      || !(blankCategories.contains (category c) || graphemeExtend.holds c || fillers.contains c)

end FrameTree.Text
