/-!
# Lines

Messages may repeat text of several lines, while reports show one.
-/

namespace RowStore.Text

/-- The front of a text, up to its first line feed. -/
def firstLine (text : String) : String := .ofList (text.toList.takeWhile (· != '\n'))

end RowStore.Text
