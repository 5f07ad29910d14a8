/-!
# Finding text in text
-/

namespace GridQuery.Text

/-- The piece stands somewhere in the characters. -/
def occurs (piece : List Char) : List Char → Bool
  | [] => piece.isEmpty
  | c :: cs => piece.isPrefixOf (c :: cs) || occurs piece cs

/-- The piece stands somewhere in the text. -/
def containsText (s piece : String) : Bool := occurs piece.toList s.toList

/-- The text starts with the piece. -/
def startsWith (s piece : String) : Bool := piece.toList.isPrefixOf s.toList

end GridQuery.Text
