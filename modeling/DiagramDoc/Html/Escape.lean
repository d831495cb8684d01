/-! # Escaped text

Text is written into elements and attribute values with five characters replaced by entities, so
that it can neither open a tag nor end an attribute value.
-/

namespace DiagramDoc.Html

def escapeChar (c : Char) : List Char :=
  if c = '&' then "&amp;".toList
  else if c = '<' then "&lt;".toList
  else if c = '>' then "&gt;".toList
  else if c = '"' then "&quot;".toList
  else if c = '\'' then "&#x27;".toList
  else [c]

def escape (s : String) : String := String.ofList (s.toList.flatMap escapeChar)

theorem escape_append (s t : String) : escape (s ++ t) = escape s ++ escape t := by
  simp [escape, String.toList_append]

def attr (name value : String) : String := " " ++ name ++ "=\"" ++ escape value ++ "\""

end DiagramDoc.Html
