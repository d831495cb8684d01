/-! # Events

A document is a sequence of events: an element is entered, its content follows, and it is left.
Nothing in the types makes a sequence balanced; the writer has an answer for every sequence.
-/

namespace DiagramDoc

inductive Alignment where
  | unset
  | left
  | center
  | right
  deriving DecidableEq, Repr

inductive Tag where
  | paragraph
  | heading (level : Nat)
  | blockQuote
  | fencedCode (info : String)
  | indentedCode
  | htmlBlock
  | list (start : Option Nat)
  | item
  | footnote
  | definitionList
  | definitionTitle
  | definition
  | table (alignments : List Alignment)
  | tableHead
  | tableRow
  | tableCell
  | emphasis
  | strong
  | strikethrough
  | superscript
  | subscript
  | link (url title : String)
  | image (url title : String)
  | metadata
  deriving DecidableEq, Repr

inductive TagEnd where
  | paragraph
  | heading
  | blockQuote
  | codeBlock
  | htmlBlock
  | list (ordered : Bool)
  | item
  | footnote
  | definitionList
  | definitionTitle
  | definition
  | table
  | tableHead
  | tableRow
  | tableCell
  | emphasis
  | strong
  | strikethrough
  | superscript
  | subscript
  | link
  | image
  | metadata
  deriving DecidableEq, Repr

def Tag.toEnd : Tag → TagEnd
  | paragraph => .paragraph
  | heading _ => .heading
  | blockQuote => .blockQuote
  | fencedCode _ => .codeBlock
  | indentedCode => .codeBlock
  | htmlBlock => .htmlBlock
  | list start => .list start.isSome
  | item => .item
  | footnote => .footnote
  | definitionList => .definitionList
  | definitionTitle => .definitionTitle
  | definition => .definition
  | table _ => .table
  | tableHead => .tableHead
  | tableRow => .tableRow
  | tableCell => .tableCell
  | emphasis => .emphasis
  | strong => .strong
  | strikethrough => .strikethrough
  | superscript => .superscript
  | subscript => .subscript
  | link _ _ => .link
  | image _ _ => .image
  | metadata => .metadata

inductive Event where
  | enter (tag : Tag)
  | leave (tag : TagEnd)
  | text (text : String)
  | code (text : String)
  | html (text : String)
  | inlineHtml (text : String)
  | footnoteReference (name : String)
  | inlineMath (text : String)
  | displayMath (text : String)
  | softBreak
  | hardBreak
  | rule
  | taskMarker (checked : Bool)
  deriving DecidableEq, Repr

end DiagramDoc
