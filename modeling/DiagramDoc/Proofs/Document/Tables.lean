import DiagramDoc.Proofs.Document.Images

/-! # Tables

A writer keeps its place in a table: the alignments of the columns, the number of cells in front of
the next one, and whether the cells are those of the head. The events of a table move the place, and
all other events neither read nor change it. So a table writes what its own alignments, head and
rows say, cell by cell, whatever was written before: each row starts at the first column, and a
table takes nothing over from another.
-/

namespace DiagramDoc

/-! ### Documents with tables -/

/-- The events that are part of a table: the start and the end of a table, a head, a row or a
cell. -/
def Event.isTabular : Event → Bool
  | enter (.table _) | enter .tableHead | enter .tableRow | enter .tableCell => true
  | leave .table | leave .tableHead | leave .tableRow | leave .tableCell => true
  | _ => false

/-- Events among which there is no part of a table. -/
structure Content where
  events : List Event
  not_tabular : ∀ event ∈ events, event.isTabular = false

theorem isTabular_enclose {tag : Tag} {events : List Event}
    (htag : Event.isTabular (.enter tag) = false ∧ Event.isTabular (.leave tag.toEnd) = false)
    (hevents : ∀ event ∈ events, event.isTabular = false) :
    ∀ event ∈ enclose tag events, event.isTabular = false := by
  intro event hmem
  rw [enclose, List.mem_append, List.mem_append, List.mem_singleton, List.mem_singleton] at hmem
  obtain (rfl | hmem) | rfl := hmem
  · exact htag.1
  · exact hevents event hmem
  · exact htag.2

theorem isTabular_of_isSpan {tag : Tag} (hspan : tag.isSpan = true) :
    Event.isTabular (.enter tag) = false ∧ Event.isTabular (.leave tag.toEnd) = false := by
  cases tag with
  | emphasis | strong | strikethrough | superscript | subscript | link url title =>
    exact ⟨rfl, rfl⟩
  | _ => cases hspan

theorem isTabular_of_isInline {events : List Event} (h : IsInline events) :
    ∀ event ∈ events, event.isTabular = false := by
  induction h with
  | nil => exact List.forall_mem_nil _
  | append _ _ ih ihmore => exact List.forall_mem_append.2 ⟨ih, ihmore⟩
  | @atom event hatom =>
    rw [List.forall_mem_singleton]
    cases event with
    | enter tag | leave tag | rule | taskMarker checked => cases hatom
    | _ => rfl
  | span hspan _ ih => exact isTabular_enclose (isTabular_of_isSpan hspan) ih
  | image _ ih => exact isTabular_enclose ⟨rfl, rfl⟩ ih

def Content.ofInline {events : List Event} (h : IsInline events) : Content :=
  ⟨events, isTabular_of_isInline h⟩

/-- A table: how its columns are aligned, and what is in the cells of its head and of its rows. -/
structure Table where
  alignments : List Alignment
  head : List Content
  rows : List (List Content)

/-- A part of a document: a table, or something between tables. -/
inductive Part where
  | content (content : Content)
  | table (table : Table)

def cellEvents (cells : List Content) : List Event :=
  cells.flatMap fun cell => enclose .tableCell cell.events

def Table.events (t : Table) : List Event :=
  enclose (.table t.alignments) (enclose .tableHead (cellEvents t.head) ++
    t.rows.flatMap fun row => enclose .tableRow (cellEvents row))

def Part.events : Part → List Event
  | content c => c.events
  | table t => t.events

/-! ### What is written -/

/-- What a part of a document is to be written as: markup, and in between what its contents
write. -/
inductive Piece where
  | markup (html : String)
  | content (content : Content)

/-- The attribute for an alignment, if there is one. -/
def Alignment.style : Alignment → String
  | unset => ""
  | left => " style=\"text-align:left\""
  | center => " style=\"text-align:center\""
  | right => " style=\"text-align:right\""

/-- The start tag of a cell: its element, and the alignment of its column if the column has one. -/
def cellStart (name : String) (alignment : Option Alignment) : String :=
  "<" ++ name ++ alignment.elim "" Alignment.style ++ ">"

def cellEnd (name : String) : String := "</" ++ name ++ ">"

/-- Cells in a row, the first of which is in column `k`. -/
def cellPieces (name : String) (alignments : List Alignment) (k : Nat) (cells : List Content) :
    List Piece :=
  (cells.zipIdx k).flatMap fun (cell, k) =>
    [.markup (cellStart name alignments[k]?), .content cell, .markup (cellEnd name)]

def rowPieces (alignments : List Alignment) (row : List Content) : List Piece :=
  [Piece.markup "<tr>"] ++ cellPieces "td" alignments 0 row ++ [Piece.markup "</tr>"]

def Table.pieces (t : Table) : List Piece :=
  [Piece.markup "<table>", Piece.markup "<thead><tr>"] ++ cellPieces "th" t.alignments 0 t.head ++
    [Piece.markup "</tr></thead><tbody>"] ++ t.rows.flatMap (rowPieces t.alignments) ++
    [Piece.markup "</tbody></table>"]

def Part.pieces : Part → List Piece
  | content c => [.content c]
  | table t => t.pieces

namespace Writer

variable {σ : Type} (s : WriterSettings σ) (w : Writer σ)

def writePiece : Piece → List Fragment × Writer σ
  | .markup html => ([.markup html], w)
  | .content content => run s w content.events

/-- Writes pieces one after the other. -/
def writePieces (w : Writer σ) : List Piece → List Fragment × Writer σ
  | [] => ([], w)
  | piece :: rest =>
    let (fragments, w) := writePiece s w piece
    let (more, w) := writePieces w rest
    (fragments ++ more, w)

theorem writePieces_cons (piece : Piece) (pieces : List Piece) :
    writePieces s w (piece :: pieces) =
      ((writePiece s w piece).1 ++ (writePieces s (writePiece s w piece).2 pieces).1,
        (writePieces s (writePiece s w piece).2 pieces).2) := rfl

theorem writePieces_singleton (piece : Piece) :
    writePieces s w [piece] = writePiece s w piece := by
  rw [writePieces_cons, writePieces, List.append_nil]

theorem writePieces_append (pieces more : List Piece) :
    writePieces s w (pieces ++ more) =
      ((writePieces s w pieces).1 ++ (writePieces s (writePieces s w pieces).2 more).1,
        (writePieces s (writePieces s w pieces).2 more).2) := by
  induction pieces generalizing w with
  | nil => rfl
  | cons piece pieces ih =>
    rw [List.cons_append, writePieces_cons, writePieces_cons, ih, List.append_assoc]

/-- The texts of pieces one after the other: markup as it stands, and what the contents write. -/
def pieceTexts (w : Writer σ) : List Piece → List String
  | [] => []
  | .markup html :: rest => html :: pieceTexts w rest
  | .content content :: rest =>
    concatHtml (run s w content.events).1 :: pieceTexts (run s w content.events).2 rest

theorem concatHtml_writePieces (pieces : List Piece) :
    concatHtml (writePieces s w pieces).1 = String.join (pieceTexts s w pieces) := by
  induction pieces generalizing w with
  | nil => rfl
  | cons piece pieces ih =>
    rw [writePieces_cons, concatHtml_append, ih]
    cases piece with
    | markup html =>
      have hmarkup : concatHtml [.markup html] = html := String.empty_append
      rw [writePiece, pieceTexts, String.join_cons, hmarkup]
    | content content => rw [writePiece, pieceTexts, String.join_cons]

/-! ### The place in a table -/

def withTable (t : TableCursor) : Writer σ := { w with table := t }

theorem inline_withTable (t : TableCursor) (text html : String) :
    (w.withTable t).inline text html =
      ((w.inline text html).1, (w.inline text html).2.withTable t) := by
  obtain ⟨capture, table, outline, codeBlocks, state⟩ := w
  cases capture with
  | nothing =>
    cases hopen : outline.isOpen with
    | true =>
      rw [inline_of_isOpen (w := ⟨.nothing, table, outline, codeBlocks, state⟩) rfl hopen]
      exact inline_of_isOpen rfl hopen text html
    | false =>
      rw [inline_of_isOpen_eq_false (w := ⟨.nothing, table, outline, codeBlocks, state⟩) rfl hopen]
      exact inline_of_isOpen_eq_false rfl hopen text html
  | code info source | image url title alt => rfl

theorem leave_withTable (t : TableCursor) {tag : TagEnd}
    (htag : Event.isTabular (.leave tag) = false) :
    leave s (w.withTable t) tag = ((leave s w tag).1, (leave s w tag).2.withTable t) := by
  cases tag with
  | heading =>
    rw [leave_heading, leave_heading]
    rfl
  | codeBlock =>
    obtain ⟨capture, table, outline, codeBlocks, state⟩ := w
    cases capture with
    | code info source =>
      rw [leave, leave]
      dsimp only [withTable]
      rw [finishCode_eq, finishCode_eq]
    | nothing | image url title alt => rfl
  | image =>
    obtain ⟨capture, table, outline, codeBlocks, state⟩ := w
    cases capture with
    | image url title alt =>
      exact inline_withTable ⟨.nothing, table, outline, codeBlocks, state⟩ t alt
        (imageTag url title alt)
    | nothing | code info source => rfl
  | emphasis | strong | strikethrough | link => exact w.inline_withTable t _ _
  | list ordered => cases ordered <;> rfl
  | table | tableHead | tableRow | tableCell => cases htag
  | _ => rfl

/-- An event that is no part of a table neither reads nor changes the place in it. -/
theorem step_withTable (t : TableCursor) {event : Event} (hevent : event.isTabular = false) :
    step s (w.withTable t) event = ((step s w event).1, (step s w event).2.withTable t) := by
  cases event with
  | enter tag =>
    cases tag with
    | emphasis | strong | strikethrough | link url title => exact w.inline_withTable t _ _
    | table alignments => cases hevent
    | tableHead | tableRow | tableCell => cases hevent
    | _ => rfl
  | leave tag => exact leave_withTable s w t hevent
  | text _ | code _ | html _ | inlineHtml _ | softBreak | hardBreak =>
    exact w.inline_withTable t _ _
  | taskMarker checked => cases checked <;> rfl
  | _ => rfl

theorem run_withTable (t : TableCursor) {events : List Event}
    (hevents : ∀ event ∈ events, event.isTabular = false) :
    run s (w.withTable t) events = ((run s w events).1, (run s w events).2.withTable t) := by
  induction events generalizing w with
  | nil => rfl
  | cons event events ih =>
    rw [List.forall_mem_cons] at hevents
    rw [run_cons, run_cons, step_withTable s w t hevents.1, ih _ hevents.2]

/-! ### Tables -/

/-- Events that start at the place `t` of a table and stop at `t'` write pieces, and nothing else
comes of them. -/
def WritesPieces (t t' : TableCursor) (events : List Event) (pieces : List Piece) : Prop :=
  ∀ w : Writer σ, run s (w.withTable t) events =
    ((writePieces s w pieces).1, (writePieces s w pieces).2.withTable t')

variable {s} {t t' t'' : TableCursor} {events more : List Event} {pieces pieces' : List Piece}

theorem writesPieces_nil : WritesPieces s t t [] [] := fun _ => rfl

theorem WritesPieces.append (h : WritesPieces s t t' events pieces)
    (hmore : WritesPieces s t' t'' more pieces') :
    WritesPieces s t t'' (events ++ more) (pieces ++ pieces') := by
  intro w
  rw [run_append, h, hmore, writePieces_append]

/-- An event of a table writes markup and moves the place. -/
theorem writesPieces_event {event : Event} {html : String}
    (h : ∀ w : Writer σ, step s (w.withTable t) event = ([.markup html], w.withTable t')) :
    WritesPieces s t t' [event] [.markup html] := by
  intro w
  rw [run_singleton, h]
  rfl

theorem writesPieces_content (t : TableCursor) (content : Content) :
    WritesPieces s t t content.events [.content content] := by
  intro w
  rw [run_withTable s w t content.not_tabular, writePieces_singleton]
  rfl

theorem WritesPieces.enclose {tag : Tag} {first last : String} {t₁ t₂ : TableCursor}
    (hfirst : ∀ w : Writer σ, step s (w.withTable t) (.enter tag) =
      ([.markup first], w.withTable t₁))
    (hlast : ∀ w : Writer σ, step s (w.withTable t₂) (.leave tag.toEnd) =
      ([.markup last], w.withTable t'))
    (h : WritesPieces s t₁ t₂ events pieces) :
    WritesPieces s t t' (enclose tag events) ([.markup first] ++ pieces ++ [.markup last]) :=
  ((writesPieces_event hfirst).append h).append (writesPieces_event hlast)

theorem cellStyle_eq (t : TableCursor) :
    t.cellStyle = (t.alignments[t.column]?).elim "" Alignment.style := by
  rw [TableCursor.cellStyle]
  rcases t.alignments[t.column]? with _ | _ | _ | _ | _ <;> rfl

/-- A cell has the alignment of its column, and its end moves on to the next column. -/
theorem writesPieces_cell (alignments : List Alignment) (k : Nat) (inHead : Bool)
    (cell : Content) :
    WritesPieces s ⟨alignments, k, inHead⟩ ⟨alignments, k + 1, inHead⟩
      (DiagramDoc.enclose .tableCell cell.events)
      [.markup (cellStart (if inHead then "th" else "td") alignments[k]?), .content cell,
        .markup (cellEnd (if inHead then "th" else "td"))] := by
  have hstart (w : Writer σ) : step s (w.withTable ⟨alignments, k, inHead⟩) (.enter .tableCell) =
      ([.markup (cellStart (if inHead then "th" else "td") alignments[k]?)],
        w.withTable ⟨alignments, k, inHead⟩) := by
    rw [cellStart, ← cellStyle_eq ⟨alignments, k, inHead⟩]
    rfl
  have hend (w : Writer σ) : step s (w.withTable ⟨alignments, k, inHead⟩) (.leave .tableCell) =
      ([.markup (cellEnd (if inHead then "th" else "td"))],
        w.withTable ⟨alignments, k + 1, inHead⟩) := rfl
  exact WritesPieces.enclose hstart hend (writesPieces_content ⟨alignments, k, inHead⟩ cell)

theorem writesPieces_cells (alignments : List Alignment) (k : Nat) (inHead : Bool)
    (cells : List Content) :
    WritesPieces s ⟨alignments, k, inHead⟩ ⟨alignments, k + cells.length, inHead⟩
      (cellEvents cells) (cellPieces (if inHead then "th" else "td") alignments k cells) := by
  induction cells generalizing k with
  | nil => exact writesPieces_nil
  | cons cell cells ih =>
    have hall := (writesPieces_cell (s := s) alignments k inHead cell).append (ih (k + 1))
    rw [Nat.add_right_comm, Nat.add_assoc] at hall
    rw [cellPieces, List.zipIdx_cons, List.flatMap_cons, List.length_cons]
    exact hall

/-- A row starts at the first column, wherever the row in front of it ended. -/
theorem writesPieces_row (alignments : List Alignment) (k : Nat) (row : List Content) :
    WritesPieces s ⟨alignments, k, false⟩ ⟨alignments, 0 + row.length, false⟩
      (DiagramDoc.enclose .tableRow (cellEvents row)) (rowPieces alignments row) :=
  WritesPieces.enclose (fun _ => rfl) (fun _ => rfl) (writesPieces_cells alignments 0 false row)

theorem exists_writesPieces_rows (alignments : List Alignment) (k : Nat)
    (rows : List (List Content)) :
    ∃ k', WritesPieces s ⟨alignments, k, false⟩ ⟨alignments, k', false⟩
      (rows.flatMap fun row => DiagramDoc.enclose .tableRow (cellEvents row))
      (rows.flatMap (rowPieces alignments)) := by
  -- A row stops behind its last cell, so the next row may start from any place.
  induction rows generalizing k with
  | nil => exact ⟨k, writesPieces_nil⟩
  | cons row rows ih =>
    obtain ⟨k', hrows⟩ := ih (0 + row.length)
    exact ⟨k', (writesPieces_row alignments k row).append hrows⟩

/-- A table is written in the same way from any place of another one. -/
theorem exists_writesPieces_table (t : TableCursor) (table : Table) :
    ∃ t', WritesPieces s t t' table.events table.pieces := by
  obtain ⟨alignments, head, rows⟩ := table
  have hhead : WritesPieces s ⟨alignments, 0, false⟩ ⟨alignments, 0 + head.length, false⟩
      (DiagramDoc.enclose .tableHead (cellEvents head))
      ([.markup "<thead><tr>"] ++ cellPieces "th" alignments 0 head ++
        [.markup "</tr></thead><tbody>"]) :=
    WritesPieces.enclose (fun _ => rfl) (fun _ => rfl) (writesPieces_cells alignments 0 true head)
  obtain ⟨k', hrows⟩ := exists_writesPieces_rows (s := s) alignments (0 + head.length) rows
  have hstart (w : Writer σ) : step s (w.withTable t) (.enter (.table alignments)) =
      ([.markup "<table>"], w.withTable ⟨alignments, 0, false⟩) := rfl
  have hend (w : Writer σ) : step s (w.withTable ⟨alignments, k', false⟩) (.leave .table) =
      ([.markup "</tbody></table>"], w.withTable ⟨alignments, k', false⟩) := rfl
  have hall := WritesPieces.enclose hstart hend (hhead.append hrows)
  refine ⟨⟨alignments, k', false⟩, ?_⟩
  simpa only [Table.events, Table.pieces, List.append_assoc, List.cons_append,
    List.nil_append] using hall

/-- **Each cell has its own column's alignment.** The tables of a document are written as their
pieces: cell `k` of the head and of each row is opened with the alignment of column `k`, if the
table has one for it, and closed with the element that opened it, which is `th` in the head and `td`
in the rows. The pieces of a table depend on that table only, so nothing carries over from row to
row or from table to table, and the writer behind the document has seen nothing but the contents.
The text of the document is the texts of the pieces. -/
theorem exists_run_eq_writePieces (s : WriterSettings σ) (w : Writer σ) (parts : List Part) :
    (∃ t, run s w (parts.flatMap Part.events) =
      ((writePieces s w (parts.flatMap Part.pieces)).1,
        (writePieces s w (parts.flatMap Part.pieces)).2.withTable t)) ∧
      concatHtml (run s w (parts.flatMap Part.events)).1 =
        String.join (pieceTexts s w (parts.flatMap Part.pieces)) := by
  have hparts (t : TableCursor) : ∃ t', WritesPieces s t t' (parts.flatMap Part.events)
      (parts.flatMap Part.pieces) := by
    induction parts generalizing t with
    | nil => exact ⟨t, writesPieces_nil⟩
    | cons part parts ih =>
      obtain ⟨t', hpart⟩ : ∃ t', WritesPieces s t t' part.events part.pieces := by
        cases part with
        | content content => exact ⟨t, writesPieces_content t content⟩
        | table table => exact exists_writesPieces_table t table
      obtain ⟨t'', hrest⟩ := ih t'
      exact ⟨t'', hpart.append hrest⟩
  obtain ⟨t, hwrites⟩ := hparts w.table
  have hrun : run s w (parts.flatMap Part.events) =
      ((writePieces s w (parts.flatMap Part.pieces)).1,
        (writePieces s w (parts.flatMap Part.pieces)).2.withTable t) := hwrites w
  refine ⟨⟨t, hrun⟩, ?_⟩
  rw [hrun, concatHtml_writePieces]

/-- A row with more cells than there are columns does not move those of the next row. -/
example :
    let cell : Content := .ofInline (.atom rfl : IsInline [.text "a"])
    concatHtml (run ⟨true, none⟩ (.start false ())
        (Table.events ⟨[.right], [cell], [[cell, cell], [cell]]⟩)).1 =
      "<table><thead><tr><th style=\"text-align:right\">a</th></tr></thead><tbody>" ++
        "<tr><td style=\"text-align:right\">a</td><td>a</td></tr>" ++
        "<tr><td style=\"text-align:right\">a</td></tr></tbody></table>" := by
  decide +kernel

end Writer

end DiagramDoc
