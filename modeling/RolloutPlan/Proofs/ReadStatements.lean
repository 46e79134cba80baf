import RolloutPlan.Proofs.ReadDrawing

/-!
# Reading the statements of a drawing

A drawing has one line for each statement, as far as its lines end outside of quotes. A reader who finds
the strings in quotes therefore finds the statements as well, and all of them.

* `statement?`: the statement that a line makes.
* `readStatements?`: the statements of a text.
* `Graph.readStatements?_drawingText`: the statements of a drawing whose names can stand in quotes.
-/

namespace RolloutPlan

set_option autoImplicit false

/-! ## Statements of lines -/

/-- A statement has two strings in quotes: the ends of an arrow, or the name and the label of a box. -/
def statement? (line : List Piece) : Option DrawingLine :=
  match line.filterMap Piece.quoted? with
  | [a, b] =>
    if line = outsides " " ++ .quoted a :: (outsides " -> " ++ .quoted b :: outsides ";") then
      some (.arrow (.ofList a) (.ofList b))
    else if line = outsides " " ++ .quoted a :: (outsides " [label=" ++ .quoted b :: outsides "];") then
      some (.box (.ofList a) (.ofList b))
    else none
  | _ => none

/-- The statements of a text, line by line. Lines of other forms are passed over. -/
def readStatements? (text : String) : Option (List DrawingLine) :=
  (Piece.read? text.toList).map fun l => (l.splitOn (.outside '\n')).filterMap statement?

namespace DrawingLine

/-- The pieces of a line without its end. -/
def linePieces : DrawingLine → List Piece
  | .box name label =>
    outsides " " ++ .quoted name.toList :: (outsides " [label=" ++
      .quoted label.toList :: outsides "];")
  | .arrow before after =>
    outsides " " ++ .quoted before.toList :: (outsides " -> " ++ .quoted after.toList :: outsides ";")

theorem pieces_eq (line : DrawingLine) : line.pieces = line.linePieces ++ [.outside '\n'] := by
  cases line <;> simp [pieces, linePieces, outsides]

theorem newline_not_mem_linePieces (line : DrawingLine) : .outside '\n' ∉ line.linePieces := by
  cases line <;> simp [linePieces]

@[simp]
theorem statement?_linePieces (line : DrawingLine) : statement? line.linePieces = some line := by
  have hquoted : line.linePieces.filterMap Piece.quoted? = line.quotedStrings.map String.toList := by
    rw [← filterMap_quoted?_pieces, pieces_eq, List.filterMap_append]
    exact (List.append_nil _).symm
  cases line with
  | box name label =>
    -- a box is no arrow: what stands between its strings is another text
    have hne : linePieces (.box name label) ≠ outsides " " ++ .quoted name.toList ::
        (outsides " -> " ++ .quoted label.toList :: outsides ";") := by
      simp [linePieces, outsides]
    rw [statement?, hquoted]
    simp only [quotedStrings, List.map_cons, List.map_nil]
    rw [if_neg hne, if_pos (linePieces.eq_1 name label), String.ofList_toList, String.ofList_toList]
  | arrow before after =>
    rw [statement?, hquoted]
    simp only [quotedStrings, List.map_cons, List.map_nil]
    rw [if_pos (linePieces.eq_2 before after), String.ofList_toList, String.ofList_toList]

end DrawingLine

/-! ## Statements of drawings -/

theorem splitOn_flatMap_pieces (l : List DrawingLine) (rest : List Piece) :
    (l.flatMap DrawingLine.pieces ++ rest).splitOn (.outside '\n') =
      l.map DrawingLine.linePieces ++ rest.splitOn (.outside '\n') := by
  induction l with
  | nil => rfl
  | cons line l ih =>
    rw [List.flatMap_cons, line.pieces_eq, List.append_assoc, List.append_assoc,
      List.singleton_append,
      List.splitOn_append_cons_self_of_not_mem line.newline_not_mem_linePieces, ih, List.map_cons,
      List.cons_append]

namespace Graph

variable {g : Graph}

theorem filterMap_statement?_header (rest : List Piece) :
    ((headerPieces ++ rest).splitOn (.outside '\n')).filterMap statement? =
      (rest.splitOn (.outside '\n')).filterMap statement? := by
  have hheader : headerPieces = headerPieces.dropLast ++ [.outside '\n'] := by
    decide
  have hnone : (headerPieces.dropLast.splitOn (.outside '\n')).filterMap statement? = [] := by
    decide
  rw [hheader, List.append_assoc, List.singleton_append, List.splitOn_append_cons_self,
    List.filterMap_append, hnone, List.nil_append]

theorem filterMap_statement?_pieces :
    (g.pieces.splitOn (.outside '\n')).filterMap statement? = g.lines := by
  have hfooter : ((outsides drawingFooter).splitOn (.outside '\n')).filterMap statement? = [] := by
    decide
  have hlines : (g.lines.map DrawingLine.linePieces).filterMap statement? = g.lines := by
    rw [List.filterMap_map]
    exact (List.filterMap_congr fun line _ => line.statement?_linePieces).trans List.filterMap_some
  rw [pieces, List.append_assoc, filterMap_statement?_header, splitOn_flatMap_pieces,
    List.filterMap_append, hlines, hfooter, List.append_nil]

/-- The statements of a drawing are read as they were written if its names can stand in quotes. -/
theorem readStatements?_drawingText (h : ∀ i ∈ g.mentioned, i.Quotable) :
    readStatements? g.drawingText = some g.lines := by
  obtain ⟨hread, -⟩ := read?_drawingText_iff.2 ⟨rfl, h⟩
  rw [readStatements?, hread, Option.map_some, filterMap_statement?_pieces]

end Graph

end RolloutPlan
