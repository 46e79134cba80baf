import RolloutPlan.Proofs.DrawnGraph

/-!
# Reading a drawing

A reader of drawings takes a quoted string to end at the first quote that no backslash stands before.
Names are written between quotes as they are, so that it depends on the names whether the reader finds the
strings that were written.

* `Piece.read?`: the pieces of a text, in quotes and outside of them.
* `Piece.read?_written_iff`: pieces that were written are read again when every quoted string closes where
  it was closed, and only then.
* `Graph.pieces`, `Graph.quotedStrings`: what a drawing is written from, and what is in quotes in it.
* `Identifier.Quotable`: the names of a step can stand in quotes. `Identifier.closes_iff`.
* `GraphSource.isReadFrom_toDot_iff`: what is read of the drawing of a graph that is built.
-/

namespace RolloutPlan

set_option autoImplicit false

/-! ## Pieces of a text -/

/-- A piece of a text: a character outside quotes, or a string in quotes. -/
inductive Piece where
  | outside (c : Char)
  | quoted (s : List Char)
deriving DecidableEq

namespace Piece

def written : Piece → List Char
  | outside c => [c]
  | quoted s => '"' :: (s ++ ['"'])

def quoted? : Piece → Option (List Char)
  | outside _ => none
  | quoted s => some s

@[simp] theorem filterMap_cons_outside (c : Char) (l : List Piece) :
    (outside c :: l).filterMap quoted? = l.filterMap quoted? := rfl

@[simp] theorem filterMap_cons_quoted (s : List Char) (l : List Piece) :
    (quoted s :: l).filterMap quoted? = s :: l.filterMap quoted? := rfl

mutual
/-- The pieces of a text, read from outside quotes. A quoted string that does not end cannot be read. -/
def read? : List Char → Option (List Piece)
  | [] => some []
  | c :: r =>
    if c = '"' then (readQuoted? false r).map fun p => quoted p.1 :: p.2
    else (read? r).map (outside c :: ·)
/-- The rest of a quoted string, which ends at the first quote that no backslash stands before, and the
pieces after it. The flag says whether a backslash has just been read. -/
def readQuoted? (escaped : Bool) : List Char → Option (List Char × List Piece)
  | [] => none
  | c :: r =>
    if c = '"' ∧ escaped = false then (read? r).map ([], ·)
    else (readQuoted? (c = '\\') r).map fun p => (c :: p.1, p.2)
end

/-! ## Strings that close where they were closed -/

/-- Every quote in a string stands after a backslash. The flag says whether a backslash stands before the
string. -/
def Escaped : Bool → List Char → Prop
  | _, [] => True
  | escaped, c :: s => (c = '"' → escaped = true) ∧ Escaped (c = '\\') s

/-- A backslash stands before what follows a string. -/
def endsEscaped : Bool → List Char → Bool
  | escaped, [] => escaped
  | _, c :: s => endsEscaped (c = '\\') s

/-- A reader that is in a quoted string reads this much of it when a quote follows. -/
def Closes (s : List Char) : Prop := Escaped false s ∧ endsEscaped false s = false

instance decidableEscaped : ∀ escaped s, Decidable (Escaped escaped s)
  | _, [] => inferInstanceAs (Decidable True)
  | escaped, c :: s =>
    haveI := decidableEscaped (c = '\\') s
    inferInstanceAs (Decidable ((c = '"' → escaped = true) ∧ Escaped (c = '\\') s))

instance (s : List Char) : Decidable (Closes s) :=
  inferInstanceAs (Decidable (Escaped false s ∧ endsEscaped false s = false))

theorem readQuoted?_append_iff {s r : List Char} {l : List Piece} {escaped : Bool} :
    readQuoted? escaped (s ++ '"' :: r) = some (s, l) ↔
      (Escaped escaped s ∧ endsEscaped escaped s = false) ∧ read? r = some l := by
  induction s generalizing escaped with
  | nil => cases escaped <;> simp [readQuoted?, Escaped, endsEscaped]
  | cons c s ih =>
    rw [List.cons_append, readQuoted?, Escaped, endsEscaped, and_assoc (a := _ → _), and_assoc, ← ih]
    by_cases hc : c = '"' ∧ escaped = false
    · -- this quote ends the string before its end
      simp [hc]
    · have hescaped : c = '"' → escaped = true := by simpa using hc
      rw [if_neg hc, and_iff_right hescaped]
      simp [Option.map_eq_some_iff]

theorem read?_quoted_append (s r : List Char) : read? ((quoted s).written ++ r) =
    (readQuoted? false (s ++ '"' :: r)).map fun p => quoted p.1 :: p.2 := by
  simp [written, read?]

theorem read?_outside_append {c : Char} (hc : c ≠ '"') (r : List Char) :
    read? ((outside c).written ++ r) = (read? r).map (outside c :: ·) := by
  simp [written, read?, hc]

/-- Pieces with the same quoted strings as those that were written are read when every quoted string
closes where it was closed, and only then; and then they are the pieces that were written. -/
theorem read?_written_iff {l m : List Piece} (hl : outside '"' ∉ l) :
    read? (l.flatMap written) = some m ∧ m.filterMap quoted? = l.filterMap quoted? ↔
      m = l ∧ ∀ s ∈ l.filterMap quoted?, Closes s := by
  induction l generalizing m with
  | nil =>
    rw [List.flatMap_nil, read?, Option.some.injEq, List.filterMap_nil, eq_comm]
    exact and_congr_right fun hm => by simp [hm]
  | cons x l ih =>
    have ih {m : List Piece} := @ih m fun hc => hl (List.mem_cons_of_mem x hc)
    cases x with
    | outside c =>
      have hc : c ≠ '"' := by
        rintro rfl
        exact hl List.mem_cons_self
      rw [List.flatMap_cons, read?_outside_append hc, Option.map_eq_some_iff,
        filterMap_cons_outside]
      constructor
      · rintro ⟨⟨m, hm, rfl⟩, hquoted⟩
        rw [filterMap_cons_outside] at hquoted
        obtain ⟨rfl, hcloses⟩ := ih.1 ⟨hm, hquoted⟩
        exact ⟨rfl, hcloses⟩
      · rintro ⟨rfl, hcloses⟩
        obtain ⟨hm, -⟩ := ih.2 ⟨rfl, hcloses⟩
        exact ⟨⟨l, hm, rfl⟩, rfl⟩
    | quoted s =>
      rw [List.flatMap_cons, read?_quoted_append, Option.map_eq_some_iff,
        filterMap_cons_quoted, List.forall_mem_cons]
      constructor
      · rintro ⟨⟨⟨s', m⟩, hm, rfl⟩, hquoted⟩
        rw [filterMap_cons_quoted] at hquoted
        -- the first string that is read is the first that was written, so it closed at its end
        obtain ⟨rfl, hrest⟩ := List.cons.inj hquoted
        obtain ⟨hs, hm⟩ := readQuoted?_append_iff.1 hm
        obtain ⟨rfl, hcloses⟩ := ih.1 ⟨hm, hrest⟩
        exact ⟨rfl, hs, hcloses⟩
      · rintro ⟨rfl, hs, hcloses⟩
        obtain ⟨hm, -⟩ := ih.2 ⟨rfl, hcloses⟩
        exact ⟨⟨(s, l), readQuoted?_append_iff.2 ⟨hs, hm⟩, rfl⟩, rfl⟩

/-! ## Names between other characters -/

theorem endsEscaped_eq (escaped : Bool) (s : List Char) :
    endsEscaped escaped s = (s.getLast?.map (decide <| · = '\\')).getD escaped := by
  induction s generalizing escaped with
  | nil => rfl
  | cons c s ih =>
    rw [endsEscaped, ih, List.getLast?_cons]
    cases s.getLast? <;> rfl

theorem endsEscaped_false_iff {s : List Char} :
    endsEscaped false s = true ↔ s.getLast? = some '\\' := by
  rw [endsEscaped_eq]
  cases s.getLast? <;> simp

theorem escaped_iff {escaped : Bool} {s : List Char} : Escaped escaped s ↔
    ∀ a b, s = a ++ '"' :: b → endsEscaped escaped a = true := by
  induction s generalizing escaped with
  | nil => simp [Escaped]
  | cons c s ih =>
    rw [Escaped, ih]
    constructor
    · rintro ⟨hc, hs⟩ (_ | ⟨d, a⟩) b h
      · exact hc (List.cons.inj h).1
      · obtain ⟨rfl, htail⟩ := List.cons.inj h
        exact hs a b htail
    · intro h
      exact ⟨fun hc => h [] s (by rw [hc]; rfl), fun a b hs => h (c :: a) b (by rw [hs]; rfl)⟩

variable {sep : Char} (hquote : sep ≠ '"') (hbackslash : sep ≠ '\\')
include hquote hbackslash

theorem escaped_append_cons {escaped : Bool} {a b : List Char} :
    Escaped escaped (a ++ sep :: b) ↔ Escaped escaped a ∧ Escaped false b := by
  induction a generalizing escaped with
  | nil => simp [Escaped, hquote, hbackslash]
  | cons c a ih => rw [List.cons_append, Escaped, Escaped, ih, and_assoc]

omit hquote in
theorem endsEscaped_append_cons {escaped : Bool} {a b : List Char} :
    endsEscaped escaped (a ++ sep :: b) = endsEscaped false b := by
  induction a generalizing escaped with
  | nil => simp [endsEscaped, hbackslash]
  | cons c a ih => rw [List.cons_append, endsEscaped, ih]

theorem closes_append_cons {a b : List Char} :
    Closes (a ++ sep :: b) ↔ Escaped false a ∧ Closes b := by
  rw [Closes, escaped_append_cons hquote hbackslash, endsEscaped_append_cons hbackslash, and_assoc]
  rfl

end Piece

/-! ## The pieces of a drawing -/

/-- The characters of a text as pieces outside of quotes. -/
def outsides (text : String) : List Piece := text.toList.map .outside

def DrawingLine.pieces : DrawingLine → List Piece
  | .box name label =>
    outsides " " ++ .quoted name.toList :: (outsides " [label=" ++
      .quoted label.toList :: outsides "];\n")
  | .arrow before after =>
    outsides " " ++ .quoted before.toList :: (outsides " -> " ++
      .quoted after.toList :: outsides ";\n")

/-- The strings that are in quotes in a line: names, and the label of a box. -/
def DrawingLine.quotedStrings : DrawingLine → List String
  | .box name label => [name, label]
  | .arrow before after => [before, after]

def fontName : String := "Helvetica,Arial,sans-serif"

namespace Graph

def headerPieces : List Piece :=
  outsides "digraph regexp \x7b \n fontname=" ++ .quoted fontName.toList ::
    (outsides "\n node [fontname=" ++ .quoted fontName.toList ::
      (outsides "]\n edge [fontname=" ++ .quoted fontName.toList :: outsides "]\n"))

/-- The pieces that the drawing of a graph is written from. -/
def pieces (g : Graph) : List Piece :=
  headerPieces ++ g.lines.flatMap DrawingLine.pieces ++ outsides drawingFooter

/-- The strings that are in quotes in the drawing of a graph, in the order in which they are written. -/
def quotedStrings (g : Graph) : List String :=
  List.replicate 3 fontName ++ g.lines.flatMap DrawingLine.quotedStrings

end Graph

@[simp] theorem flatMap_written_outsides (text : String) :
    (outsides text).flatMap Piece.written = text.toList := by
  rw [outsides, List.flatMap_map]
  exact List.flatMap_singleton' _

@[simp]
theorem mem_outsides {text : String} {c : Char} : .outside c ∈ outsides text ↔ c ∈ text.toList := by
  simp [outsides]

@[simp]
theorem filterMap_quoted?_outsides (text : String) : (outsides text).filterMap Piece.quoted? = [] := by
  rw [outsides, List.filterMap_map]
  exact List.filterMap_eq_nil_iff.2 fun _ _ => rfl

@[simp] theorem DrawingLine.flatMap_written_pieces (line : DrawingLine) :
    line.pieces.flatMap Piece.written = line.text.toList := by
  cases line <;>
    simp [pieces, text, Piece.written]

@[simp] theorem DrawingLine.filterMap_quoted?_pieces (line : DrawingLine) :
    line.pieces.filterMap Piece.quoted? = line.quotedStrings.map String.toList := by
  cases line <;>
    simp [pieces, quotedStrings, Piece.quoted?]

namespace Graph

variable {g : Graph}

theorem flatMap_written_headerPieces :
    headerPieces.flatMap Piece.written = drawingHeader.toList := by
  delta headerPieces drawingHeader fontName
  simp [Piece.written]

theorem flatMap_written_pieces : g.pieces.flatMap Piece.written = g.drawingText.toList := by
  rw [pieces, drawingText, List.flatMap_append, List.flatMap_append, List.flatMap_assoc,
    flatMap_written_headerPieces, flatMap_written_outsides, String.toList_append,
    String.toList_append, String.toList_join, List.flatMap_map]
  simp only [DrawingLine.flatMap_written_pieces]

theorem filterMap_quoted?_pieces :
    g.pieces.filterMap Piece.quoted? = g.quotedStrings.map String.toList := by
  have hheader : headerPieces.filterMap Piece.quoted? =
      (List.replicate 3 fontName).map String.toList := by
    simp [headerPieces, Piece.quoted?, List.replicate]
  rw [pieces, quotedStrings, List.filterMap_append, List.filterMap_append, List.filterMap_flatMap,
    hheader, filterMap_quoted?_outsides, List.append_nil, List.map_append, List.map_flatMap]
  simp only [DrawingLine.filterMap_quoted?_pieces]

theorem quote_not_mem_pieces : Piece.outside '"' ∉ g.pieces := by
  have hline (line : DrawingLine) : Piece.outside '"' ∉ line.pieces := by
    cases line <;> simp [DrawingLine.pieces]
  have hheader : Piece.outside '"' ∉ headerPieces := by
    simp [headerPieces]
  simp only [pieces, List.mem_append, List.mem_flatMap, mem_outsides, not_or, not_exists, not_and]
  exact ⟨⟨hheader, fun line _ => hline line⟩, by simp [drawingFooter]⟩

end Graph

/-! ## Names that can be quoted -/

/-- Every quote in a name stands right after a backslash. -/
def EscapesQuotes (name : String) : Prop :=
  ∀ a b, name.toList = a ++ '"' :: b → a.getLast? = some '\\'

theorem escaped_toList_iff {name : String} :
    Piece.Escaped false name.toList ↔ EscapesQuotes name := by
  simp only [Piece.escaped_iff, Piece.endsEscaped_false_iff, EscapesQuotes]

instance (name : String) : Decidable (EscapesQuotes name) :=
  decidable_of_iff _ escaped_toList_iff

/-- The parts of an identifier that are drawn can be written between quotes as they are. -/
structure Identifier.Quotable (i : Identifier) : Prop where
  serviceGroup : EscapesQuotes (shownGroup i.serviceGroup)
  resourceGroup : EscapesQuotes i.resourceGroup
  step : EscapesQuotes i.step
  /-- A backslash at the end would stand before the closing quote. -/
  step_end : i.step.toList.getLast? ≠ some '\\'

namespace Identifier

variable {i : Identifier}

theorem closes_iff {sep : Char} (hquote : sep ≠ '"') (hbackslash : sep ≠ '\\') :
    Piece.Closes ((shownGroup i.serviceGroup).toList ++
      sep :: (i.resourceGroup.toList ++ sep :: i.step.toList)) ↔ i.Quotable := by
  rw [Piece.closes_append_cons hquote hbackslash, Piece.closes_append_cons hquote hbackslash,
    Piece.Closes, ← Bool.not_eq_true, Piece.endsEscaped_false_iff]
  simp only [escaped_toList_iff]
  constructor
  · rintro ⟨hgroup, hresource, hstep, hend⟩
    exact ⟨hgroup, hresource, hstep, hend⟩
  · rintro ⟨hgroup, hresource, hstep, hend⟩
    exact ⟨hgroup, hresource, hstep, hend⟩

theorem closes_shownName_iff : Piece.Closes i.shownName.toList ↔ i.Quotable := by
  rw [toList_shownName, closes_iff (by decide) (by decide)]

theorem closes_shownLabel_iff : Piece.Closes i.shownLabel.toList ↔ i.Quotable := by
  rw [toList_shownLabel, closes_iff (by decide) (by decide)]

instance (i : Identifier) : Decidable i.Quotable := decidable_of_iff _ closes_shownName_iff

end Identifier

/-! ## What is read of a drawing -/

namespace DrawingLine

/-- The quoted strings of a line close where they were closed. -/
def Closed (line : DrawingLine) : Prop := ∀ s ∈ line.quotedStrings, Piece.Closes s.toList

theorem closed_box_iff {i : Identifier} : (box i.shownName i.shownLabel).Closed ↔ i.Quotable := by
  simp [Closed, quotedStrings, Identifier.closes_shownName_iff, Identifier.closes_shownLabel_iff]

theorem closed_arrow_iff {name : String} {i : Identifier} :
    (arrow name i.shownName).Closed ↔ Piece.Closes name.toList ∧ i.Quotable := by
  simp [Closed, quotedStrings, Identifier.closes_shownName_iff]

end DrawingLine

theorem Node.forall_closed_iff (n : Node) :
    (∀ line ∈ n.lines, line.Closed) ↔ ∀ i ∈ n.identifier :: n.children, i.Quotable := by
  rw [lines, List.forall_mem_cons, List.forall_mem_cons, List.forall_mem_map,
    DrawingLine.closed_box_iff]
  refine and_congr_right fun hn => forall₂_congr fun c _ => ?_
  rw [DrawingLine.closed_arrow_iff, Identifier.closes_shownName_iff, and_iff_right hn]

namespace Graph

variable {g : Graph}

theorem forall_closed_validationLines_iff : (∀ line ∈ g.validationLines, line.Closed) ↔
    ∀ i ∈ g.validationSteps.keys, i.Quotable := by
  have hname : Piece.Closes validationName.toList := by
    simp [validationName, Piece.Closes, Piece.Escaped, Piece.endsEscaped]
  rw [validationLines, List.forall_mem_map]
  refine forall₂_congr fun i _ => ?_
  rw [DrawingLine.closed_arrow_iff, and_iff_right hname]

theorem forall_closes_iff :
    (∀ s ∈ g.quotedStrings, Piece.Closes s.toList) ↔ ∀ i ∈ g.mentioned, i.Quotable := by
  have hfont : ∀ s ∈ List.replicate 3 fontName, Piece.Closes s.toList := by
    simp [fontName, Piece.Closes, Piece.Escaped, Piece.endsEscaped]
  rw [quotedStrings, List.forall_mem_append, and_iff_right hfont, List.forall_mem_flatMap, lines,
    List.forall_mem_append, List.forall_mem_flatMap, mentioned, List.forall_mem_append,
    List.forall_mem_flatMap]
  exact and_congr (forall₂_congr fun n _ => n.forall_closed_iff) forall_closed_validationLines_iff

/-- A reader finds the quoted strings of a graph in a text, in the order in which they are written. -/
def IsReadFrom (g : Graph) (text : String) : Prop := ∃ l, Piece.read? text.toList = some l ∧
  l.filterMap Piece.quoted? = g.quotedStrings.map String.toList

theorem read?_drawingText_iff {l : List Piece} :
    Piece.read? g.drawingText.toList = some l ∧
      l.filterMap Piece.quoted? = g.quotedStrings.map String.toList ↔
        l = g.pieces ∧ ∀ i ∈ g.mentioned, i.Quotable := by
  rw [← flatMap_written_pieces, ← filterMap_quoted?_pieces,
    Piece.read?_written_iff quote_not_mem_pieces, filterMap_quoted?_pieces, List.forall_mem_map,
    forall_closes_iff]

theorem isReadFrom_drawingText_iff :
    g.IsReadFrom g.drawingText ↔ ∀ i ∈ g.mentioned, i.Quotable := by
  simp only [IsReadFrom, read?_drawingText_iff, exists_eq_left]

end Graph

/-- A reader finds the names and labels in the drawing of a graph that is built when all its steps and
validation steps can be quoted, and only then. It then finds every piece that was written. -/
theorem GraphSource.isReadFrom_toDot_iff {r : GraphSource} {g : Graph} (h : r.Assembles g)
    {text : String} (htext : g.toDot = .ok text) :
    (g.IsReadFrom text ↔ ∀ i, i ∈ g.nodes.map Node.identifier ∨
      i ∈ g.validationSteps.keys → i.Quotable) ∧
    (g.IsReadFrom text → Piece.read? text.toList = some g.pieces) := by
  obtain ⟨-, rfl⟩ := Graph.toDot_eq_ok_iff.1 htext
  constructor
  · simp only [Graph.isReadFrom_drawingText_iff, (represents_of_assembles h).mem_mentioned]
  · rintro ⟨l, hread⟩
    obtain ⟨rfl, -⟩ := Graph.read?_drawingText_iff.1 hread
    exact hread.1

theorem GraphSource.isReadFrom_toDot_of_plain_names : ∃ g text,
    (DrawnRollout.source ⟨"hub", "create"⟩ ⟨"spoke", "peer"⟩).Assembles g ∧ g.toDot = .ok text ∧
      g.IsReadFrom text ∧ Piece.read? text.toList = some g.pieces := by
  obtain ⟨g, h⟩ := DrawnRollout.exists_graph ⟨"hub", "create"⟩ ⟨"spoke", "peer"⟩ (by decide)
  obtain ⟨text, htext⟩ := DrawnRollout.exists_toDot h
  obtain ⟨hread, hpieces⟩ := isReadFrom_toDot_iff h htext
  have hquotable : g.IsReadFrom text := by
    simp only [hread, ← (represents_of_assembles h).mem_mentioned]
    rw [DrawnRollout.forall_mentioned_iff h]
    decide
  exact ⟨g, text, h, htext, hquotable, hpieces hquotable⟩

/-- A step with a quote in its name. -/
theorem GraphSource.not_isReadFrom_toDot_of_quoted_name : ∃ g text,
    (DrawnRollout.source ⟨"hub", "create"⟩ ⟨"spoke", "peer \"east\""⟩).Assembles g ∧
      g.toDot = .ok text ∧ ¬ g.IsReadFrom text := by
  obtain ⟨g, h⟩ := DrawnRollout.exists_graph ⟨"hub", "create"⟩ ⟨"spoke", "peer \"east\""⟩ (by decide)
  obtain ⟨text, htext⟩ := DrawnRollout.exists_toDot h
  refine ⟨g, text, h, htext, fun hread => ?_⟩
  obtain ⟨-, rfl⟩ := Graph.toDot_eq_ok_iff.1 htext
  have hmem : .ofReference DrawnRollout.serviceGroup ⟨"spoke", "peer \"east\""⟩ ∈ g.mentioned :=
    (DrawnRollout.mem_mentioned h).2 (.inl (.inr rfl))
  have hstep := (Graph.isReadFrom_drawingText_iff.1 hread _ hmem).step
  exact absurd hstep (by decide)

end RolloutPlan
