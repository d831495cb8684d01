import DiagramDoc.Proofs.Diagram.Sequence.Rewriting

/-! # Repair and the ends of lines

A repair never looks across a line feed, makes none and takes none away. A line also keeps its end:
names are changed in front of an arrow, a colon or an alias, and the quotes around a text stand in
front of the blanks and carriage returns behind it.
-/

namespace DiagramDoc.Sequence

open Text Unicode

/-- Both are empty or none is, and both end in a carriage return or none does. -/
structure EndsAlike (xs ys : List Char) : Prop where
  nil : xs = [] ↔ ys = []
  carriage : xs.getLast? = some '\r' ↔ ys.getLast? = some '\r'

variable {xs xs' ys ys' : List Char}

theorem EndsAlike.refl (xs : List Char) : EndsAlike xs xs := ⟨Iff.rfl, Iff.rfl⟩

theorem EndsAlike.append (hxs : EndsAlike xs xs') (hys : EndsAlike ys ys') :
    EndsAlike (xs ++ ys) (xs' ++ ys') := by
  by_cases hnil : ys = []
  · rwa [hnil, hys.nil.1 hnil, List.append_nil, List.append_nil]
  · have hnil' : ys' ≠ [] := fun h => hnil (hys.nil.2 h)
    refine ⟨by simp [hnil, hnil'], ?_⟩
    rw [List.getLast?_append_of_ne_nil _ hnil, List.getLast?_append_of_ne_nil _ hnil']
    exact hys.carriage

theorem endsAlike_append_of_ne_nil (xs xs' : List Char) (hne : ys ≠ []) :
    EndsAlike (xs ++ ys) (xs' ++ ys) := by
  refine ⟨by simp [hne], ?_⟩
  rw [List.getLast?_append_of_ne_nil _ hne, List.getLast?_append_of_ne_nil _ hne]

theorem HasAlias.ne_nil {displayed : List Char} (h : HasAlias displayed) : displayed ≠ [] := by
  obtain ⟨gap, word, space, shown, rfl, hgap, -⟩ := hasAlias_iff.1 h
  simp [hgap.1]

theorem Opening.IsShape.rest_ne_nil {o : Opening} (h : o.IsShape) : o.rest ≠ [] := by
  obtain ⟨gap, arrow, more, hrest, -, harrow⟩ := (isWritten_iff.2 h).rest
  obtain ⟨c, arrow, rfl, -⟩ := head_of_mem_arrows harrow
  simp [hrest]

/-- Quotes around a text change the end of a body only if no blank or carriage return is there. -/
theorem Quoting.endsAlike_apply (q : Quoting) (body : List Char) :
    EndsAlike body (q.apply body) := by
  have hrequotes := (requotes_iff q).2 (rfl : q.apply body = q.apply body)
  generalize q.apply body = out at hrequotes
  cases hrequotes with
  | kept hcut hkeep => exact .refl _
  | @quoted lead text trail hcut hbare htrigger =>
    obtain ⟨c, hc, -⟩ := htrigger
    have hne : text ≠ [] := List.ne_nil_of_mem hc
    refine .append ⟨by simp [hne], ?_⟩ (.refl trail)
    have hlast : text.getLast? ≠ some '\r' := by
      intro hcarriage
      exact absurd (hcut.last _ hcarriage) (by decide)
    rw [List.getLast?_append_of_ne_nil _ hne, List.getLast?_concat]
    exact ⟨fun h => absurd h hlast, fun h => absurd h (by decide)⟩

theorem endsAlike_repairLine (reserved : ReservedWords) (line : List Char) :
    EndsAlike line (repairLine reserved line) := by
  obtain ⟨l, rfl, hl⟩ := Line.exists_isShape line
  rw [repairLine_text reserved hl]
  cases l with
  | declaration d =>
    change EndsAlike (d.head ++ d.name ++ d.displayed)
      (d.head ++ rename reserved d.name ++ d.displayed)
    exact endsAlike_append_of_ne_nil _ _ (HasAlias.ne_nil hl.hasAlias)
  | message m =>
    obtain ⟨space, -, hcolon⟩ := hl.colon
    have hne : m.colon ≠ [] := by simp [hcolon]
    change EndsAlike (m.indent ++ m.sender ++ m.link ++ m.receiver ++ m.colon ++ m.body)
      (m.indent ++ rename reserved m.sender ++ m.link ++ rename reserved m.receiver ++ m.colon ++
        Quoting.message.apply m.body)
    exact (endsAlike_append_of_ne_nil _ _ hne).append (Quoting.message.endsAlike_apply m.body)
  | opening o =>
    change EndsAlike (o.indent ++ o.sender ++ o.rest)
      (o.indent ++ rename reserved o.sender ++ o.rest)
    exact endsAlike_append_of_ne_nil _ _ hl.1.rest_ne_nil
  | note n =>
    change EndsAlike (n.head ++ n.body) (n.head ++ Quoting.note.apply n.body)
    exact (EndsAlike.refl n.head).append (Quoting.note.endsAlike_apply n.body)
  | other chars => exact .refl chars

theorem length_lines (cs : List Char) :
    (lines cs).length = (splitAt (· == '\n') cs).length - 1 +
      if (splitAt (· == '\n') cs).getLastD [] = [] then 0 else 1 := by
  rw [lines, List.length_append, List.length_map, List.length_dropLast]
  split <;> rfl

/-- **Repair is local to lines.** Two parts of a source at a line feed are repaired on their own, so
there are as many lines as before, whether or not a line feed at the end opens one; and a line ends
in a carriage return exactly if it did. -/
theorem repair_append_feed (reserved : ReservedWords) :
    (∀ xs ys, repair reserved (xs ++ '\n' :: ys) =
      repair reserved xs ++ '\n' :: repair reserved ys) ∧
      (∀ source, (splitAt (· == '\n') (repair reserved source)).length =
        (splitAt (· == '\n') source).length) ∧
      (∀ source, (lines (repair reserved source)).length = (lines source).length) ∧
      ∀ source i, readAt? List.getLast? (repair reserved source) i = some '\r' ↔
        readAt? List.getLast? source i = some '\r' := by
  have hpieces (source : List Char) : splitAt (· == '\n') (repair reserved source) =
      (splitAt (· == '\n') source).map (repairLine reserved) := by
    rw [repair_eq_mapLines, splitAt_mapLines (staysInLine_repairLine reserved)]
  have hlength (source : List Char) : (splitAt (· == '\n') (repair reserved source)).length =
      (splitAt (· == '\n') source).length := by
    rw [hpieces, List.length_map]
  refine ⟨fun xs ys => ?_, hlength, fun source => ?_, fun source i => ?_⟩
  · rw [repair_eq_mapLines, mapLines_append_cons, ← repair_eq_mapLines, ← repair_eq_mapLines]
  · have hlast : (splitAt (· == '\n') (repair reserved source)).getLastD [] = [] ↔
        (splitAt (· == '\n') source).getLastD [] = [] := by
      obtain ⟨pieces, last, heq⟩ :=
        (List.eq_nil_or_concat' (splitAt (· == '\n') source)).resolve_left
          (splitAt_ne_nil _ source)
      rw [hpieces, heq, List.map_append, List.map_singleton, List.getLastD_eq_getLast?,
        List.getLastD_eq_getLast?, List.getLast?_concat, List.getLast?_concat, Option.getD_some,
        Option.getD_some, (endsAlike_repairLine reserved last).nil]
    rw [length_lines, length_lines, hlength]
    simp only [hlast]
  · rw [readAt?_repair, readAt?_eq_some_iff, readAt?_eq_some_iff]
    refine exists_congr fun line => and_congr_right fun _ => ?_
    rw [Function.comp_apply, (endsAlike_repairLine reserved line).carriage]

/-- A quoted message keeps the carriage return at its end. -/
example : repair .standard "a->>b: f(x)\r\nend->>c: y".toList =
    "a->>b: \"f(x)\"\r\nend_->>c: y".toList := by decide +kernel

end DiagramDoc.Sequence
