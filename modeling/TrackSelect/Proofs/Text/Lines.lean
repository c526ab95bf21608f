import TrackSelect.Text.Lines

/-!
# Lines of a text and of what follows it

A line feed cuts a text in two as far as its lines are concerned: `pieces_append_feed` says so of
the pieces, where the two parts share nothing. Of the lines it holds when the first part ends at a
line feed (`WholeLines`), since what comes behind then continues none of its lines; the lines of
the whole are those of both parts (`lines_append`). Lines that are written with a line feed behind
each are found again (`pieces_flatMap_feed`, `lines_flatMap_feed`), and a carriage return in front
of each line feed changes nothing (`lines_withReturns`).
-/

namespace TrackSelect.Text

/-- A text of whole lines: it is empty or ends in a line feed. -/
def WholeLines (cs : List Char) : Prop := cs = [] ∨ cs.getLast? = some '\n'

instance (cs : List Char) : Decidable (WholeLines cs) := inferInstanceAs (Decidable (_ ∨ _))

/-- All pieces but the last have a line feed behind them. -/
theorem linesOfPieces_append (front : List (List Char)) {back : List (List Char)}
    (h : back ≠ []) :
    linesOfPieces (front ++ back) = front.map dropReturn ++ linesOfPieces back := by
  induction front with
  | nil => rfl
  | cons piece front ih =>
    have hbehind : front ++ back ≠ [] := List.append_ne_nil_of_right_ne_nil front h
    obtain ⟨next, rest, hnext⟩ := List.exists_cons_of_ne_nil hbehind
    rw [List.cons_append, hnext, linesOfPieces, ← hnext, ih]
    · rfl
    · simp

/-- A piece with another one behind it is a line. -/
theorem linesOfPieces_cons_cons (piece next : List Char) (rest : List (List Char)) :
    linesOfPieces (piece :: next :: rest) = dropReturn piece :: linesOfPieces (next :: rest) :=
  linesOfPieces_append [piece] (List.cons_ne_nil next rest)

/-- The last piece is a line if there is something in it. -/
theorem linesOfPieces_singleton {last : List Char} (h : last ≠ []) :
    linesOfPieces [last] = [last] := if_neg h

theorem pieces_append_feed (front back : List Char) :
    pieces (front ++ '\n' :: back) = pieces front ++ pieces back :=
  List.splitOn_append_cons_self _ _

/-- A text is its pieces, with a line feed in front of each but the first, and they hold none. -/
theorem exists_pieces (cs : List Char) :
    ∃ line more, pieces cs = line :: more ∧ line ++ more.flatMap ('\n' :: ·) = cs ∧
      ∀ piece ∈ line :: more, '\n' ∉ piece := by
  induction cs with
  | nil => exact ⟨[], [], rfl, rfl, by simp⟩
  | cons c cs ih =>
    obtain ⟨line, more, hpieces, rfl, hcalm⟩ := ih
    by_cases hc : c = '\n'
    · subst hc
      refine ⟨[], line :: more, ?_, rfl, ?_⟩
      · rw [← hpieces]
        exact pieces_append_feed [] _
      · simpa using hcalm
    · refine ⟨c :: line, more, ?_, rfl, ?_⟩
      · rw [pieces] at hpieces ⊢
        rw [List.splitOn_cons_eq_if_modifyHead, hpieces]
        simp [hc]
      · intro piece hpiece
        rcases List.mem_cons.1 hpiece with rfl | hpiece
        · simpa [Ne.symm hc] using hcalm line List.mem_cons_self
        · exact hcalm piece (List.mem_cons_of_mem _ hpiece)

/-- The characters of a piece are characters of the text. -/
theorem mem_of_mem_pieces {cs piece : List Char} (h : piece ∈ pieces cs) {c : Char}
    (hc : c ∈ piece) : c ∈ cs := by
  obtain ⟨line, more, hpieces, rfl, -⟩ := exists_pieces cs
  rw [hpieces] at h
  rcases List.mem_cons.1 h with rfl | h
  · exact List.mem_append_left _ hc
  · exact List.mem_append_right _ (List.mem_flatMap.2 ⟨piece, h, List.mem_cons_of_mem _ hc⟩)

/-- A line without its carriage return is the start of it. -/
theorem dropReturn_prefix (line : List Char) : dropReturn line <+: line := by
  unfold dropReturn
  split
  · exact List.dropLast_prefix line
  · exact List.prefix_refl line

/-- A line is made of a piece. -/
theorem exists_prefix_of_mem_linesOfPieces {line : List Char} {cut : List (List Char)}
    (h : line ∈ linesOfPieces cut) : ∃ piece ∈ cut, line <+: piece := by
  fun_induction linesOfPieces cut with
  | case1 => cases h
  | case2 => cases h
  | case3 last hlast =>
    rw [List.mem_singleton.1 h]
    exact ⟨last, List.mem_cons_self, List.prefix_refl last⟩
  | case4 piece rest hrest ih =>
    rcases List.mem_cons.1 h with rfl | h
    · exact ⟨piece, List.mem_cons_self, dropReturn_prefix piece⟩
    · obtain ⟨later, hlater, hfront⟩ := ih h
      exact ⟨later, List.mem_cons_of_mem piece hlater, hfront⟩

/-- No line has a line feed in it. -/
theorem feed_notMem_of_mem_lines {cs line : List Char} (h : line ∈ lines cs) : '\n' ∉ line := by
  obtain ⟨piece, hpiece, hfront⟩ := exists_prefix_of_mem_linesOfPieces h
  obtain ⟨first, more, hpieces, -, hcalm⟩ := exists_pieces cs
  intro hfeed
  exact hcalm piece (hpieces ▸ hpiece) (hfront.subset hfeed)

/-- Every piece in front of a line feed is a line. -/
theorem lines_append_feed (front back : List Char) :
    lines (front ++ '\n' :: back) = (pieces front).map dropReturn ++ lines back := by
  rw [lines, pieces_append_feed, linesOfPieces_append _ (pieces_ne_nil back), ← lines]

/-- Lines that are written with a line feed behind each are the pieces of the text, but for the
empty one behind the last feed. -/
theorem pieces_flatMap_feed {written : List (List Char)} (h : ∀ line ∈ written, '\n' ∉ line) :
    pieces (written.flatMap (· ++ ['\n'])) = written ++ [[]] := by
  induction written with
  | nil => rfl
  | cons line written ih =>
    have hline : pieces line = [line] := List.splitOn_eq_singleton (h line List.mem_cons_self)
    have hwritten := ih fun other hother => h other (List.mem_cons_of_mem _ hother)
    rw [List.flatMap_cons, List.append_assoc, List.singleton_append, pieces_append_feed, hline,
      hwritten]
    rfl

/-- They are its lines, but for a carriage return at the end of one. -/
theorem lines_flatMap_feed {written : List (List Char)} (h : ∀ line ∈ written, '\n' ∉ line) :
    lines (written.flatMap (· ++ ['\n'])) = written.map dropReturn := by
  rw [lines, pieces_flatMap_feed h, linesOfPieces_append _ (List.cons_ne_nil _ _)]
  exact List.append_nil _

/-- **The lines of a text of whole lines stay lines**, whatever text follows it. -/
theorem lines_append {front : List Char} (h : WholeLines front) (back : List Char) :
    lines (front ++ back) = lines front ++ lines back := by
  rcases h with rfl | h
  · rfl
  · obtain ⟨front, rfl⟩ := List.getLast?_eq_some_iff.1 h
    rw [List.append_assoc, List.singleton_append, lines_append_feed, lines_append_feed]
    simp

/-! ## Carriage returns -/

/-- A text with a carriage return in front of every line feed. -/
def withReturns (cs : List Char) : List Char :=
  cs.flatMap fun c => if c = '\n' then ['\r', '\n'] else [c]

theorem dropReturn_of_notMem {line : List Char} (h : '\r' ∉ line) : dropReturn line = line :=
  if_neg fun hlast => h (List.mem_of_getLast? hlast)

theorem dropReturn_append_return (line : List Char) : dropReturn (line ++ ['\r']) = line := by
  simp [dropReturn]

/-- A line has no line feed to put a carriage return in front of. -/
theorem withReturns_of_notMem {line : List Char} (h : '\n' ∉ line) : withReturns line = line := by
  induction line with
  | nil => rfl
  | cons c line ih =>
    rw [List.mem_cons, not_or] at h
    have hrest := ih h.2
    unfold withReturns at hrest ⊢
    rw [List.flatMap_cons, hrest, if_neg (Ne.symm h.1)]
    rfl

/-- **Carriage returns in front of the line feeds belong to no line.** -/
theorem lines_withReturns (cs : List Char) (h : '\r' ∉ cs) : lines (withReturns cs) = lines cs := by
  by_cases hfeed : '\n' ∈ cs
  · obtain ⟨line, rest, rfl, hline⟩ := List.eq_append_cons_of_mem hfeed
    have hreturn : '\r' ∉ line := fun hmem => h (List.mem_append_left _ hmem)
    have hrest : '\r' ∉ rest := fun hmem =>
      h (List.mem_append_right _ (List.mem_cons_of_mem _ hmem))
    have hsplit : withReturns (line ++ '\n' :: rest) =
        (line ++ ['\r']) ++ '\n' :: withReturns rest := by
      have hfront := withReturns_of_notMem hline
      unfold withReturns at hfront ⊢
      rw [List.flatMap_append, hfront, List.flatMap_cons, if_pos rfl]
      simp
    have hpiece : pieces line = [line] := List.splitOn_eq_singleton hline
    have hended : pieces (line ++ ['\r']) = [line ++ ['\r']] :=
      List.splitOn_eq_singleton (by simp [hline])
    rw [hsplit, lines_append_feed, lines_append_feed, hpiece, hended,
      lines_withReturns rest hrest, List.map_singleton, List.map_singleton,
      dropReturn_append_return, dropReturn_of_notMem hreturn]
  · rw [withReturns_of_notMem hfeed]
termination_by cs.length
decreasing_by
  subst_vars
  simp only [List.length_append, List.length_cons]
  omega

/-- Nor do those of lines that all end in a carriage return and a line feed. -/
theorem lines_flatMap_returns (cs : List Char) :
    lines ((lines cs).flatMap (· ++ ['\r', '\n'])) = lines cs := by
  have hwritten : (lines cs).flatMap (· ++ ['\r', '\n']) =
      ((lines cs).map (· ++ ['\r'])).flatMap (· ++ ['\n']) := by
    rw [List.flatMap_map]
    simp
  have hcalm : ∀ line ∈ (lines cs).map (· ++ ['\r']), '\n' ∉ line := by
    intro line hline
    obtain ⟨bare, hbare, rfl⟩ := List.mem_map.1 hline
    simpa using feed_notMem_of_mem_lines hbare
  rw [hwritten, lines_flatMap_feed hcalm, List.map_map]
  exact (List.map_congr_left fun line _ => dropReturn_append_return line).trans (List.map_id _)

end TrackSelect.Text
