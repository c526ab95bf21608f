import TrackSelect.Proofs.OcrDump.Printing

/-!
# Log decoration

A dump may pass through a log on its way: its lines come to end in carriage returns, lines of other
programs stand in front of it, and the name of the filter in brackets is put in front of its lines.
Nothing of this changes its cues (`cues_decorated`).

A bracketed name is passed over in front of the line, and it has no time key in it, so a decorated
line keeps its kind, its number, its time and its text (`marker?_front`, `payload?_front`). The
reader goes through a dump and a decorated copy of it side by side (`Decorates.alike`).
-/

namespace TrackSelect.OcrDump

/-! ## A name in front of a line -/

/-- A name that a log puts in brackets. -/
structure LogName where
  chars : List Char
  bracket_notMem : ']' ∉ chars
  feed_notMem : '\n' ∉ chars
  timeKey_chars : ¬ timeKey <:+: chars

/-- What the log puts in front of a line. -/
def LogName.front (name : LogName) : List Char := '[' :: (name.chars ++ [']', ' '])

/-- A line without a decoration: no bracket stands behind the blanks at its start. -/
def IsBare (line : List Char) : Prop := (Text.trimStart line).head? ≠ some '['

instance (line : List Char) : Decidable (IsBare line) := inferInstanceAs (Decidable (_ ≠ _))

theorem IsBare.undecorated_eq {line : List Char} (h : IsBare line) :
    undecorated line = Text.trimStart line := by
  unfold undecorated
  split
  · next rest hrest => exact absurd (by rw [hrest]; rfl) h
  · rfl

/-- The name is passed over. -/
theorem undecorated_front (name : LogName) {line : List Char} (h : IsBare line) :
    undecorated (name.front ++ line) = undecorated line := by
  have htrim : Text.trimStart (name.front ++ line) = name.front ++ line :=
    Text.trimStart_eq_self (by rintro c ⟨⟩; rfl)
  have hname : ∀ c ∈ name.chars, decide (c ≠ ']') = true := by
    intro c hc
    exact decide_eq_true fun hbracket => name.bracket_notMem (hbracket ▸ hc)
  have hstop : (name.chars ++ ']' :: ' ' :: line).dropWhile (· ≠ ']') = ']' :: ' ' :: line :=
    Text.dropWhile_run hname (by rintro c ⟨⟩; rfl)
  have hfront : name.front ++ line = '[' :: (name.chars ++ ']' :: ' ' :: line) := by
    simp [LogName.front]
  rw [h.undecorated_eq, undecorated, htrim, hfront]
  simp only [hstop]
  rfl

/-- No time is found in the name. -/
theorem timeText?_front (name : LogName) (line : List Char) :
    timeText? (name.front ++ line) = timeText? line := by
  have hname : ¬ timeKey <:+: '[' :: (name.chars ++ [']']) := by
    intro hinfix
    rw [List.infix_cons_iff, List.infix_concat_iff] at hinfix
    rcases hinfix with ⟨behind, hstart⟩ | ⟨before, hend⟩ | hinside
    -- the key neither starts with the one bracket nor ends with the other
    · have hfirst : some 'p' = some '[' := congrArg List.head? hstart
      exact absurd hfirst (by decide)
    · have hlast := congrArg List.getLast? hend
      rw [List.getLast?_append_of_ne_nil before (by decide), List.getLast?_concat] at hlast
      exact absurd hlast (by decide)
    · exact name.timeKey_chars hinside
  have hfront : name.front ++ line = ('[' :: (name.chars ++ [']'])) ++ ' ' :: line := by
    simp [LogName.front]
  rw [hfront, timeText?_append hname (by decide), timeText?_cons_of_ne (by decide)]

/-- **A decorated line keeps its marker.** -/
theorem marker?_front (name : LogName) {line : List Char} (h : IsBare line) :
    marker? (name.front ++ line) = marker? line := by
  unfold marker?
  rw [undecorated_front name h, timeText?_front]

/-- **A decorated line keeps its text.** -/
theorem payload?_front (name : LogName) {line : List Char} (h : IsBare line) :
    payload? (name.front ++ line) = payload? line := by
  unfold payload?
  rw [undecorated_front name h]

/-! ## Decorated lines -/

/-- Some lines and a copy of them in which names stand in front of some marker lines, and in front
of some text lines that stand right behind a marker. `behind` says whether a marker stands in front
of the first line. -/
inductive Decorates : (behind : Bool) → (lines copy : List (List Char)) → Prop where
  | nil {behind : Bool} : Decorates behind [] []
  | same {behind : Bool} {line : List Char} {rest copy : List (List Char)}
      (h : Decorates (isMarker line) rest copy) : Decorates behind (line :: rest) (line :: copy)
  | put {behind : Bool} {line : List Char} {rest copy : List (List Char)} (name : LogName)
      (hkind : isMarker line = true ∨ behind = true ∧ (payload? line).isSome = true)
      (hbare : IsBare line) (h : Decorates (isMarker line) rest copy) :
      Decorates behind (line :: rest) ((name.front ++ line) :: copy)

namespace Decorates

variable {behind : Bool} {line : List Char} {lines rest copy : List (List Char)}

/-- The first line and its copy are of the same kind, and the same unless a name could stand
there. -/
theorem exists_cons (h : Decorates behind (line :: rest) copy) :
    ∃ line' rest', copy = line' :: rest' ∧ marker? line' = marker? line ∧
      payload? line' = payload? line ∧ (behind = false → isMarker line = false → line' = line) ∧
      Decorates (isMarker line) rest rest' := by
  cases h with
  | same h => exact ⟨_, _, rfl, rfl, rfl, fun _ _ => rfl, h⟩
  | put name hkind hbare h =>
    refine ⟨_, _, rfl, marker?_front name hbare, payload?_front name hbare, ?_, h⟩
    intro hbehind hline
    simp [hbehind, hline] at hkind

theorem eq_nil (h : Decorates behind [] copy) : copy = [] := by
  cases h
  rfl

/-- Lines that continue a text are copied as they are. -/
theorem split (h : Decorates false lines copy) :
    copy.takeWhile (!isMarker ·) = lines.takeWhile (!isMarker ·) ∧
      Decorates false (lines.dropWhile (!isMarker ·)) (copy.dropWhile (!isMarker ·)) := by
  induction lines generalizing copy with
  | nil =>
    rw [h.eq_nil]
    exact ⟨rfl, .nil⟩
  | cons line rest ih =>
    obtain ⟨line', rest', rfl, hmarker, -, hsame, hrest⟩ := h.exists_cons
    cases hline : isMarker line with
    | false =>
      obtain rfl := hsame rfl hline
      rw [hline] at hrest
      obtain ⟨htake, hdrop⟩ := ih hrest
      simp only [List.takeWhile_cons, List.dropWhile_cons, hline, Bool.not_false, if_true, htake]
      exact ⟨trivial, hdrop⟩
    | true =>
      have hcopy : isMarker line' = true := by rw [isMarker, hmarker]; exact hline
      simp only [List.takeWhile_cons, List.dropWhile_cons, hline, hcopy, Bool.not_true,
        Bool.false_eq_true, if_false]
      exact ⟨trivial, h⟩

end Decorates

/-! ## Lines in front of a dump -/

variable {α β : Type}

/-- A result whose malformed frame is so many lines later. -/
def later (count : Nat) : Except Fault α → Except Fault α
  | .error (.malformedFrame line reason) => .error (.malformedFrame (line + count) reason)
  | result => result

theorem later_map (count : Nat) (result : Except Fault α) (f : α → β) :
    later count (result.map f) = (later count result).map f := by
  cases result with
  | ok a => rfl
  | error fault => cases fault <;> rfl

/-- **The reader does not look at the numbers of the lines.** -/
theorem framesFrom_add (count : Nat) (lines : List (List Char)) :
    ∀ lineNumber, framesFrom (lineNumber + count) lines =
      later count (framesFrom lineNumber lines) := by
  induction lines using reading_induction with
  | nil =>
    intro n
    rw [framesFrom_nil, framesFrom_nil]
    rfl
  | skip line rest hline ih =>
    intro n
    rw [framesFrom_cons_of_not _ hline, framesFrom_cons_of_not _ hline, ← ih (n + 1),
      Nat.add_right_comm]
  | last line marker hmarker =>
    intro n
    rw [framesFrom_last _ hmarker, framesFrom_last _ hmarker]
    rfl
  | lacks line marker first rest hmarker htext =>
    intro n
    rw [framesFrom_lacks _ hmarker htext, framesFrom_lacks _ hmarker htext, Nat.add_right_comm]
    rfl
  | block line marker first text rest hmarker htext ih =>
    intro n
    rw [framesFrom_block _ hmarker htext, framesFrom_block _ hmarker htext, later_map, ← ih]
    congr 2
    omega

/-- The reader comes to the first marker. -/
theorem framesFrom_append (back : List (List Char)) {front : List (List Char)}
    (h : ∀ line ∈ front, isMarker line = false) (lineNumber : Nat) :
    framesFrom lineNumber (front ++ back) = framesFrom (lineNumber + front.length) back := by
  induction front generalizing lineNumber with
  | nil => rfl
  | cons line front ih =>
    have hrest := ih (fun other hother => h other (List.mem_cons_of_mem _ hother)) (lineNumber + 1)
    rw [List.cons_append, framesFrom_cons_of_not _ (h line List.mem_cons_self), hrest,
      List.length_cons]
    congr 1
    omega

/-- **Lines in front of the first marker change no cue.** A dump with so many more of them has the
same cues, or the same fault so many lines later. -/
theorem cues_later {text other : String} {front more back : List (List Char)} {count : Nat}
    (htext : Text.lines text.toList = front ++ back)
    (hother : Text.lines other.toList = more ++ back)
    (hfront : ∀ line ∈ front, isMarker line = false)
    (hmore : ∀ line ∈ more, isMarker line = false) (hcount : more.length = front.length + count) :
    cues other = later count (cues text) := by
  have hframes : frames other = later count (frames text) := by
    rw [frames, frames, hother, htext, framesFrom_append back hmore, framesFrom_append back hfront,
      ← framesFrom_add, hcount, Nat.add_assoc]
  rw [cues_eq_map, cues_eq_map, hframes, later_map]

/-! ## Decorated dumps -/

/-- Two results that differ in the reason of a malformed frame at most. -/
inductive Alike : (result other : Except Fault α) → Prop where
  | ok (a : α) : Alike (.ok a) (.ok a)
  | malformed (line : Nat) (reason reason' : String) :
      Alike (.error (.malformedFrame line reason)) (.error (.malformedFrame line reason'))

theorem Alike.map {result other : Except Fault α} (h : Alike result other) (f : α → β) :
    Alike (result.map f) (other.map f) := by
  cases h with
  | ok a => exact .ok (f a)
  | malformed line reason reason' => exact .malformed line reason reason'

/-- **The reader reads decorated lines alike.** -/
theorem Decorates.alike (lines : List (List Char)) : ∀ {copy : List (List Char)} (lineNumber : Nat),
    Decorates false lines copy →
      Alike (framesFrom lineNumber lines) (framesFrom lineNumber copy) := by
  induction lines using reading_induction with
  | nil =>
    intro copy n h
    rw [h.eq_nil, framesFrom_nil]
    exact .ok []
  | skip line rest hline ih =>
    intro copy n h
    obtain ⟨line', rest', rfl, -, -, hsame, hrest⟩ := h.exists_cons
    rw [hsame rfl hline, framesFrom_cons_of_not n hline, framesFrom_cons_of_not n hline]
    exact ih (n + 1) (hline ▸ hrest)
  | last line marker hmarker =>
    intro copy n h
    obtain ⟨line', rest', rfl, hmarker', -, -, hrest⟩ := h.exists_cons
    rw [hrest.eq_nil, framesFrom_last n hmarker, framesFrom_last n (hmarker'.trans hmarker)]
    exact .ok []
  | lacks line marker first rest hmarker htext =>
    intro copy n h
    obtain ⟨line', rest', rfl, hmarker', -, -, hrest⟩ := h.exists_cons
    obtain ⟨first', rest', rfl, -, htext', -, -⟩ := hrest.exists_cons
    rw [framesFrom_lacks n hmarker htext,
      framesFrom_lacks n (hmarker'.trans hmarker) (htext'.trans htext)]
    exact .malformed _ _ _
  | block line marker first text rest hmarker htext ih =>
    intro copy n h
    obtain ⟨line', rest', rfl, hmarker', -, -, hrest⟩ := h.exists_cons
    obtain ⟨first', rest', rfl, -, htext', -, hmore⟩ := hrest.exists_cons
    -- the text line is no marker, so no name stands in front of the lines that continue the text
    rw [isMarker_eq_false_of_payload htext] at hmore
    obtain ⟨htake, hdrop⟩ := hmore.split
    rw [framesFrom_block n hmarker htext,
      framesFrom_block n (hmarker'.trans hmarker) (htext'.trans htext), htake]
    exact (ih _ hdrop).map _

/-- A name stands in front of a line that has some character. -/
theorem ne_nil_of_hkind {behind : Bool} {line : List Char}
    (h : isMarker line = true ∨ behind = true ∧ (payload? line).isSome = true) : line ≠ [] := by
  rintro rfl
  rcases h with h | ⟨-, h⟩ <;> exact absurd h (by decide)

/-- A name in front of a line does not change its end. -/
theorem dropReturn_front (name : LogName) {line : List Char} (hne : line ≠ [])
    (h : '\r' ∉ line) : Text.dropReturn (name.front ++ line) = name.front ++ line := by
  refine if_neg fun hlast => h ?_
  rw [List.getLast?_append_of_ne_nil _ hne] at hlast
  exact List.mem_of_getLast? hlast

/-- The lines of a decorated copy are decorated copies of the lines. -/
theorem Decorates.linesOfPieces {behind : Bool} {cut copy : List (List Char)}
    (h : Decorates behind cut copy) (hreturn : ∀ piece ∈ cut, '\r' ∉ piece) :
    Decorates behind (Text.linesOfPieces cut) (Text.linesOfPieces copy) := by
  induction h with
  | nil => exact .nil
  | @same behind line rest copy h ih =>
    obtain ⟨hline, hrest⟩ := List.forall_mem_cons.1 hreturn
    cases rest with
    | nil =>
      obtain rfl := h.eq_nil
      by_cases hnil : line = []
      · subst hnil
        exact .nil
      · rw [Text.linesOfPieces_singleton hnil]
        exact .same .nil
    | cons next more =>
      obtain ⟨next', more', rfl, -⟩ := h.exists_cons
      rw [Text.linesOfPieces_cons_cons, Text.linesOfPieces_cons_cons,
        Text.dropReturn_of_notMem hline]
      exact .same (ih hrest)
  | @put behind line rest copy name hkind hbare h ih =>
    obtain ⟨hline, hrest⟩ := List.forall_mem_cons.1 hreturn
    have hne : line ≠ [] := ne_nil_of_hkind hkind
    cases rest with
    | nil =>
      obtain rfl := h.eq_nil
      rw [Text.linesOfPieces_singleton hne, Text.linesOfPieces_singleton (by simp [hne])]
      exact .put name hkind hbare .nil
    | cons next more =>
      obtain ⟨next', more', rfl, -⟩ := h.exists_cons
      rw [Text.linesOfPieces_cons_cons, Text.linesOfPieces_cons_cons,
        Text.dropReturn_of_notMem hline, dropReturn_front name hne hline]
      exact .put name hkind hbare (ih hrest)

/-- **Decoration changes no cue.** Take a dump without carriage returns. With one in front of every
line feed, or one and a line feed behind every line, it has the same cues or the same fault. With so
many more lines in front of the first marker it has them too, but a malformed frame is so many lines
later. With names in front of some of its marker lines and of some text lines right behind one,
where none stands yet, it has the same cues, or a malformed frame at the same line. -/
theorem cues_decorated {text : String} (h : '\r' ∉ text.toList) :
    cues (String.ofList (Text.withReturns text.toList)) = cues text ∧
    cues (String.ofList ((Text.lines text.toList).flatMap (· ++ ['\r', '\n']))) = cues text ∧
    (∀ (other : String) (front more back : List (List Char)) (count : Nat),
      Text.lines text.toList = front ++ back → Text.lines other.toList = more ++ back →
      (∀ line ∈ front, isMarker line = false) → (∀ line ∈ more, isMarker line = false) →
      more.length = front.length + count → cues other = later count (cues text)) ∧
    ∀ other : String, Decorates false (Text.pieces text.toList) (Text.pieces other.toList) →
      Alike (cues text) (cues other) := by
  refine ⟨?_, ?_, fun other front more back count => cues_later, fun other hother => ?_⟩
  · rw [cues_eq_map, cues_eq_map, frames, frames, String.toList_ofList, Text.lines_withReturns _ h]
  · rw [cues_eq_map, cues_eq_map, frames, frames, String.toList_ofList, Text.lines_flatMap_returns]
  · have hlines : Decorates false (Text.lines text.toList) (Text.lines other.toList) :=
      hother.linesOfPieces fun piece hpiece hmem => h (Text.mem_of_mem_pieces hpiece hmem)
    rw [cues_eq_map, cues_eq_map]
    exact (Decorates.alike _ 1 hlines).map _

/-- The name of a filter and its place in memory. -/
def filterName : LogName where
  chars := "ocr @ 0x5".toList
  bracket_notMem := by decide
  feed_notMem := by decide
  timeKey_chars := by decide

def plainDump : String :=
  "frame:0 pts_time:1\nlavfi.ocr.text=A\n  frame:1 pts_time:2\nlavfi.ocr.text="

/-- The same dump from a log, which left out one line. -/
def loggedDump : String :=
  "[ocr @ 0x5] frame:0 pts_time:1\n[ocr @ 0x5] lavfi.ocr.text=A\n" ++
    "[ocr @ 0x5]   frame:1 pts_time:2\nlavfi.ocr.text="

/-- The plain dump has the cue of the logged one, and has it behind two more lines. -/
theorem cues_decorated_plainDump :
    '\r' ∉ plainDump.toList ∧
    cues (String.ofList (Text.withReturns plainDump.toList)) =
      .ok [⟨1, ⟨1000⟩, ⟨2000⟩, ["A"]⟩] ∧
    cues ("[x] frame:\nframe:0\n" ++ plainDump) = later 2 (cues plainDump) ∧
    Alike (cues plainDump) (cues loggedDump) := by
  have hreturn : '\r' ∉ plainDump.toList := by decide +kernel
  obtain ⟨hreturns, -, hlater, halike⟩ := cues_decorated hreturn
  have hcues : cues plainDump = .ok [⟨1, ⟨1000⟩, ⟨2000⟩, ["A"]⟩] := by decide +kernel
  refine ⟨hreturn, hreturns.trans hcues, ?_, halike loggedDump ?_⟩
  · refine hlater _ [] ["[x] frame:".toList, "frame:0".toList] (Text.lines plainDump.toList) 2
      rfl ?_ nofun ?_ rfl <;> decide +kernel
  · have hplain : Text.pieces plainDump.toList = ["frame:0 pts_time:1".toList,
        "lavfi.ocr.text=A".toList, "  frame:1 pts_time:2".toList, "lavfi.ocr.text=".toList] := by
      decide +kernel
    have hlogged : Text.pieces loggedDump.toList = [filterName.front ++ "frame:0 pts_time:1".toList,
        filterName.front ++ "lavfi.ocr.text=A".toList,
        filterName.front ++ "  frame:1 pts_time:2".toList, "lavfi.ocr.text=".toList] := by
      decide +kernel
    rw [hplain, hlogged]
    refine .put filterName ?_ ?_ (.put filterName ?_ ?_ (.put filterName ?_ ?_ (.same .nil)))
      <;> decide +kernel

/-- A dump with a name in front of its first line, and blanks in front of that. -/
def indentedDump : String :=
  "  [a] frame:0 pts_time:1\nlavfi.ocr.text=Hi\nframe:1 pts_time:2\nlavfi.ocr.text=\n"

/-- A second name is not passed over. The first line of this dump is a marker line that does not
start with a bracket, but with a name in front of it there are no more cues. -/
theorem not_alike_indentedDump :
    '\r' ∉ indentedDump.toList ∧
    (∃ line rest, Text.lines indentedDump.toList = line :: rest ∧ isMarker line = true ∧
      line.head? ≠ some '[') ∧
    cues indentedDump = .ok [⟨1, ⟨1000⟩, ⟨2000⟩, ["Hi"]⟩] ∧
    cues (String.ofList (filterName.front ++ indentedDump.toList)) = .ok [] ∧
    ¬ Alike (cues indentedDump)
      (cues (String.ofList (filterName.front ++ indentedDump.toList))) := by
  have hreturn : '\r' ∉ indentedDump.toList := by decide +kernel
  have hcues : cues indentedDump = .ok [⟨1, ⟨1000⟩, ⟨2000⟩, ["Hi"]⟩] := by decide +kernel
  have hnone : cues (String.ofList (filterName.front ++ indentedDump.toList)) = .ok [] := by
    decide +kernel
  refine ⟨hreturn, ⟨"  [a] frame:0 pts_time:1".toList, (Text.lines indentedDump.toList).drop 1,
    ?_, ?_, ?_⟩, hcues, hnone, ?_⟩
  · decide +kernel
  · decide +kernel
  · decide
  · rw [hcues, hnone]
    rintro ⟨⟩

end TrackSelect.OcrDump
