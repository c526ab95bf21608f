import Mathlib.Data.Set.Card
import TrackSelect.Proofs.SubRip.Counting

/-!
# Where the headers of a text stand

The counter of headers goes by a form of the timing line; here the lines are described by what they
hold. A header stands at a line when it is a number and the next line starts with two clocks and an
arrow between them (`IsHeaderAt`), and the count is the number of places where one stands
(`headers_eq_ncard`). No header goes over a blank line, so behind one the count starts anew, and the
counts of two texts add up (`headers_append_blank`). Both are put together in `count_positions`.
-/

namespace TrackSelect.SubRip

open Text

/-! ## The lines of a header -/

/-- Decimal digits, with a carriage return behind them or none. -/
def IsNumber (line : List Char) : Prop :=
  ∃ digits, digits ≠ [] ∧ (∀ c ∈ digits, isDecimalDigit c = true) ∧
    (line = digits ∨ line = digits ++ ['\r'])

/-- A time of day: two digits for the hours, the minutes and the seconds, and three behind the
comma. -/
def IsClock (cs : List Char) : Prop :=
  ∃ a b c d e f x y z, cs = [a, b, ':', c, d, ':', e, f, ',', x, y, z] ∧
    ∀ digit ∈ [a, b, c, d, e, f, x, y, z], isDecimalDigit digit = true

/-- A line that starts with two clocks and an arrow between them. -/
def StartsTimed (line : List Char) : Prop :=
  ∃ start stop behind, IsClock start ∧ IsClock stop ∧ line = start ++ (arrow ++ (stop ++ behind))

/-- A header stands at a line. -/
def IsHeaderAt (lines : List (List Char)) (place : Nat) : Prop :=
  ∃ number timing, lines[place]? = some number ∧ lines[place + 1]? = some timing ∧
    IsNumber number ∧ StartsTimed timing

theorem isNumberLine_iff {line : List Char} : isNumberLine line = true ↔ IsNumber line := by
  constructor
  · intro h
    rw [isNumberLine, Bool.and_eq_true, decide_eq_true_eq, List.all_eq_true] at h
    refine ⟨dropReturn line, h.1, h.2, ?_⟩
    unfold dropReturn
    split
    · next hlast =>
      obtain ⟨front, rfl⟩ := List.getLast?_eq_some_iff.1 hlast
      simp
    · simp
  · rintro ⟨digits, hne, hdigits, hline⟩
    have hstop : ∀ c ∈ ([] : List Char).head?, isDecimalDigit c = false := by simp
    have hreturn : ∀ c ∈ ['\r'].head?, isDecimalDigit c = false := by
      rintro c ⟨⟩
      rfl
    rcases hline with rfl | rfl
    · have hnumber := isNumberLine_append hdigits hstop
      rw [List.append_nil] at hnumber
      simp [hnumber, hne]
    · simp [isNumberLine_append hdigits hreturn, hne]

/-- A zero of a form stands for a digit. -/
theorem startsLike_zero_iff {form cs : List Char} :
    startsLike ('0' :: form) cs = true ↔
      ∃ digit rest, cs = digit :: rest ∧ isDecimalDigit digit = true ∧
        startsLike form rest = true := by
  cases cs with
  | nil => simp [startsLike]
  | cons c cs => simp [startsLike, and_assoc]

/-- Any other character of a form stands for itself. -/
theorem startsLike_self_iff {c : Char} (hc : c ≠ '0') {form cs : List Char} :
    startsLike (c :: form) cs = true ↔ ∃ rest, cs = c :: rest ∧ startsLike form rest = true := by
  cases cs with
  | nil => simp [startsLike]
  | cons d cs =>
    simp only [startsLike, if_neg hc, Bool.and_eq_true, beq_iff_eq, List.cons.injEq]
    constructor
    · rintro ⟨rfl, h⟩
      exact ⟨cs, ⟨rfl, rfl⟩, h⟩
    · rintro ⟨rest, ⟨rfl, rfl⟩, h⟩
      exact ⟨rfl, h⟩

theorem startsLike_clock_iff {form cs : List Char} :
    startsLike (clockForm ++ form) cs = true ↔
      ∃ clock behind, IsClock clock ∧ cs = clock ++ behind ∧ startsLike form behind = true := by
  have hform : clockForm ++ form = '0' :: '0' :: ':' :: '0' :: '0' :: ':' :: '0' :: '0' :: ',' ::
      '0' :: '0' :: '0' :: form := rfl
  have hcolon : ':' ≠ '0' := by decide
  have hcomma : ',' ≠ '0' := by decide
  simp only [hform, startsLike_zero_iff, startsLike_self_iff hcolon, startsLike_self_iff hcomma]
  constructor
  · rintro ⟨a, _, rfl, ha, b, _, rfl, hb, _, rfl, c, _, rfl, hc, d, _, rfl, hd, _, rfl, e, _, rfl,
      he, f, _, rfl, hf, _, rfl, x, _, rfl, hx, y, _, rfl, hy, z, behind, rfl, hz, h⟩
    refine ⟨[a, b, ':', c, d, ':', e, f, ',', x, y, z], behind, ?_, rfl, h⟩
    refine ⟨a, b, c, d, e, f, x, y, z, rfl, ?_⟩
    simp [ha, hb, hc, hd, he, hf, hx, hy, hz]
  · rintro ⟨_, behind, ⟨a, b, c, d, e, f, x, y, z, rfl, hdigits⟩, rfl, h⟩
    simp only [List.forall_mem_cons] at hdigits
    obtain ⟨ha, hb, hc, hd, he, hf, hx, hy, hz, -⟩ := hdigits
    exact ⟨a, _, rfl, ha, b, _, rfl, hb, _, rfl, c, _, rfl, hc, d, _, rfl, hd, _, rfl, e, _, rfl,
      he, f, _, rfl, hf, _, rfl, x, _, rfl, hx, y, _, rfl, hy, z, behind, rfl, hz, h⟩

theorem startsLike_arrow_iff {form cs : List Char} :
    startsLike (arrow ++ form) cs = true ↔
      ∃ behind, cs = arrow ++ behind ∧ startsLike form behind = true := by
  have hform : ∀ rest, arrow ++ rest = ' ' :: '-' :: '-' :: '>' :: ' ' :: rest := fun _ => rfl
  have hblank : ' ' ≠ '0' := by decide
  have hdash : '-' ≠ '0' := by decide
  have hhead : '>' ≠ '0' := by decide
  simp only [hform, startsLike_self_iff hblank, startsLike_self_iff hdash,
    startsLike_self_iff hhead]
  constructor
  · rintro ⟨_, rfl, _, rfl, _, rfl, _, rfl, behind, rfl, h⟩
    exact ⟨behind, rfl, h⟩
  · rintro ⟨behind, rfl, h⟩
    exact ⟨_, rfl, _, rfl, _, rfl, _, rfl, behind, rfl, h⟩

theorem startsLike_timingForm_iff {line : List Char} :
    startsLike timingForm line = true ↔ StartsTimed line := by
  rw [timingForm_eq_append, startsLike_clock_iff]
  simp only [startsLike_arrow_iff, startsLike_clock_iff]
  constructor
  · rintro ⟨start, _, hstart, rfl, _, rfl, stop, behind, hstop, rfl, -⟩
    exact ⟨start, stop, behind, hstart, hstop, rfl⟩
  · rintro ⟨start, stop, behind, hstart, hstop, rfl⟩
    exact ⟨start, _, hstart, rfl, _, rfl, stop, behind, hstop, rfl, rfl⟩

/-! ## Places -/

theorem isHeaderAt_zero_iff {number timing : List Char} {rest : List (List Char)} :
    IsHeaderAt (number :: timing :: rest) 0 ↔ isHeader number timing = true := by
  simp [IsHeaderAt, isHeader, isNumberLine_iff, startsLike_timingForm_iff]

theorem isHeaderAt_succ_iff {line : List Char} {rest : List (List Char)} {place : Nat} :
    IsHeaderAt (line :: rest) (place + 1) ↔ IsHeaderAt rest place := Iff.rfl

/-- There are no more headers than lines. -/
theorem finite_isHeaderAt (lines : List (List Char)) : {place | IsHeaderAt lines place}.Finite := by
  refine (Set.finite_lt_nat lines.length).subset ?_
  rintro place ⟨number, -, hnumber, -⟩
  exact (List.getElem?_eq_some_iff.1 hnumber).1

/-- **The headers among lines are counted by their places.** -/
theorem headers_eq_ncard (lines : List (List Char)) :
    headers lines = {place | IsHeaderAt lines place}.ncard := by
  induction lines with
  | nil => simp [headers, IsHeaderAt]
  | cons number rest ih =>
    cases rest with
    | nil => simp [IsHeaderAt]
    | cons timing rest =>
      -- those of the lines behind stand one line later
      have hlater : (Nat.succ '' {place | IsHeaderAt (timing :: rest) place}).ncard =
          headers (timing :: rest) := by
        rw [ih, Set.ncard_image_of_injective _ Nat.succ_injective]
      rw [headers_cons_cons, ← hlater]
      by_cases hheader : isHeader number timing = true
      · have hplaces : {place | IsHeaderAt (number :: timing :: rest) place} =
            insert 0 (Nat.succ '' {place | IsHeaderAt (timing :: rest) place}) := by
          ext place
          cases place with
          | zero => simp [isHeaderAt_zero_iff, hheader]
          | succ place => simp [isHeaderAt_succ_iff]
        rw [hplaces, if_pos hheader,
          Set.ncard_insert_of_notMem (by simp) ((finite_isHeaderAt _).image _)]
      · have hplaces : {place | IsHeaderAt (number :: timing :: rest) place} =
            Nat.succ '' {place | IsHeaderAt (timing :: rest) place} := by
          ext place
          cases place with
          | zero => simp [isHeaderAt_zero_iff, hheader]
          | succ place => simp [isHeaderAt_succ_iff]
        rw [hplaces, if_neg hheader, Nat.add_zero]

/-! ## Blank lines -/

/-- A text of which the last line is blank, and has its line feed. -/
def EndsBlank (cs : List Char) : Prop :=
  ∃ front blank, cs = front ++ blank ++ ['\n'] ∧ WholeLines front ∧ '\n' ∉ blank ∧
    allBlank blank = true

/-- The code points of the blank characters. -/
def blankPoints : List Nat :=
  [9, 10, 11, 12, 13, 0x20, 0x85, 0xA0, 0x1680, 0x2000, 0x2001, 0x2002, 0x2003, 0x2004, 0x2005,
    0x2006, 0x2007, 0x2008, 0x2009, 0x200A, 0x2028, 0x2029, 0x202F, 0x205F, 0x3000]

/-- A blank is no digit of any script. -/
theorem isDecimalDigit_eq_false_of_isBlank {c : Char} (h : isBlank c = true) :
    isDecimalDigit c = false := by
  have hpoint : c.toNat ∈ blankPoints := by
    simp only [isBlank, Bool.or_eq_true, Bool.and_eq_true, decide_eq_true_eq, beq_iff_eq] at h
    simp only [blankPoints, List.mem_cons, List.not_mem_nil, or_false]
    omega
  have hpoints : ∀ n ∈ blankPoints, isDecimalDigit (Char.ofNat n) = false := by decide
  rw [← Char.ofNat_toNat c]
  exact hpoints c.toNat hpoint

/-- A blank line is no number. -/
theorem isNumberLine_eq_false_of_allBlank {line : List Char} (h : allBlank line = true) :
    isNumberLine line = false := by
  rw [← Bool.not_eq_true, isNumberLine_iff]
  rintro ⟨digits, hne, hdigits, hline⟩
  obtain ⟨c, rest, rfl⟩ := List.exists_cons_of_ne_nil hne
  have hc : isBlank c = true := by
    rcases hline with rfl | rfl <;> exact List.all_eq_true.1 h c (by simp)
  have hdigit := hdigits c List.mem_cons_self
  rw [isDecimalDigit_eq_false_of_isBlank hc] at hdigit
  contradiction

/-- **No header goes over a line that is no number.** -/
theorem headers_append_blank {blank : List Char} (h : isNumberLine blank = false)
    (front rest : List (List Char)) :
    headers (front ++ blank :: rest) = headers (front ++ [blank]) + headers rest := by
  induction front with
  | nil =>
    rw [List.nil_append, List.nil_append, headers_cons_of_not h, headers_singleton, Nat.zero_add]
  | cons line front ih =>
    cases front with
    | nil =>
      rw [List.singleton_append, List.singleton_append, headers_cons_cons, headers_cons_cons,
        headers_cons_of_not h, headers_singleton]
      omega
    | cons next front =>
      simp only [List.cons_append] at ih ⊢
      rw [headers_cons_cons, headers_cons_cons, ih]
      omega

/-- The pieces of a text behind a blank line come after those up to it. -/
theorem EndsBlank.exists_pieces {cs : List Char} (h : EndsBlank cs) :
    ∃ lines blank, isNumberLine blank = false ∧
      ∀ more, pieces (cs ++ more) = lines ++ blank :: pieces more := by
  obtain ⟨front, blank, rfl, hfront, hfeed, hblank⟩ := h
  have hpiece : pieces blank = [blank] := List.splitOn_eq_singleton hfeed
  have hpieces : ∃ lines, pieces (front ++ blank) = lines ++ [blank] := by
    rcases hfront with rfl | hfront
    · exact ⟨[], hpiece⟩
    · obtain ⟨front, rfl⟩ := List.getLast?_eq_some_iff.1 hfront
      refine ⟨pieces front, ?_⟩
      rw [List.append_assoc, List.singleton_append, pieces_append_feed, hpiece]
  obtain ⟨lines, hlines⟩ := hpieces
  refine ⟨lines, blank, isNumberLine_eq_false_of_allBlank hblank, fun more => ?_⟩
  rw [List.append_assoc, List.singleton_append, pieces_append_feed, hlines, List.append_assoc,
    List.singleton_append]

/-- Behind a blank line the count starts anew. -/
theorem headers_pieces_append {cs : List Char} (h : EndsBlank cs) (more : List Char) :
    headers (pieces (cs ++ more)) = headers (pieces cs) + headers (pieces more) := by
  obtain ⟨lines, blank, hblank, hpieces⟩ := h.exists_pieces
  have hnone : pieces cs = lines ++ blank :: pieces [] := by
    rw [← hpieces [], List.append_nil]
  have hempty : headers (pieces []) = 0 := rfl
  rw [hpieces, hnone, headers_append_blank hblank lines (pieces more),
    headers_append_blank hblank lines (pieces []), hempty, Nat.add_zero]

/-! ## The count -/

/-- **The count of a text is the number of lines where a header stands**: the line is a number, and
the next one starts with two clocks and an arrow between them. The counts of two texts add up when
the first is empty or ends with a blank line.

A blank line that is not ended by a line feed is not meant: the second text goes on in it, so it need
not stay blank. In particular the empty piece behind the last line feed of a text is no such line. -/
theorem count_positions (text : String) :
    count text = {place | IsHeaderAt (pieces text.toList) place}.ncard ∧
      ∀ more : String, text = "" ∨ EndsBlank text.toList →
        count (text ++ more) = count text + count more := by
  refine ⟨(count_eq_headers text).trans (headers_eq_ncard _), ?_⟩
  rintro more (rfl | hblank)
  · rw [String.empty_append]
    exact (Nat.zero_add _).symm
  · rw [count_eq_headers, count_eq_headers, count_eq_headers, String.toList_append,
      headers_pieces_append hblank]

/-- A number with its line feed, but without a blank line, makes a header with a timing line. -/
example : count "7\n" = 0 ∧ count "00:00:01,000 --> 00:00:02,000" = 0 ∧
    count ("7\n" ++ "00:00:01,000 --> 00:00:02,000") = 1 := by decide +kernel

/-- Two numbers in front of one timing line, which has settings behind it, and a blank line with a
carriage return. -/
def countedTwice : String := "7\n٨\r\n00:00:01,000 --> 00:00:02,000 X1:5\r\n00:00\n\r\n"

theorem count_positions_countedTwice :
    EndsBlank countedTwice.toList ∧ count countedTwice = 1 ∧
      count (countedTwice ++ countedTwice) = 2 := by
  have hblank : EndsBlank countedTwice.toList :=
    ⟨countedTwice.toList.dropLast.dropLast, ['\r'], by decide +kernel⟩
  have hcount : count countedTwice = 1 := by decide +kernel
  have hboth := (count_positions countedTwice).2 countedTwice (Or.inr hblank)
  rw [hcount] at hboth
  exact ⟨hblank, hcount, hboth⟩

end TrackSelect.SubRip
