import Mathlib.Data.Seq.Basic
import TrackSelect.Process.Runner

/-!
# Collecting the output of a program

The reads of a program's two pipes come in a schedule: the bytes of each pipe are cut into pieces
and the pieces of both are mixed, up to the ends of the pipes, of which there may be none
(`IsSchedule`). What a collection holds after some reads is known from these alone (`held`), and it
goes on as long as this is within the limit and a pipe is open (`collect_take`). Every piece holds a
byte, so a collection has come to an end after two reads more than the limit allows bytes
(`exists_settled`), and then it is either too large or whole. The runner is such a collection
(`feed_gather`). All of this is put together in `gather_scheduled`.
-/

namespace TrackSelect

/-! ## What arrives -/

namespace Read

/-- The bytes of a read, as far as they come from a pipe. -/
def bytesFrom (pipe : Pipe) : Read → List UInt8
  | .piece source bytes => if source = pipe then bytes else []
  | .closed _ => []

/-- The bytes of a pipe in some reads. -/
def arrived (pipe : Pipe) (reads : List Read) : List UInt8 := reads.flatMap (bytesFrom pipe)

theorem arrived_append (pipe : Pipe) (front behind : List Read) :
    arrived pipe (front ++ behind) = arrived pipe front ++ arrived pipe behind :=
  List.flatMap_append

/-- The pipe that a read is of. -/
def pipe : Read → Pipe
  | .piece pipe _ => pipe
  | .closed pipe => pipe

theorem bytesFrom_of_ne {pipe : Pipe} {read : Read} (h : read.pipe ≠ pipe) :
    read.bytesFrom pipe = [] := by
  cases read with
  | piece source bytes => exact if_neg h
  | closed source => rfl

end Read

open Read

/-- The reads of two pipes that send some bytes, or never stop sending, in one of the orders in
which they can come. -/
structure IsSchedule (sent : Pipe → Stream'.Seq UInt8) (schedule : Stream'.Seq Read) : Prop where
  /-- A piece holds some bytes, and no more than the largest one. -/
  piece : ∀ pipe bytes, .piece pipe bytes ∈ schedule → bytes ≠ [] ∧ bytes.length ≤ largest
  /-- What has arrived from a pipe are its bytes, from the first on. -/
  inOrder : ∀ pipe n, ∃ k, arrived pipe (schedule.take n) = (sent pipe).take k
  /-- Once a pipe is closed, all of its bytes have arrived. -/
  closed : ∀ pipe n, .closed pipe ∈ schedule.take n →
    sent pipe = .ofList (arrived pipe (schedule.take n))
  /-- No pipe is closed twice. -/
  once : ∀ pipe m n, schedule.get? m = some (.closed pipe) →
    schedule.get? n = some (.closed pipe) → m = n
  /-- There are reads until both pipes are closed. -/
  ends : ∀ pipe n, schedule.get? n = none → .closed pipe ∈ schedule.take n

/-! ## What is held -/

namespace Buffers

/-- What a collection holds of some reads. -/
def held (reads : List Read) : Buffers where
  out := arrived .out reads
  err := arrived .err reads
  outOpen := .closed .out ∉ reads
  errOpen := .closed .err ∉ reads

/-- One more read is added to what is held. -/
theorem held_concat (reads : List Read) (read : Read) :
    held (reads ++ [read]) = (held reads).receive read := by
  rcases read with ⟨_ | _, bytes⟩ | ⟨_ | _⟩ <;>
    simp [held, receive, arrived, bytesFrom]

/-- A collection that holds this much comes to an end. -/
def IsSettled (limit : Nat) (buffers : Buffers) : Prop :=
  limit < buffers.size ∨ buffers.outOpen = false ∧ buffers.errOpen = false

/-- What a collection comes to that holds this much. -/
def verdict (limit : Nat) (buffers : Buffers) : Collection :=
  if limit < buffers.size then .overflow
  else if buffers.outOpen || buffers.errOpen then .pending buffers
  else .complete buffers.out buffers.err

theorem collected_eq (limit : Nat) (buffers : Buffers) (read : Read) :
    buffers.collected limit read = (buffers.receive read).verdict limit := rfl

theorem verdict_of_not_settled {limit : Nat} {buffers : Buffers}
    (h : ¬ buffers.IsSettled limit) : buffers.verdict limit = .pending buffers := by
  rw [IsSettled, not_or] at h
  have hopen : (buffers.outOpen || buffers.errOpen) = true := by
    rw [← Bool.not_eq_false, Bool.or_eq_false_iff]
    exact h.2
  rw [verdict, if_neg h.1, if_pos hopen]

/-- How many pipes are closed. -/
def closedCount (buffers : Buffers) : Nat :=
  (!buffers.outOpen).toNat + (!buffers.errOpen).toNat

/-- While a collection goes on, one pipe is closed at most. -/
theorem closedCount_le_of_not_settled {limit : Nat} {buffers : Buffers}
    (h : ¬ buffers.IsSettled limit) : buffers.closedCount ≤ 1 := by
  rw [IsSettled, not_or] at h
  unfold closedCount
  cases hout : buffers.outOpen <;> cases herr : buffers.errOpen <;> simp_all

/-- What is held grows by no more than the largest piece. -/
theorem size_receive_le {buffers : Buffers} {read : Read}
    (h : ∀ pipe bytes, read = .piece pipe bytes → bytes.length ≤ largest) :
    (buffers.receive read).size ≤ buffers.size + largest := by
  rcases read with ⟨_ | _, bytes⟩ | ⟨_ | _⟩
  · have hbytes := h _ _ rfl
    simp only [size, receive, List.length_append]
    omega
  · have hbytes := h _ _ rfl
    simp only [size, receive, List.length_append]
    omega
  · exact Nat.le_add_right _ _
  · exact Nat.le_add_right _ _

/-- Whether a pipe is open. -/
def isOpen (buffers : Buffers) : Pipe → Bool
  | .out => buffers.outOpen
  | .err => buffers.errOpen

theorem isOpen_held (pipe : Pipe) (reads : List Read) :
    (held reads).isOpen pipe = decide (.closed pipe ∉ reads) := by
  cases pipe <;> rfl

/-- **Each read counts**: it brings a byte, or closes a pipe. -/
theorem lt_receive {buffers : Buffers} {read : Read}
    (hpiece : ∀ pipe bytes, read = .piece pipe bytes → bytes ≠ [])
    (hclosed : ∀ pipe, read = .closed pipe → buffers.isOpen pipe = true) :
    buffers.size + buffers.closedCount <
      (buffers.receive read).size + (buffers.receive read).closedCount := by
  rcases read with ⟨_ | _, bytes⟩ | ⟨_ | _⟩
  · have hbytes := List.length_pos_iff.2 (hpiece _ _ rfl)
    simp only [size, closedCount, receive, List.length_append]
    omega
  · have hbytes := List.length_pos_iff.2 (hpiece _ _ rfl)
    simp only [size, closedCount, receive, List.length_append]
    omega
  · have hopen : buffers.outOpen = true := hclosed _ rfl
    simp [size, closedCount, receive, hopen]
  · have hopen : buffers.errOpen = true := hclosed _ rfl
    simp [size, closedCount, receive, hopen]

end Buffers

open Buffers

/-! ## Collections -/

/-- A collection that has come to an end takes in no more. -/
theorem collect_concat (limit : Nat) (buffers : Buffers) (reads : List Read) (read : Read) :
    collect limit buffers (reads ++ [read]) =
      match collect limit buffers reads with
      | .pending buffers => buffers.collected limit read
      | final => final := by
  induction reads generalizing buffers with
  | nil =>
    simp only [List.nil_append, collect]
    cases buffers.collected limit read <;> rfl
  | cons first reads ih =>
    simp only [List.cons_append, collect]
    cases buffers.collected limit first with
    | pending buffers => exact ih buffers
    | overflow => rfl
    | complete out err => rfl

/-! ## Schedules -/

section Sequences

variable {α : Type} {s : Stream'.Seq α}

/-- The elements up to one, and that one. -/
theorem take_succ_of_get? {n : Nat} {a : α} (h : s.get? n = some a) :
    s.take (n + 1) = s.take n ++ [a] := by
  induction n generalizing s with
  | zero =>
    cases s using Stream'.Seq.recOn with
    | nil => contradiction
    | cons b s =>
      cases h
      rfl
  | succ n ih =>
    cases s using Stream'.Seq.recOn with
    | nil => contradiction
    | cons b s =>
      rw [Stream'.Seq.take_succ_cons, Stream'.Seq.take_succ_cons, List.cons_append]
      exact congrArg (b :: ·) (ih h)

theorem length_take_of_get? {n : Nat} {a : α} (h : s.get? n = some a) : (s.take n).length = n :=
  Stream'.Seq.length_take_of_le_length fun _ =>
    Nat.le_of_lt (Stream'.Seq.lt_length_iff.2 ⟨a, h⟩)

/-- An element among the first few has its place there. -/
theorem exists_get?_of_mem_take {n : Nat} {a : α} (h : a ∈ s.take n) :
    ∃ m < n, s.get? m = some a := by
  obtain ⟨m, hm⟩ := List.mem_iff_getElem?.1 h
  rw [Stream'.Seq.getElem?_take] at hm
  exact ⟨m, (Option.ite_none_right_eq_some.1 hm).1, (Option.ite_none_right_eq_some.1 hm).2⟩

/-- No more elements are taken than there are. -/
theorem length_take_le_length' (s : Stream'.Seq α) (n : Nat) :
    ((s.take n).length : ℕ∞) ≤ s.length' := by
  by_contra hlt
  rw [not_le] at hlt
  cases hlength : (s.take n).length with
  | zero => simp [hlength] at hlt
  | succ k =>
    have hplace : (s.take n)[k]? = some (s.take n)[k] := List.getElem?_eq_getElem (by omega)
    rw [Stream'.Seq.getElem?_take] at hplace
    have hk : (k : ℕ∞) < s.length' :=
      Stream'.Seq.lt_length'_iff.2 ⟨_, (Option.ite_none_right_eq_some.1 hplace).2⟩
    rw [hlength, Nat.cast_succ] at hlt
    exact absurd (Order.add_one_le_of_lt hk) (not_le.2 hlt)

theorem length'_ofList (list : List α) : (Stream'.Seq.ofList list).length' = list.length := by
  induction list with
  | nil => simp
  | cons a list ih => simp [ih]

theorem take_ofList (list : List α) (n : Nat) :
    (Stream'.Seq.ofList list).take n = list.take n := by
  refine List.ext_getElem? fun m => ?_
  rw [Stream'.Seq.getElem?_take, Stream'.Seq.ofList_get?, List.getElem?_take]

end Sequences

namespace IsSchedule

variable {sent : Pipe → Stream'.Seq UInt8} {schedule : Stream'.Seq Read} {limit : Nat}

/-- What is held after one more read. -/
theorem held_take_succ {n : Nat} {read : Read} (h : schedule.get? n = some read) :
    held (schedule.take (n + 1)) = (held (schedule.take n)).receive read := by
  rw [take_succ_of_get? h, held_concat]

/-- There is a next read while a collection goes on. -/
theorem exists_read (h : IsSchedule sent schedule) {n : Nat}
    (hgoes : ¬ (held (schedule.take n)).IsSettled limit) :
    ∃ read, schedule.get? n = some read := by
  refine Option.ne_none_iff_exists'.1 fun hnone => hgoes (.inr ⟨?_, ?_⟩)
  · simpa [held] using h.ends .out n hnone
  · simpa [held] using h.ends .err n hnone

/-- A pipe that is closed by a read was open before. -/
theorem isOpen_of_closed (h : IsSchedule sent schedule) {pipe : Pipe} {n : Nat}
    (hread : schedule.get? n = some (.closed pipe)) :
    (held (schedule.take n)).isOpen pipe = true := by
  rw [isOpen_held, decide_eq_true_eq]
  intro hmem
  obtain ⟨m, hm, hearlier⟩ := exists_get?_of_mem_take hmem
  exact absurd (h.once pipe m n hearlier hread) (Nat.ne_of_lt hm)

/-- **There are no more reads than bytes and closed pipes.** -/
theorem le_size_add (h : IsSchedule sent schedule) {n : Nat}
    (hreads : ∀ k < n, ∃ read, schedule.get? k = some read) :
    n ≤ (held (schedule.take n)).size + (held (schedule.take n)).closedCount := by
  induction n with
  | zero => exact Nat.zero_le _
  | succ n ih =>
    have hearlier := ih fun k hk => hreads k (Nat.lt_succ_of_lt hk)
    obtain ⟨read, hread⟩ := hreads n (Nat.lt_succ_self n)
    rw [held_take_succ hread]
    refine Nat.lt_of_le_of_lt hearlier (lt_receive ?_ ?_)
    · rintro pipe bytes rfl
      exact (h.piece pipe bytes (Stream'.Seq.get?_mem hread)).1
    · rintro pipe rfl
      exact h.isOpen_of_closed hread

/-- **A collection comes to an end** with two reads more than the limit allows bytes, at the
latest. -/
theorem exists_settled (h : IsSchedule sent schedule) (limit : Nat) :
    ∃ n < limit + 3, (held (schedule.take n)).IsSettled limit := by
  by_contra hnone
  push Not at hnone
  have hreads : ∀ k < limit + 2, ∃ read, schedule.get? k = some read :=
    fun k hk => h.exists_read (hnone k (Nat.lt_succ_of_lt hk))
  have hlast := hnone (limit + 2) (Nat.lt_succ_self _)
  have hle := h.le_size_add hreads
  have hclosed := closedCount_le_of_not_settled hlast
  have hsize : ¬ limit < (held (schedule.take (limit + 2))).size := fun hlt => hlast (.inl hlt)
  omega

/-- **While no pipe and no limit ends it, a collection holds all that has arrived**, and then it
comes to what it holds. -/
theorem collect_take (h : IsSchedule sent schedule) {n : Nat}
    (hgoes : ∀ k < n, ¬ (held (schedule.take k)).IsSettled limit) :
    collect limit {} (schedule.take n) = (held (schedule.take n)).verdict limit := by
  induction n with
  | zero => rfl
  | succ n ih =>
    have hn := hgoes n (Nat.lt_succ_self n)
    have hearlier := ih fun k hk => hgoes k (Nat.lt_succ_of_lt hk)
    obtain ⟨read, hread⟩ := h.exists_read hn
    rw [take_succ_of_get? hread, collect_concat, hearlier, verdict_of_not_settled hn,
      held_concat]
    exact collected_eq limit _ read

/-- What is held never goes beyond the limit by more than one piece. -/
theorem size_held_le (h : IsSchedule sent schedule) {n : Nat}
    (hgoes : ∀ k < n, ¬ (held (schedule.take k)).IsSettled limit) :
    (held (schedule.take n)).size ≤ limit + largest := by
  cases n with
  | zero => exact Nat.zero_le _
  | succ n =>
    have hn := hgoes n (Nat.lt_succ_self n)
    have hsize : ¬ limit < (held (schedule.take n)).size := fun hlt => hn (.inl hlt)
    obtain ⟨read, hread⟩ := h.exists_read hn
    have hgrows : (held (schedule.take (n + 1))).size ≤
        (held (schedule.take n)).size + largest := by
      rw [held_take_succ hread]
      refine size_receive_le ?_
      rintro pipe bytes rfl
      exact (h.piece pipe bytes (Stream'.Seq.get?_mem hread)).2
    omega

/-- No more bytes are held than are sent. -/
theorem size_held_le_length' (h : IsSchedule sent schedule) (n : Nat) :
    ((held (schedule.take n)).size : ℕ∞) ≤ (sent .out).length' + (sent .err).length' := by
  have hpipe : ∀ pipe, ((arrived pipe (schedule.take n)).length : ℕ∞) ≤ (sent pipe).length' := by
    intro pipe
    obtain ⟨k, hk⟩ := h.inOrder pipe n
    rw [hk]
    exact length_take_le_length' _ _
  rw [size, Nat.cast_add]
  exact add_le_add (hpipe .out) (hpipe .err)

/-- **A collection that has come to an end is too large, or whole.** -/
theorem verdict_of_settled (h : IsSchedule sent schedule) {n : Nat}
    (hsettled : (held (schedule.take n)).IsSettled limit) :
    ((limit : ℕ∞) < (sent .out).length' + (sent .err).length' ∧
        (held (schedule.take n)).verdict limit = .overflow) ∨
      ((sent .out).length' + (sent .err).length' ≤ limit ∧
        ∃ out err, sent .out = .ofList out ∧ sent .err = .ofList err ∧
          (held (schedule.take n)).verdict limit = .complete out err) := by
  by_cases hlarge : limit < (held (schedule.take n)).size
  · left
    exact ⟨(Nat.cast_lt.2 hlarge).trans_le (h.size_held_le_length' n), if_pos hlarge⟩
  · right
    obtain ⟨hout, herr⟩ := hsettled.resolve_left hlarge
    have hclosed : (held (schedule.take n)).verdict limit =
        .complete (arrived .out (schedule.take n)) (arrived .err (schedule.take n)) := by
      rw [verdict, if_neg hlarge, hout, herr]
      rfl
    have hsentOut := h.closed .out n (by simpa [held] using hout)
    have hsentErr := h.closed .err n (by simpa [held] using herr)
    refine ⟨?_, _, _, hsentOut, hsentErr, hclosed⟩
    rw [hsentOut, hsentErr, length'_ofList, length'_ofList, ← Nat.cast_add, Nat.cast_le]
    exact Nat.not_lt.1 hlarge

/-- **Reads in any order are a schedule** of the bytes in them, when both pipes are closed and
nothing comes from a closed pipe. -/
theorem ofList {reads : List Read}
    (hpiece : ∀ pipe bytes, .piece pipe bytes ∈ reads → bytes ≠ [] ∧ bytes.length ≤ largest)
    (hclosed : ∀ pipe, .closed pipe ∈ reads)
    (hlast : reads.Pairwise fun a b => a = .closed a.pipe → b.pipe ≠ a.pipe) :
    IsSchedule (fun pipe => .ofList (arrived pipe reads)) (.ofList reads) := by
  have hsplit : ∀ pipe n, arrived pipe reads =
      arrived pipe (reads.take n) ++ arrived pipe (reads.drop n) := by
    intro pipe n
    rw [← arrived_append, List.take_append_drop]
  constructor
  case piece =>
    intro pipe bytes hmem
    obtain ⟨n, hn⟩ := Stream'.Seq.mem_iff_exists_get?.1 hmem
    rw [Stream'.Seq.ofList_get?] at hn
    exact hpiece pipe bytes (List.mem_of_getElem? hn.symm)
  case inOrder =>
    intro pipe n
    refine ⟨(arrived pipe (reads.take n)).length, ?_⟩
    rw [take_ofList, take_ofList, hsplit pipe n, List.take_left]
  case closed =>
    intro pipe n hmem
    rw [take_ofList] at hmem ⊢
    -- what is read behind is of the other pipe
    have hbehind : arrived pipe (reads.drop n) = [] := by
      refine List.flatMap_eq_nil_iff.2 fun read hread => bytesFrom_of_ne ?_
      rw [← List.take_append_drop n reads, List.pairwise_append] at hlast
      exact hlast.2.2 _ hmem read hread rfl
    rw [hsplit pipe n, hbehind, List.append_nil]
  case once =>
    intro pipe m n hm hn
    rw [Stream'.Seq.ofList_get?] at hm hn
    obtain ⟨hmlt, hm⟩ := List.getElem?_eq_some_iff.1 hm
    obtain ⟨hnlt, hn⟩ := List.getElem?_eq_some_iff.1 hn
    rw [List.pairwise_iff_getElem] at hlast
    rcases Nat.lt_trichotomy m n with hlt | heq | hlt
    · have hother := hlast m n hmlt hnlt hlt
      rw [hm, hn] at hother
      exact absurd rfl (hother rfl)
    · exact heq
    · have hother := hlast n m hnlt hmlt hlt
      rw [hm, hn] at hother
      exact absurd rfl (hother rfl)
  case ends =>
    intro pipe n hnone
    rw [Stream'.Seq.ofList_get?, List.getElem?_eq_none_iff] at hnone
    rw [take_ofList, List.take_of_length_le hnone]
    exact hclosed pipe

end IsSchedule

/-! ## The runner -/

/-- A task that is given some reads, one whenever it waits for what arrives next. -/
def Task.feed {α : Type} : Task α → List Read → Task α
  | .receive _ _ next, read :: rest => (next (some read)).feed rest
  | task, _ => task

theorem Task.feed_nil {α : Type} (task : Task α) : task.feed [] = task := by
  cases task <;> rfl

namespace Runner

/-- **A runner collects what arrives**, as long as it has reads left. -/
theorem feed_gather (limits : Limits) (child : Nat) (reads : List Read) :
    ∀ (left : Nat) (buffers : Buffers), reads.length ≤ left →
      (gather limits child left buffers).feed reads =
        match collect limits.output buffers reads with
        | .pending buffers => gather limits child (left - reads.length) buffers
        | final => .done final := by
  induction reads with
  | nil =>
    intro left buffers _
    exact Task.feed_nil _
  | cons read reads ih =>
    intro left buffers hleft
    obtain ⟨left, rfl⟩ : ∃ more, left = more + 1 :=
      Nat.exists_eq_add_one.2 (Nat.lt_of_lt_of_le (Nat.succ_pos _) hleft)
    rw [collect, gather, Task.feed]
    cases hnext : buffers.collected limits.output read with
    | pending buffers =>
      simp only [hnext]
      rw [List.length_cons, Nat.add_sub_add_right]
      exact ih left buffers (Nat.le_of_succ_le_succ hleft)
    | overflow => simp only [hnext, Task.feed]
    | complete out err => simp only [hnext, Task.feed]

/-- **Collecting is exact for every schedule.** For all bytes that the pipes send, be they endless,
and all schedules of them, a runner stops after some reads, fewer than its limit and three more.
Before each of these it waits for one more, with all in its buffers that has arrived, and these
never hold more than one largest piece beyond the limit. It stops with an overflow when both pipes
together send more than the limit, and with all of their bytes when they do not. -/
theorem gather_scheduled (limits : Limits) (child : Nat) {sent : Pipe → Stream'.Seq UInt8}
    {schedule : Stream'.Seq Read} (h : IsSchedule sent schedule) :
    ∃ n < limits.output + 3,
      (∀ k < n, (∃ read, schedule.get? k = some read) ∧
        (gather limits child (limits.output + 3) {}).feed (schedule.take k) =
          gather limits child (limits.output + 3 - k) (held (schedule.take k))) ∧
      (∀ k ≤ n, (held (schedule.take k)).size ≤ limits.output + largest) ∧
      (gather limits child (limits.output + 3) {}).feed (schedule.take n) =
        .done (collect limits.output {} (schedule.take n)) ∧
      (collect limits.output {} (schedule.take n) = .overflow ↔
        (limits.output : ℕ∞) < (sent .out).length' + (sent .err).length') ∧
      ((sent .out).length' + (sent .err).length' ≤ limits.output →
        ∃ out err, sent .out = .ofList out ∧ sent .err = .ofList err ∧
          collect limits.output {} (schedule.take n) = .complete out err) := by
  classical
  have hend := h.exists_settled limits.output
  -- the first moment at which the collection has come to an end
  obtain ⟨hn, hsettled⟩ := Nat.find_spec hend
  have hgoes : ∀ k < Nat.find hend, ¬ (held (schedule.take k)).IsSettled limits.output :=
    fun k hk hearly => Nat.find_min hend hk ⟨hk.trans hn, hearly⟩
  generalize Nat.find hend = n at hn hsettled hgoes
  have hgoesTo : ∀ k ≤ n, ∀ j < k, ¬ (held (schedule.take j)).IsSettled limits.output :=
    fun k hk j hj => hgoes j (Nat.lt_of_lt_of_le hj hk)
  have hlength : ∀ k ≤ n, (schedule.take k).length ≤ limits.output + 3 := fun k hk =>
    Stream'.Seq.length_take_le.trans (hk.trans (Nat.le_of_lt hn))
  have hcollect := h.collect_take hgoes
  have hfeed := feed_gather limits child (schedule.take n) (limits.output + 3) {} (hlength n le_rfl)
  refine ⟨n, hn, fun k hk => ⟨h.exists_read (hgoes k hk), ?_⟩,
    fun k hk => h.size_held_le (hgoesTo k hk), ?_⟩
  · obtain ⟨read, hread⟩ := h.exists_read (hgoes k hk)
    rw [feed_gather limits child _ _ _ (hlength k (Nat.le_of_lt hk)),
      h.collect_take (hgoesTo k (Nat.le_of_lt hk)), verdict_of_not_settled (hgoes k hk),
      length_take_of_get? hread]
  · rcases h.verdict_of_settled hsettled with ⟨hlarge, hverdict⟩ | ⟨hsmall, out, err, hout, herr,
      hverdict⟩
    · rw [hcollect, hverdict] at hfeed ⊢
      exact ⟨hfeed, iff_of_true rfl hlarge, fun hle => absurd hlarge (not_lt.2 hle)⟩
    · rw [hcollect, hverdict] at hfeed ⊢
      refine ⟨hfeed, iff_of_false (by simp) (not_lt.2 hsmall), fun _ => ?_⟩
      exact ⟨out, err, hout, herr, rfl⟩

/-- Nine bytes of two pipes, of which the second is closed in the midst of the first. -/
def greeting : List Read :=
  [.piece .out [104, 101, 108], .piece .err [119, 97, 114, 110], .closed .err,
    .piece .out [108, 111], .closed .out]

/-- Nine bytes are all there when nine are allowed, and are too many when eight are. -/
theorem gather_scheduled_greeting :
    IsSchedule (fun pipe => .ofList (arrived pipe greeting)) (.ofList greeting) ∧
      (∃ n < 12, (gather ⟨9, 1000⟩ 1 12 {}).feed (greeting.take n) =
        .done (.complete [104, 101, 108, 108, 111] [119, 97, 114, 110])) ∧
      ∃ n < 11, (gather ⟨8, 1000⟩ 1 11 {}).feed (greeting.take n) = .done .overflow := by
  have hschedule : IsSchedule (fun pipe => .ofList (arrived pipe greeting)) (.ofList greeting) := by
    refine IsSchedule.ofList ?_ (fun pipe => by cases pipe <;> decide) (by decide)
    intro pipe bytes hmem
    simp only [greeting, List.mem_cons, List.not_mem_nil, or_false, Read.piece.injEq,
      reduceCtorEq, false_or] at hmem
    rcases hmem with ⟨-, rfl⟩ | ⟨-, rfl⟩ | ⟨-, rfl⟩ <;> simp [largest]
  have hnine : (Stream'.Seq.ofList (arrived .out greeting)).length' +
      (Stream'.Seq.ofList (arrived .err greeting)).length' = 9 := by
    rw [length'_ofList, length'_ofList]
    rfl
  refine ⟨hschedule, ?_, ?_⟩
  · obtain ⟨n, hn, -, -, hfeed, -, hwhole⟩ := gather_scheduled ⟨9, 1000⟩ 1 hschedule
    obtain ⟨out, err, hout, herr, hcomplete⟩ := hwhole hnine.le
    cases Stream'.Seq.ofList_injective hout
    cases Stream'.Seq.ofList_injective herr
    rw [hcomplete, take_ofList] at hfeed
    exact ⟨n, hn, hfeed⟩
  · obtain ⟨n, hn, -, -, hfeed, hlarge, -⟩ := gather_scheduled ⟨8, 1000⟩ 1 hschedule
    rw [hlarge.2 (hnine ▸ by decide), take_ofList] at hfeed
    exact ⟨n, hn, hfeed⟩

end Runner

end TrackSelect
