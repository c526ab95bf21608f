import Mathlib.Data.List.Basic
import Mathlib.Data.Nat.Find
import TrackSelect.Process.Runner

/-!
# Running a program again

What passes between a task and its machine is a list of exchanges, each a request with the answer
that it got (`Task.Runs`). The same answers make a task go the same way, so of two lists of
exchanges with one result each, none is the beginning of the other (`Runs.eq_of_prefix`). With this
the runs of a program that may be run again are found to be its attempts one after the other, with a
pause behind each but the last (`runs_course_iff`, `exists_of_runs`). The last one is the first
that decides, or the last that is allowed (`IsDeciding`), and there is exactly one such
(`exists_isDeciding`, `IsDeciding.unique`). Both are put together in `run_deciding`.
-/

namespace TrackSelect

/-! ## Exchanges -/

/-- A request of a task to its machine, with the answer. -/
inductive Exchange where
  | started (program : String) (arguments : List String) (answer : Except Fault Nat)
  | received (child time : Nat) (answer : Option Read)
  | ended (child time : Nat) (answer : Option Ending)
  | stopped (child : Nat)
  | paused (time : Nat)

namespace Task

variable {α β : Type}

/-- A task comes to a result when its requests are answered in some way. -/
inductive Runs : Task α → List Exchange → α → Prop where
  | done (a : α) : Runs (.done a) [] a
  | start {program arguments next rest a} (answer : Except Fault Nat)
      (h : Runs (next answer) rest a) :
      Runs (.start program arguments next) (.started program arguments answer :: rest) a
  | receive {child time next rest a} (answer : Option Read) (h : Runs (next answer) rest a) :
      Runs (.receive child time next) (.received child time answer :: rest) a
  | ending {child time next rest a} (answer : Option Ending) (h : Runs (next answer) rest a) :
      Runs (.ending child time next) (.ended child time answer :: rest) a
  | stop {child next rest a} (h : Runs next rest a) :
      Runs (.stop child next) (.stopped child :: rest) a
  | pause {time next rest a} (h : Runs next rest a) :
      Runs (.pause time next) (.paused time :: rest) a

theorem runs_done_iff {a b : α} {trace : List Exchange} :
    (Task.done a).Runs trace b ↔ trace = [] ∧ b = a := by
  constructor
  · rintro ⟨⟩
    exact ⟨rfl, rfl⟩
  · rintro ⟨rfl, rfl⟩
    exact .done b

theorem runs_pause_iff {time : Nat} {next : Task α} {trace : List Exchange} {a : α} :
    (Task.pause time next).Runs trace a ↔
      ∃ rest, trace = .paused time :: rest ∧ next.Runs rest a := by
  constructor
  · rintro ⟨⟩
    next rest h => exact ⟨rest, rfl, h⟩
  · rintro ⟨rest, rfl, h⟩
    exact .pause h

/-- One task after another makes the exchanges of both. -/
theorem runs_andThen_iff {task : Task α} {f : α → Task β} {trace : List Exchange} {b : β} :
    (task.andThen f).Runs trace b ↔
      ∃ front a behind, trace = front ++ behind ∧ task.Runs front a ∧ (f a).Runs behind b := by
  constructor
  · intro h
    induction task generalizing trace with
    | done a => exact ⟨[], a, trace, rfl, .done a, h⟩
    | start program arguments next ih =>
      cases h with
      | start answer h =>
        obtain ⟨front, a, behind, rfl, hfront, hbehind⟩ := ih answer h
        exact ⟨_, a, behind, rfl, .start answer hfront, hbehind⟩
    | receive child time next ih =>
      cases h with
      | receive answer h =>
        obtain ⟨front, a, behind, rfl, hfront, hbehind⟩ := ih answer h
        exact ⟨_, a, behind, rfl, .receive answer hfront, hbehind⟩
    | ending child time next ih =>
      cases h with
      | ending answer h =>
        obtain ⟨front, a, behind, rfl, hfront, hbehind⟩ := ih answer h
        exact ⟨_, a, behind, rfl, .ending answer hfront, hbehind⟩
    | stop child next ih =>
      cases h with
      | stop h =>
        obtain ⟨front, a, behind, rfl, hfront, hbehind⟩ := ih h
        exact ⟨_, a, behind, rfl, .stop hfront, hbehind⟩
    | pause time next ih =>
      cases h with
      | pause h =>
        obtain ⟨front, a, behind, rfl, hfront, hbehind⟩ := ih h
        exact ⟨_, a, behind, rfl, .pause hfront, hbehind⟩
  · rintro ⟨front, a, behind, rfl, hfront, hbehind⟩
    induction hfront with
    | done a => exact hbehind
    | start answer h ih => exact .start answer (ih hbehind)
    | receive answer h ih => exact .receive answer (ih hbehind)
    | ending answer h ih => exact .ending answer (ih hbehind)
    | stop h ih => exact .stop (ih hbehind)
    | pause h ih => exact .pause (ih hbehind)

/-- **The same answers lead to the same end**: a run does not go on where another one is over. -/
theorem Runs.eq_of_prefix {task : Task α} {front trace : List Exchange} {a b : α}
    (hfront : task.Runs front a) (htrace : task.Runs trace b) (h : front <+: trace) :
    front = trace ∧ a = b := by
  induction hfront generalizing trace with
  | done a =>
    cases htrace
    exact ⟨rfl, rfl⟩
  | start answer hrest ih =>
    cases htrace with
    | start other hother =>
      obtain ⟨hsame, hprefix⟩ := List.cons_prefix_cons.1 h
      cases hsame
      obtain ⟨rfl, rfl⟩ := ih hother hprefix
      exact ⟨rfl, rfl⟩
  | receive answer hrest ih =>
    cases htrace with
    | receive other hother =>
      obtain ⟨hsame, hprefix⟩ := List.cons_prefix_cons.1 h
      cases hsame
      obtain ⟨rfl, rfl⟩ := ih hother hprefix
      exact ⟨rfl, rfl⟩
  | ending answer hrest ih =>
    cases htrace with
    | ending other hother =>
      obtain ⟨hsame, hprefix⟩ := List.cons_prefix_cons.1 h
      cases hsame
      obtain ⟨rfl, rfl⟩ := ih hother hprefix
      exact ⟨rfl, rfl⟩
  | stop hrest ih =>
    cases htrace with
    | stop hother =>
      obtain ⟨rfl, rfl⟩ := ih hother (List.cons_prefix_cons.1 h).2
      exact ⟨rfl, rfl⟩
  | pause hrest ih =>
    cases htrace with
    | pause hother =>
      obtain ⟨rfl, rfl⟩ := ih hother (List.cons_prefix_cons.1 h).2
      exact ⟨rfl, rfl⟩

/-- So what two runs begin with is told apart from what comes behind. -/
theorem Runs.append_inj {task : Task α} {front other behind rest : List Exchange} {a b : α}
    (hfront : task.Runs front a) (hother : task.Runs other b)
    (h : front ++ behind = other ++ rest) : front = other ∧ a = b ∧ behind = rest := by
  have hprefix : front <+: other ++ rest := h ▸ List.prefix_append _ _
  rcases List.prefix_or_prefix_of_prefix hprefix (List.prefix_append other rest) with hle | hle
  · obtain ⟨rfl, rfl⟩ := hfront.eq_of_prefix hother hle
    exact ⟨rfl, rfl, List.append_cancel_left h⟩
  · obtain ⟨rfl, rfl⟩ := hother.eq_of_prefix hfront hle
    exact ⟨rfl, rfl, List.append_cancel_left h⟩

end Task

/-! ## The attempt that decides -/

namespace Retry

variable {α : Type}

/-- After this outcome there is no other attempt: it is a success, or a fault that will not pass. -/
def Decides (outcome : Except Fault α) : Prop :=
  ∀ fault, outcome = .error fault → fault.isRetryable = false

theorem decides_ok (a : α) : Decides (.ok a : Except Fault α) := by
  rintro fault ⟨⟩

theorem decides_error_iff {fault : Fault} :
    Decides (.error fault : Except Fault α) ↔ fault.isRetryable = false := by
  constructor
  · exact fun h => h fault rfl
  · rintro h _ ⟨⟩
    exact h

/-- An attempt is the first whose outcome decides, or the last one that is allowed when there is no
such. Attempts are counted from one. -/
structure IsDeciding (retry : Retry) (outcome : Nat → Except Fault α) (attempt : Nat) : Prop where
  pos : 1 ≤ attempt
  le : attempt ≤ max 1 retry.attempts
  decides : Decides (outcome attempt) ∨ attempt = max 1 retry.attempts
  first : ∀ earlier, 1 ≤ earlier → earlier < attempt → ¬ Decides (outcome earlier)

variable {retry : Retry} {outcome : Nat → Except Fault α}

theorem exists_isDeciding (retry : Retry) (outcome : Nat → Except Fault α) :
    ∃ attempt, IsDeciding retry outcome attempt := by
  classical
  have hend : ∃ attempt, 1 ≤ attempt ∧
      (Decides (outcome attempt) ∨ attempt = max 1 retry.attempts) :=
    ⟨max 1 retry.attempts, le_max_left _ _, .inr rfl⟩
  refine ⟨Nat.find hend, (Nat.find_spec hend).1, ?_, (Nat.find_spec hend).2, ?_⟩
  · exact Nat.find_min' hend ⟨le_max_left _ _, .inr rfl⟩
  · exact fun earlier hpos hlt hdecides => Nat.find_min hend hlt ⟨hpos, .inl hdecides⟩

theorem IsDeciding.not_lt {a b : Nat} (ha : IsDeciding retry outcome a)
    (hb : IsDeciding retry outcome b) : ¬ a < b := by
  intro hlt
  rcases ha.decides with hdecides | hlast
  · exact hb.first a ha.pos hlt hdecides
  · exact absurd hb.le (Nat.not_le.2 (hlast ▸ hlt))

theorem IsDeciding.unique {a b : Nat} (ha : IsDeciding retry outcome a)
    (hb : IsDeciding retry outcome b) : a = b :=
  Nat.le_antisymm (Nat.not_lt.1 (hb.not_lt ha)) (Nat.not_lt.1 (ha.not_lt hb))

/-! ## Attempts one after the other -/

/-- The exchanges of the attempts from number `first` on, with `more` of them behind this one, and a
pause before each of these. -/
def course (pause : Nat) (exchanges : Nat → List Exchange) (first more : Nat) : List Exchange :=
  (List.range' first more).flatMap (fun i => exchanges i ++ [.paused (pause * i)]) ++
    exchanges (first + more)

theorem course_zero (pause : Nat) (exchanges : Nat → List Exchange) (first : Nat) :
    course pause exchanges first 0 = exchanges first := rfl

theorem course_succ (pause : Nat) (exchanges : Nat → List Exchange) (first more : Nat) :
    course pause exchanges first (more + 1) =
      exchanges first ++ .paused (pause * first) :: course pause exchanges (first + 1) more := by
  have hlast : first + (more + 1) = first + 1 + more := by omega
  simp [course, List.range'_succ, hlast]

/-- The calls of a task, with pauses between them. -/
abbrev callFrom (retry : Retry) (call : Task (Except Fault α)) (again left : Nat) :
    Task (Except Fault α) :=
  runFrom retry (fun time => .pause time (.done ())) call again left

/-- What comes behind a call that is not the last one left: nothing after a success, and a pause and
another call after a fault that may pass. -/
theorem exists_callFrom_succ (retry : Retry) (call : Task (Except Fault α)) (again left : Nat) :
    ∃ next : Except Fault α → Task (Except Fault α),
      callFrom retry call again (left + 1) = call.andThen next ∧
      (∀ a, next (.ok a) = .done (.ok a)) ∧
      ∀ fault, next (.error fault) =
        if fault.isRetryable then
          .pause (retry.pause * again) (callFrom retry call (again + 1) left)
        else .done (.error fault) :=
  ⟨_, rfl, fun _ => rfl, fun _ => rfl⟩

/-- A run is one call, or a call whose fault may pass, a pause, and a run that has a call less
left. -/
theorem runs_callFrom_iff {call : Task (Except Fault α)} {again left : Nat}
    {trace : List Exchange} {result : Except Fault α} :
    (callFrom retry call again left).Runs trace result ↔
      (call.Runs trace result ∧ (left = 0 ∨ Decides result)) ∨
      ∃ fewer front behind fault, left = fewer + 1 ∧
        trace = front ++ .paused (retry.pause * again) :: behind ∧
        call.Runs front (.error fault) ∧ fault.isRetryable = true ∧
        (callFrom retry call (again + 1) fewer).Runs behind result := by
  cases left with
  | zero => simp [callFrom, runFrom]
  | succ fewer =>
    obtain ⟨next, hstep, hok, herror⟩ := exists_callFrom_succ retry call again fewer
    rw [hstep, Task.runs_andThen_iff]
    constructor
    · rintro ⟨front, outcome, behind, rfl, hfront, hbehind⟩
      cases outcome with
      | ok a =>
        rw [hok, Task.runs_done_iff] at hbehind
        obtain ⟨rfl, rfl⟩ := hbehind
        rw [List.append_nil]
        exact .inl ⟨hfront, .inr (decides_ok a)⟩
      | error fault =>
        rw [herror] at hbehind
        by_cases hpasses : fault.isRetryable = true
        · rw [if_pos hpasses, Task.runs_pause_iff] at hbehind
          obtain ⟨rest, rfl, hrest⟩ := hbehind
          exact .inr ⟨fewer, front, rest, fault, rfl, rfl, hfront, hpasses, hrest⟩
        · rw [if_neg hpasses, Task.runs_done_iff] at hbehind
          obtain ⟨rfl, rfl⟩ := hbehind
          rw [List.append_nil]
          exact .inl ⟨hfront, .inr (decides_error_iff.2 (Bool.not_eq_true _ ▸ hpasses))⟩
    · rintro (⟨hcall, hend⟩ | ⟨_, front, behind, fault, ⟨rfl⟩, rfl, hfront, hpasses, hbehind⟩)
      · refine ⟨trace, result, [], (List.append_nil _).symm, hcall, ?_⟩
        have hdecides := hend.resolve_left (Nat.succ_ne_zero fewer)
        cases result with
        | ok a =>
          rw [hok]
          exact .done _
        | error fault =>
          rw [herror, decides_error_iff.1 hdecides, if_neg Bool.false_ne_true]
          exact .done _
      · refine ⟨front, .error fault, _, rfl, hfront, ?_⟩
        rw [herror, if_pos hpasses]
        exact .pause hbehind

/-- **Along some attempts**, a run makes as many of them as it takes to decide, if that many are
left, and comes to the outcome of the last. -/
theorem runs_course_iff {call : Task (Except Fault α)} {exchanges : Nat → List Exchange}
    {outcome : Nat → Except Fault α} {more : Nat} :
    ∀ {again left : Nat} {result : Except Fault α},
      (∀ i, again ≤ i → i ≤ again + more → call.Runs (exchanges i) (outcome i)) →
      ((callFrom retry call again left).Runs (course retry.pause exchanges again more) result ↔
        more ≤ left ∧ (Decides (outcome (again + more)) ∨ more = left) ∧
          (∀ i, again ≤ i → i < again + more → ¬ Decides (outcome i)) ∧
          result = outcome (again + more)) := by
  induction more with
  | zero =>
    intro again left result hcalls
    have hfirst := hcalls again (Nat.le_refl _) (Nat.le_refl _)
    rw [course_zero, runs_callFrom_iff]
    constructor
    · rintro (⟨hcall, hend⟩ | ⟨fewer, front, behind, fault, -, hsplit, hcall, -, -⟩)
      · obtain ⟨-, rfl⟩ := hfirst.eq_of_prefix hcall (List.prefix_refl _)
        exact ⟨Nat.zero_le _, hend.symm.imp_right Eq.symm, by omega, rfl⟩
      · have hbehind := (hcall.append_inj hfirst (hsplit.symm.trans (List.append_nil _).symm)).2.2
        cases hbehind
    · rintro ⟨-, hend, -, rfl⟩
      exact .inl ⟨hfirst, hend.symm.imp_left Eq.symm⟩
  | succ more ih =>
    intro again left result hcalls
    have hfirst := hcalls again (Nat.le_refl _) (Nat.le_add_right _ _)
    have hlater : ∀ i, again + 1 ≤ i → i ≤ again + 1 + more → call.Runs (exchanges i) (outcome i) :=
      fun i hi hle => hcalls i (by omega) (by omega)
    have hsum : again + (more + 1) = again + 1 + more := by omega
    rw [course_succ, runs_callFrom_iff, hsum]
    constructor
    · rintro (⟨hcall, -⟩ | ⟨fewer, front, behind, fault, rfl, hsplit, hcall, hpasses, hrest⟩)
      · -- one call is over before the first pause
        have hbehind := (hcall.append_inj hfirst (List.append_nil _)).2.2
        cases hbehind
      · obtain ⟨-, hfault, hbehind⟩ := hfirst.append_inj hcall hsplit
        cases hbehind
        obtain ⟨hle, hend, hearlier, hresult⟩ := (ih hlater).1 hrest
        refine ⟨Nat.succ_le_succ hle, hend.imp_right (congrArg _), fun i hi hlt => ?_, hresult⟩
        rcases Nat.eq_or_lt_of_le hi with rfl | hi
        · rw [hfault, decides_error_iff, hpasses]
          decide
        · exact hearlier i hi hlt
    · rintro ⟨hle, hend, hearlier, hresult⟩
      obtain ⟨fewer, rfl⟩ := Nat.exists_eq_add_one.2 (Nat.lt_of_lt_of_le (Nat.succ_pos _) hle)
      have hgoes := hearlier again (Nat.le_refl _) (by omega)
      cases hfault : outcome again with
      | ok a => exact absurd (hfault ▸ decides_ok a) hgoes
      | error fault =>
        rw [hfault] at hfirst hgoes
        rw [decides_error_iff, Bool.not_eq_false] at hgoes
        have hrest : (callFrom retry call (again + 1) fewer).Runs
            (course retry.pause exchanges (again + 1) more) result :=
          (ih hlater).2 ⟨Nat.le_of_succ_le_succ hle, hend.imp_right Nat.succ.inj,
            fun i hi hlt => hearlier i (by omega) hlt, hresult⟩
        exact .inr ⟨fewer, _, _, fault, rfl, rfl, hfirst, hgoes, hrest⟩

/-- Only the attempts that it is made of matter to a course. -/
theorem course_congr {pause : Nat} {a b : Nat → List Exchange} {first more : Nat}
    (h : ∀ i, first ≤ i → i ≤ first + more → a i = b i) :
    course pause a first more = course pause b first more := by
  unfold course
  rw [h (first + more) (Nat.le_add_right _ _) (Nat.le_refl _)]
  congr 1
  refine List.flatMap_congr fun i hi => ?_
  obtain ⟨hlow, hhigh⟩ := List.mem_range'_1.1 hi
  rw [h i hlow (Nat.le_of_lt hhigh)]

/-- **Every run is a course of attempts.** -/
theorem exists_of_runs {call : Task (Except Fault α)} {left : Nat} :
    ∀ {again : Nat} {trace : List Exchange} {result : Except Fault α},
      (callFrom retry call again left).Runs trace result →
      ∃ (exchanges : Nat → List Exchange) (outcome : Nat → Except Fault α) (more : Nat),
        (∀ i, again ≤ i → i ≤ again + more → call.Runs (exchanges i) (outcome i)) ∧
        trace = course retry.pause exchanges again more := by
  induction left with
  | zero =>
    intro again trace result h
    rcases runs_callFrom_iff.1 h with ⟨hcall, -⟩ | ⟨_, _, _, _, hleft, -⟩
    · exact ⟨fun _ => trace, fun _ => result, 0, fun _ _ _ => hcall, rfl⟩
    · cases hleft
  | succ left ih =>
    intro again trace result h
    rcases runs_callFrom_iff.1 h with
      ⟨hcall, -⟩ | ⟨_, front, behind, fault, ⟨rfl⟩, rfl, hcall, -, hrest⟩
    · exact ⟨fun _ => trace, fun _ => result, 0, fun _ _ _ => hcall, rfl⟩
    · obtain ⟨exchanges, outcome, more, hlater, rfl⟩ := ih hrest
      -- the call in front has its number, the others keep theirs
      refine ⟨Function.update exchanges again front, Function.update outcome again (.error fault),
        more + 1, fun i hi hle => ?_, ?_⟩
      · rcases Nat.eq_or_lt_of_le hi with rfl | hi
        · simpa using hcall
        · rw [Function.update_of_ne (Nat.ne_of_gt hi), Function.update_of_ne (Nat.ne_of_gt hi)]
          exact hlater i hi (by omega)
      · have hlaterCourse : course retry.pause (Function.update exchanges again front) (again + 1)
            more = course retry.pause exchanges (again + 1) more :=
          course_congr fun i hi _ => Function.update_of_ne (Nat.ne_of_gt hi) _ _
        rw [course_succ, Function.update_self, hlaterCourse]

/-- A pause that can be expressed is as long as it should be. -/
theorem pauseBefore?_eq {again : Nat} (h : (retry.pauseBefore? again).isSome = true) :
    retry.pauseBefore? again = some (retry.pause * again) := by
  have hle : retry.pause * again ≤ longestPause := by
    by_contra hlong
    simp [pauseBefore?, hlong] at h
  simp [pauseBefore?, hle]

/-- The number of the last attempt, from how many there are behind the first. -/
theorem isDeciding_iff {attempt : Nat} (hpos : 1 ≤ attempt) :
    IsDeciding retry outcome attempt ↔
      attempt - 1 ≤ max 1 retry.attempts - 1 ∧
        (Decides (outcome (1 + (attempt - 1))) ∨ attempt - 1 = max 1 retry.attempts - 1) ∧
        ∀ i, 1 ≤ i → i < 1 + (attempt - 1) → ¬ Decides (outcome i) := by
  have hmost : 1 ≤ max 1 retry.attempts := Nat.le_max_left _ _
  rw [Nat.add_sub_cancel' hpos]
  constructor
  · rintro ⟨-, hle, hend, hfirst⟩
    exact ⟨Nat.sub_le_sub_right hle 1, hend.imp_right (congrArg (· - 1)), hfirst⟩
  · rintro ⟨hle, hend, hfirst⟩
    exact ⟨hpos, by omega, hend.imp_right (by omega), hfirst⟩

end Retry

open Retry

/-- **A program is run until an attempt decides**, or as often as it may be. For every sequence of
attempts there is one that the run ends with, the first that decides or the last that is allowed:
along the sequence the run makes that many attempts, no fewer and no more, and comes to the outcome
of that one. In front of every later attempt there is a pause that grows with the number of
attempts made, and none behind the last. All runs are of this kind. This is so for every number of
attempts of 32 bits, to which the count of them keeps, as long as the pauses can be expressed. -/
theorem Runner.run_deciding (runner : Runner) (arguments : List String)
    (hattempts : runner.retry.attempts < twoTo 32)
    (hpauses : ∀ i, 1 ≤ i → i < max 1 runner.retry.attempts →
      (runner.retry.pauseBefore? i).isSome = true) :
    (∀ (exchanges : Nat → List Exchange) (outcome : Nat → Except Fault Captured),
      (∀ i, 1 ≤ i → (runner.attempt arguments).Runs (exchanges i) (outcome i)) →
      ∃ attempt, IsDeciding runner.retry outcome attempt ∧ attempt < twoTo 32 ∧
        (∀ i, 1 ≤ i → i < attempt →
          runner.retry.pauseBefore? i = some (runner.retry.pause * i)) ∧
        ∀ made result, 1 ≤ made →
          ((runner.run arguments).Runs (course runner.retry.pause exchanges 1 (made - 1)) result ↔
            made = attempt ∧ result = outcome attempt)) ∧
    ∀ trace result, (runner.run arguments).Runs trace result →
      ∃ (exchanges : Nat → List Exchange) (outcome : Nat → Except Fault Captured) (attempt : Nat),
        (∀ i, 1 ≤ i → i ≤ attempt → (runner.attempt arguments).Runs (exchanges i) (outcome i)) ∧
        IsDeciding runner.retry outcome attempt ∧
        trace = course runner.retry.pause exchanges 1 (attempt - 1) ∧
        result = outcome attempt := by
  have hrun : runner.run arguments = callFrom runner.retry (runner.attempt arguments) 1
      (max 1 runner.retry.attempts - 1) := rfl
  rw [hrun]
  refine ⟨fun exchanges outcome hcalls => ?_, fun trace result h => ?_⟩
  · obtain ⟨attempt, hattempt⟩ := exists_isDeciding runner.retry outcome
    have hlow : attempt < twoTo 32 := by
      have hone : 1 < twoTo 32 := by decide
      exact Nat.lt_of_le_of_lt hattempt.le (max_lt hone hattempts)
    refine ⟨attempt, hattempt, hlow, fun i hi hlt => ?_, fun made result hmade => ?_⟩
    · exact pauseBefore?_eq (hpauses i hi (Nat.lt_of_lt_of_le hlt hattempt.le))
    · rw [runs_course_iff fun i hi _ => hcalls i hi, Nat.add_sub_cancel' hmade]
      constructor
      · rintro ⟨hle, hend, hearlier, rfl⟩
        have hmadeDecides : IsDeciding runner.retry outcome made := by
          rw [isDeciding_iff hmade, Nat.add_sub_cancel' hmade]
          exact ⟨hle, hend, hearlier⟩
        obtain rfl := hmadeDecides.unique hattempt
        exact ⟨rfl, rfl⟩
      · rintro ⟨rfl, rfl⟩
        rw [isDeciding_iff hmade, Nat.add_sub_cancel' hmade] at hattempt
        exact ⟨hattempt.1, hattempt.2.1, hattempt.2.2, rfl⟩
  · obtain ⟨exchanges, outcome, more, hcalls, rfl⟩ := exists_of_runs h
    obtain ⟨hle, hend, hearlier, rfl⟩ := (runs_course_iff hcalls).1 h
    refine ⟨exchanges, outcome, 1 + more, hcalls, ?_, ?_, rfl⟩
    · rw [isDeciding_iff (Nat.le_add_right _ _), Nat.add_sub_cancel_left]
      exact ⟨hle, hend, hearlier⟩
    · rw [Nat.add_sub_cancel_left]

/-- A program that cannot be started at first, and then is not to be started at all. -/
def unstartable : Runner := ⟨"probe", ⟨1024, 1000⟩, ⟨3, 2000⟩⟩

/-- What comes of each attempt: the program is missing once, and without pipes from then on. -/
def startFault (attempt : Nat) : Fault :=
  if attempt = 1 then .system .noEntry else .settings "no pipes"

/-- There is one pause and no third attempt. -/
theorem Runner.run_deciding_unstartable :
    unstartable.retry.attempts < twoTo 32 ∧
      (∀ i, 1 ≤ i → i < max 1 unstartable.retry.attempts →
        (unstartable.retry.pauseBefore? i).isSome = true) ∧
      (unstartable.run []).Runs
        [.started "probe" [] (.error (.system .noEntry)), .paused 2000,
          .started "probe" [] (.error (.settings "no pipes"))]
        (.error (.settings "no pipes")) := by
  have hattempts : unstartable.retry.attempts < twoTo 32 := by decide
  have hpauses : ∀ i, 1 ≤ i → i < max 1 unstartable.retry.attempts →
      (unstartable.retry.pauseBefore? i).isSome = true := by
    intro i hi hlt
    have hthree : i = 1 ∨ i = 2 := by
      have hmost : max 1 unstartable.retry.attempts = 3 := rfl
      omega
    rcases hthree with rfl | rfl <;> decide
  have hcalls : ∀ i, 1 ≤ i → (unstartable.attempt []).Runs
      [.started "probe" [] (.error (startFault i))] (.error (startFault i)) :=
    fun i _ => .start _ (.done _)
  obtain ⟨attempt, hattempt, -, -, hmade⟩ := (unstartable.run_deciding [] hattempts hpauses).1
    (fun i => [.started "probe" [] (.error (startFault i))]) (fun i => .error (startFault i)) hcalls
  have hsecond : IsDeciding unstartable.retry
      (fun i => (.error (startFault i) : Except Fault Captured)) 2 := by
    refine ⟨by decide, by decide, .inl (decides_error_iff.2 rfl), fun i hi hlt => ?_⟩
    obtain rfl : i = 1 := by omega
    rw [decides_error_iff]
    decide
  obtain rfl := hattempt.unique hsecond
  exact ⟨hattempts, hpauses, (hmade 2 _ (by decide)).2 ⟨rfl, rfl⟩⟩

end TrackSelect
