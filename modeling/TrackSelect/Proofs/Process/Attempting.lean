import TrackSelect.Proofs.Process.Collecting
import TrackSelect.Proofs.Process.Retrying

/-!
# Runs that succeed

A run that succeeds has put out what arrived from the pipes, all of it, and that is within the limit
(`runs_attempt_ok`). However often it is tried, what comes out is what the last attempt comes to
(`Retry.exists_last`).
-/

namespace TrackSelect

open Read

namespace Buffers

theorem out_receive (buffers : Buffers) (read : Read) :
    (buffers.receive read).out = buffers.out ++ read.bytesFrom .out := by
  rcases read with ⟨_ | _, bytes⟩ | ⟨_ | _⟩ <;> simp [receive, bytesFrom]

theorem err_receive (buffers : Buffers) (read : Read) :
    (buffers.receive read).err = buffers.err ++ read.bytesFrom .err := by
  rcases read with ⟨_ | _, bytes⟩ | ⟨_ | _⟩ <;> simp [receive, bytesFrom]

/-- A collection that goes on holds what it held and what has arrived. -/
theorem eq_of_collected_pending {limit : Nat} {buffers next : Buffers} {read : Read}
    (h : buffers.collected limit read = .pending next) : next = buffers.receive read := by
  unfold collected at h
  dsimp only at h
  split_ifs at h
  cases h
  rfl

/-- So does one that is complete, and that is within the limit. -/
theorem eq_of_collected_complete {limit : Nat} {buffers : Buffers} {read : Read}
    {out err : List UInt8} (h : buffers.collected limit read = .complete out err) :
    out = (buffers.receive read).out ∧ err = (buffers.receive read).err ∧
      out.length + err.length ≤ limit := by
  unfold collected at h
  dsimp only at h
  split_ifs at h with hlarge
  cases h
  exact ⟨rfl, rfl, Nat.not_lt.1 hlarge⟩

end Buffers

namespace Runner

/-- The exchange in which something arrives from a program. -/
def arrival (limits : Limits) (child : Nat) (read : Read) : Exchange :=
  .received child limits.wait (some read)

/-- **A runner that has collected everything has taken in one read after the other.** -/
theorem runs_gather {limits : Limits} {child left : Nat} {buffers : Buffers}
    {trace : List Exchange} {out err : List UInt8}
    (h : (gather limits child left buffers).Runs trace (.complete out err)) :
    ∃ reads, trace = reads.map (arrival limits child) ∧
      out = buffers.out ++ arrived .out reads ∧ err = buffers.err ++ arrived .err reads ∧
      out.length + err.length ≤ limits.output := by
  induction left generalizing buffers trace with
  | zero => cases h
  | succ left ih =>
    cases h with
    | receive answer h =>
      cases answer with
      | none => cases h
      | some read =>
        dsimp only at h
        cases hnext : buffers.collected limits.output read with
        | pending next =>
          simp only [hnext] at h
          obtain ⟨reads, rfl, hout, herr, hlimit⟩ := ih h
          obtain rfl := Buffers.eq_of_collected_pending hnext
          rw [Buffers.out_receive, List.append_assoc] at hout
          rw [Buffers.err_receive, List.append_assoc] at herr
          exact ⟨read :: reads, rfl, hout, herr, hlimit⟩
        | overflow =>
          simp only [hnext] at h
          cases h
        | complete out err =>
          simp only [hnext] at h
          cases h
          obtain ⟨rfl, rfl, hlimit⟩ := Buffers.eq_of_collected_complete hnext
          refine ⟨[read], rfl, ?_, ?_, hlimit⟩
          · rw [Buffers.out_receive, arrived, List.flatMap_singleton]
          · rw [Buffers.err_receive, arrived, List.flatMap_singleton]

/-- **What a program puts out in a run that succeeds** is what arrived from its pipes, with no byte
missing, and within the limit. -/
theorem runs_attempt_ok {runner : Runner} {arguments : List String} {trace : List Exchange}
    {captured : Captured} (h : (runner.attempt arguments).Runs trace (.ok captured)) :
    ∃ child reads ending,
      trace = .started runner.program arguments (.ok child) ::
        (reads.map (arrival runner.limits child) ++
          [.ended child runner.limits.wait (some ending)]) ∧
      ending.isSuccess = true ∧
      captured = ⟨Text.Utf8.decode (arrived .out reads), Text.Utf8.decode (arrived .err reads)⟩ ∧
      (arrived .out reads).length + (arrived .err reads).length ≤ runner.limits.output := by
  cases h with
  | start answer h =>
    cases answer with
    | error fault => cases h
    | ok child =>
      obtain ⟨front, collection, behind, rfl, hfront, hbehind⟩ := Task.runs_andThen_iff.1 h
      cases collection with
      | overflow =>
        cases hbehind with
        | stop h => cases h
      | pending buffers =>
        cases hbehind with
        | stop h => cases h
      | complete out err =>
        cases hbehind with
        | ending answer h =>
          cases answer with
          | none =>
            cases h with
            | stop h => cases h
          | some ending =>
            obtain ⟨rfl, hjudge⟩ := Task.runs_done_iff.1 h
            obtain ⟨reads, rfl, hout, herr, hlimit⟩ := runs_gather hfront
            obtain rfl : out = arrived .out reads := hout
            obtain rfl : err = arrived .err reads := herr
            unfold judge at hjudge
            split_ifs at hjudge with hsuccess
            cases hjudge
            exact ⟨child, reads, ending, rfl, hsuccess, rfl, hlimit⟩

end Runner

/-- **What comes out of a program that is run again is what its last attempt comes to.** -/
theorem Retry.exists_last {α : Type} {retry : Retry} {call : Task (Except Fault α)}
    {again left : Nat} {trace : List Exchange} {result : Except Fault α}
    (h : (callFrom retry call again left).Runs trace result) :
    ∃ front last, trace = front ++ last ∧ call.Runs last result := by
  obtain ⟨exchanges, outcome, more, hcalls, rfl⟩ := exists_of_runs h
  obtain ⟨-, -, -, rfl⟩ := (runs_course_iff hcalls).1 h
  exact ⟨_, _, rfl, hcalls (again + more) (Nat.le_add_right _ _) (Nat.le_refl _)⟩

end TrackSelect
