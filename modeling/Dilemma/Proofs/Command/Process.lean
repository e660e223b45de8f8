import Dilemma.Command.Tools

/-! # Waiting for processes

The looks at a process are numbered in advance, but their number never decides anything: time
passes between them, so the loop ends before. A process is heard exactly if a look finds that it
has ended well and the looks before that one came in time. -/

namespace Dilemma

namespace Process

variable {process : Process} {program : String} {limit : Duration}

theorem interval_le_clock (process : Process) (count : Nat) :
    count * Look.interval.nanoseconds ≤ (process.clock count).nanoseconds := by
  induction count with
  | zero =>
      rw [Nat.zero_mul]
      exact Nat.zero_le _
  | succ count induction =>
      have next := process.paced count
      rw [Nat.succ_mul]
      omega

/-! ## The loop -/

/-- What comes of looking from some look on, for as long as it takes. -/
inductive Polls (process : Process) (program : String) (limit : Duration) :
    Nat → Except TranslatorError ExitStatus → Prop where
  | ended {count : Nat} {status : ExitStatus} (found : process.look count = .ended status) :
      Polls process program limit count (.ok status)
  | lost {count : Nat} {message : String} (found : process.look count = .lost message) :
      Polls process program limit count
        (.error (.unavailable s!"`{program}` failed: {message}"))
  | late {count : Nat} (found : process.look count = .running)
      (late : limit.nanoseconds ≤ (process.clock count).nanoseconds) :
      Polls process program limit count (.error (.timedOut limit))
  | again {count : Nat} {result : Except TranslatorError ExitStatus}
      (found : process.look count = .running)
      (early : (process.clock count).nanoseconds < limit.nanoseconds)
      (rest : Polls process program limit (count + 1) result) :
      Polls process program limit count result

/-- The last of the looks comes when the time is up, so it is the last in any case. -/
theorem polls_await {looks count : Nat}
    (enough : limit.nanoseconds ≤ (process.clock (count + looks)).nanoseconds) :
    process.Polls program limit count (process.await program limit (looks + 1) count) := by
  induction looks generalizing count with
  | zero =>
      rw [await]
      cases found : process.look count with
      | ended status => exact .ended found
      | lost message => exact .lost found
      | running =>
          dsimp only
          have late : limit.nanoseconds ≤ (process.clock count).nanoseconds := enough
          rw [if_pos late]
          exact .late found late
  | succ looks induction =>
      rw [await]
      cases found : process.look count with
      | ended status => exact .ended found
      | lost message => exact .lost found
      | running =>
          dsimp only
          split
          · rename_i late
            exact .late found late
          · rename_i early
            rw [← Nat.succ_add_eq_add_succ] at enough
            exact .again found (Nat.not_le.mp early) (induction enough)

theorem polls_wait (process : Process) (program : String) (limit : Duration) :
    process.Polls program limit 0 (process.wait program limit) := by
  have interval : Look.interval.nanoseconds = 10000000 := rfl
  have passed := process.interval_le_clock (0 + (limit.nanoseconds / 10000000 + 1))
  rw [interval] at passed
  rw [wait, looksWithin, interval]
  exact polls_await (by omega)

theorem Polls.unique {count : Nat} {result other : Except TranslatorError ExitStatus}
    (polls : process.Polls program limit count result)
    (again : process.Polls program limit count other) : result = other := by
  induction polls with
  | ended found | lost found =>
      cases again with
      | ended foundToo | lost foundToo | late foundToo _ | again foundToo _ _ =>
          cases found.symm.trans foundToo <;> rfl
  | late found late =>
      cases again with
      | ended foundToo | lost foundToo => cases found.symm.trans foundToo
      | late _ _ => rfl
      | again _ early _ => omega
  | again found early rest induction =>
      cases again with
      | ended foundToo | lost foundToo => cases found.symm.trans foundToo
      | late _ late => omega
      | again _ _ restToo => exact induction restToo

/-! ## Ends in time -/

/-- This look finds the end, and no look before it came too late. -/
structure EndsAt (process : Process) (limit : Duration) (status : ExitStatus) (count : Nat) :
    Prop where
  ended : process.look count = .ended status
  before : ∀ earlier < count, process.look earlier = .running ∧
    (process.clock earlier).nanoseconds < limit.nanoseconds

theorem Polls.endsAt {start : Nat} {result : Except TranslatorError ExitStatus}
    {status : ExitStatus} (polls : process.Polls program limit start result)
    (ok : result = .ok status)
    (before : ∀ earlier < start, process.look earlier = .running ∧
      (process.clock earlier).nanoseconds < limit.nanoseconds) :
    ∃ count, process.EndsAt limit status count := by
  induction polls with
  | ended found =>
      cases ok
      exact ⟨_, found, before⟩
  | lost found => cases ok
  | late found late => cases ok
  | again found early rest induction =>
      refine induction ok fun earlier less => ?_
      rcases Nat.lt_succ_iff_lt_or_eq.mp less with sooner | rfl
      · exact before earlier sooner
      · exact ⟨found, early⟩

theorem EndsAt.polls {status : ExitStatus} {count : Nat}
    (ends : process.EndsAt limit status count) (program : String) :
    process.Polls program limit 0 (.ok status) := by
  have all : ∀ left ≤ count, process.Polls program limit (count - left) (.ok status) := by
    intro left
    induction left with
    | zero => exact fun _ => .ended ends.ended
    | succ left induction =>
        intro within
        rcases ends.before (count - (left + 1)) (by omega) with ⟨found, early⟩
        have following : count - (left + 1) + 1 = count - left := by omega
        refine .again found early ?_
        rw [following]
        exact induction (by omega)
  have first := all count (Nat.le_refl count)
  rwa [Nat.sub_self] at first

theorem wait_eq_ok_iff {status : ExitStatus} :
    process.wait program limit = .ok status ↔ ∃ count, process.EndsAt limit status count := by
  constructor
  · exact fun ok => (polls_wait process program limit).endsAt ok fun _ => nofun
  · rintro ⟨count, ends⟩
    exact (polls_wait process program limit).unique (ends.polls program)

/-! ## Answers -/

theorem legacy_eq_ok_iff {decoding : Decoding} {status : ExitStatus} {answer : Answer} :
    process.legacy decoding program status = .ok answer ↔ status = .code 0 ∧
      (Text.ofOctets? process.output).bind (Answer.parse? decoding.numbers) = some answer := by
  rw [legacy, ExitStatus.isSuccess]
  by_cases success : status = .code 0
  · rw [if_pos (decide_eq_true success)]
    cases (Text.ofOctets? process.output).bind (Answer.parse? decoding.numbers) <;>
      simp [success]
  · simp [success]

/-- There is an answer exactly if the process takes its input, ends well in time and leaves the
text of the answer behind. -/
theorem answer_eq_ok_iff {decoding : Decoding} {answer : Answer} :
    process.answer decoding program limit = .ok answer ↔
      process.unwritten = none ∧ (∃ count, process.EndsAt limit (.code 0) count) ∧
        ∃ text, Text.ofOctets? process.output = some text ∧
          Answer.parse? decoding.numbers text = some answer := by
  rw [← Option.bind_eq_some_iff, ← @wait_eq_ok_iff process program, Process.answer]
  cases process.unwritten with
  | some message => simp
  | none =>
      cases process.wait program limit with
      | error error => simp
      | ok status => simp [legacy_eq_ok_iff]

end Process

/-! ## Tools -/

/-- A tool that is done before its time is up is seen to end. -/
theorem Execution.wait_process {execution : Execution} {limit : Duration}
    (inTime : execution.duration.nanoseconds < limit.nanoseconds) (program : String) :
    execution.process.wait program limit = .ok (.code (UInt8.ofNat execution.status)) := by
  have interval : Look.interval.nanoseconds = 10000000 := rfl
  refine Process.wait_eq_ok_iff.mpr
    ⟨(execution.duration.nanoseconds + 9999999) / 10000000, if_pos ?_, fun earlier less => ?_⟩
  · rw [interval]
    omega
  · refine ⟨if_neg ?_, ?_⟩
    · rw [interval]
      omega
    · have clock : (execution.process.clock earlier).nanoseconds = earlier * 10000000 := rfl
      rw [clock]
      omega

end Dilemma
