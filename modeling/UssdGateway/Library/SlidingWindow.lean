import Mathlib.Data.List.Count

/-!
A limit on what happens in any window of time. It holds when everything that happens has found less
than the limit behind it within the width of a window.
-/

namespace SlidingWindow

def after (moment : Int) (times : List Int) : Nat :=
  times.countP fun time => decide (moment < time)

def within (width start : Int) (times : List Int) : Nat :=
  times.countP fun time => decide (start ≤ time) && decide (time < start + width)

/-- The newest first. -/
def Limited (limit : Nat) (width : Int) : List Int → Prop
  | [] => True
  | time :: earlier => after (time - width) earlier < limit ∧ Limited limit width earlier

theorem after_cons (moment time : Int) (earlier : List Int) :
    after moment (time :: earlier) = after moment earlier + if moment < time then 1 else 0 := by
  simp [after, List.countP_cons]

theorem after_mono {first second : Int} (later : first ≤ second) (times : List Int) :
    after second times ≤ after first times := by
  apply List.countP_mono_left
  intro time _
  simp only [decide_eq_true_eq]
  omega

theorem Limited.within_le {limit : Nat} {width : Int} {times : List Int}
    (limited : Limited limit width times) (start : Int) : within width start times ≤ limit := by
  induction times with
  | nil => exact Nat.zero_le _
  | cons time earlier ih =>
      rw [within, List.countP_cons]
      split
      next inside =>
        rw [Bool.and_eq_true, decide_eq_true_eq, decide_eq_true_eq] at inside
        have behind : within width start earlier ≤ after (time - width) earlier := by
          apply List.countP_mono_left
          intro other _
          simp only [Bool.and_eq_true, decide_eq_true_eq]
          omega
        have found := limited.1
        rw [within] at behind
        omega
      next => exact ih limited.2

end SlidingWindow
