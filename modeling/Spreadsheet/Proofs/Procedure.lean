import Spreadsheet.Procedure

/-!
# Runs of procedures

What every turn of a procedure keeps is still there when the answer comes, and it comes within as
many turns as there is work.
-/

namespace Spreadsheet.Procedure

variable {σ α : Type} {p : Procedure σ α} {s : σ}

/-- The answer comes with the last of so many turns. -/
inductive Answers (p : Procedure σ α) : Nat → σ → α → Prop where
  /-- The first turn has the answer. -/
  | now {s : σ} {answer : α} (h : p.turn s = .inl answer) : Answers p 1 s answer
  /-- The first turn leaves something to do. -/
  | later {n : Nat} {s s' : σ} {answer : α} (h : p.turn s = .inr s')
      (hrest : Answers p n s' answer) : Answers p (n + 1) s answer

/-- The answer comes within as many turns as there is work, and one more. -/
theorem exists_answers (p : Procedure σ α) (s : σ) :
    ∃ n ≤ p.work s + 1, p.Answers n s (p.run s) := by
  fun_induction p.run s with
  | case1 s answer h => exact ⟨1, Nat.le_add_left 1 _, .now h⟩
  | case2 s rest h ih =>
    obtain ⟨n, hn, hrest⟩ := ih
    exact ⟨n + 1, Nat.succ_le_succ (Nat.le_trans hn (p.work_lt h)), .later h hrest⟩

/-- What holds at the start and is kept by every turn holds when the answer comes. -/
theorem run_of_invariant {P : σ → Prop} {Q : α → Prop}
    (hturn : ∀ s s', P s → p.turn s = .inr s' → P s')
    (hanswer : ∀ s answer, P s → p.turn s = .inl answer → Q answer) (hs : P s) : Q (p.run s) := by
  fun_induction p.run s with
  | case1 s answer h => exact hanswer s answer hs h
  | case2 s rest h ih => exact ih (hturn s rest hs h)

end Spreadsheet.Procedure
