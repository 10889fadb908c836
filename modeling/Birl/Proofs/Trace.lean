/-!
# Traces

Something is asked one question after another and answers each. `Trace.log` has every question
with its answer, and `Trace.after` is the state in the end. What holds of the two is shown for
one more question (`Trace.induct`), and an answer in the log was given in the state that the
questions before it had left (`Trace.log_split`).
-/

namespace Birl.Trace

variable {State Question Answer : Type} (ask : State → Question → Answer × State)

def log (s : State) : List Question → List (Question × Answer)
  | [] => []
  | q :: rest => (q, (ask s q).1) :: log (ask s q).2 rest

def after (s : State) : List Question → State
  | [] => s
  | q :: rest => after (ask s q).2 rest

theorem induct {P : List (Question × Answer) → State → Prop} {s : State} (start : P [] s)
    (next : ∀ done s q, P done s → P (done ++ [(q, (ask s q).1)]) (ask s q).2)
    (questions : List Question) : P (log ask s questions) (after ask s questions) := by
  -- the questions are taken off the front, so the log so far has to be any log
  suffices h : ∀ done s, P done s → P (done ++ log ask s questions) (after ask s questions) from
    h [] s start
  induction questions with
  | nil =>
    intro done s h
    simpa [log, after] using h
  | cons q rest ih =>
    intro done s h
    simpa [log, after] using ih _ _ (next done s q h)

variable {ask}

theorem length_log (s : State) (questions : List Question) :
    (log ask s questions).length = questions.length := by
  induction questions generalizing s with
  | nil => rfl
  | cons q rest ih => simp [log, ih]

theorem log_split {s : State} {questions : List Question} {l m : List (Question × Answer)}
    {q : Question} {a : Answer} (h : log ask s questions = l ++ (q, a) :: m) :
    ∃ before rest, log ask s before = l ∧ a = (ask (after ask s before) q).1 ∧
      log ask (ask (after ask s before) q).2 rest = m := by
  induction l generalizing s questions with
  | nil =>
    cases questions with
    | nil => simp [log] at h
    | cons q' rest =>
      simp only [log, List.nil_append, List.cons.injEq, Prod.mk.injEq] at h
      obtain ⟨⟨rfl, rfl⟩, rfl⟩ := h
      exact ⟨[], rest, rfl, rfl, rfl⟩
  | cons entry l ih =>
    cases questions with
    | nil => simp [log] at h
    | cons q' rest =>
      simp only [log, List.cons_append, List.cons.injEq] at h
      obtain ⟨rfl, h⟩ := h
      obtain ⟨before, rest, rfl, rfl, rfl⟩ := ih h
      exact ⟨q' :: before, rest, rfl, rfl, rfl⟩

end Birl.Trace
