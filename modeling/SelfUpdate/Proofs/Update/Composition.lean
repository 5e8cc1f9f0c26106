import SelfUpdate.Proofs.Update.History

/-!
# Runs of composed programs

A run of a composed program is a run of its first part, and then a run of the rest from
the state that the first part has left.  Its exchanges are put together in the same way.

A run knows of its handler no more than the answers it gets.  Two handlers that agree on
every request that a program may make lead to the same run.
-/

namespace SelfUpdate.Program

variable {Handle : Type} {α β ε δ σ : Type}

section Parts

variable {handler : Handler Handle σ} {state after : σ}

theorem run_bind (program : Program Handle α) (next : α → Program Handle β) (state : σ) :
    (program.bind next).run handler state =
      match program.run handler state with
      | (some value, after) => (next value).run handler after
      | (none, after) => (none, after) := by
  induction program generalizing state with
  | done value => rfl
  | ask request rest ih =>
      simp only [ask_bind, run]
      rcases handler request state with ⟨_ | answer, after⟩
      · rfl
      · exact ih answer after

theorem exchanges_bind (program : Program Handle α) (next : α → Program Handle β) (state : σ) :
    (program.bind next).exchanges handler state =
      program.exchanges handler state ++
        match program.run handler state with
        | (some value, after) => (next value).exchanges handler after
        | (none, _) => [] := by
  induction program generalizing state with
  | done value => rfl
  | ask request rest ih =>
      simp only [ask_bind, exchanges, run]
      rcases handler request state with ⟨_ | answer, after⟩
      · rfl
      · simpa using ih answer after

variable {program : Program Handle (Except ε α)} {next : α → Program Handle (Except ε β)}

theorem run_andThen_of_ok {value : α}
    (ended : program.run handler state = (some (.ok value), after)) :
    (program.andThen next).run handler state = (next value).run handler after := by
  rw [andThen, run_bind, ended]

theorem exchanges_andThen_of_ok {value : α}
    (ended : program.run handler state = (some (.ok value), after)) :
    (program.andThen next).exchanges handler state =
      program.exchanges handler state ++ (next value).exchanges handler after := by
  rw [andThen, exchanges_bind, ended]

theorem run_orElse (program : Program Handle (Except ε α)) (explain : ε → δ) (state : σ) :
    (program.orElse explain).run handler state =
      ((program.run handler state).1.map (·.mapError explain),
        (program.run handler state).2) := by
  rw [orElse, run_bind]
  rcases program.run handler state with ⟨_ | result, after⟩ <;> rfl

theorem exchanges_orElse (program : Program Handle (Except ε α)) (explain : ε → δ) (state : σ) :
    (program.orElse explain).exchanges handler state = program.exchanges handler state := by
  rw [orElse, exchanges_bind]
  rcases program.run handler state with ⟨_ | result, after⟩ <;> simp [exchanges]

end Parts

section Agreement

variable {left right : Handler Handle σ} {permitted : Request Handle → Prop}

theorem run_eq_of_uses (agree : ∀ request, permitted request → left request = right request)
    {program : Program Handle α} (uses : program.Uses permitted) (state : σ) :
    program.run left state = program.run right state := by
  induction program generalizing state with
  | done value => rfl
  | ask request next ih =>
      simp only [run, agree request uses.1]
      rcases right request state with ⟨_ | answer, after⟩
      · rfl
      · exact ih answer (uses.2 answer) after

theorem exchanges_eq_of_uses (agree : ∀ request, permitted request → left request = right request)
    {program : Program Handle α} (uses : program.Uses permitted) (state : σ) :
    program.exchanges left state = program.exchanges right state := by
  induction program generalizing state with
  | done value => rfl
  | ask request next ih =>
      simp only [exchanges, agree request uses.1]
      rcases right request state with ⟨_ | answer, after⟩
      · rfl
      · exact congrArg _ (ih answer (uses.2 answer) after)

end Agreement

end SelfUpdate.Program
