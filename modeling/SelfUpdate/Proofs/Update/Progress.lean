import SelfUpdate.Proofs.Update.History
import Mathlib.Data.List.Chain

/-!
# What a program does to the state of its handler

A handler has a state, and a program that runs with it takes the state from step to
step.  `Proceeds` says of a program in a state that every step is of a certain kind,
and that the program, if it ends, ends with a value and a state that fit each other.
It is put together along the parts of a program.

A program whose requests leave the state alone stays where it is all the time.
-/

namespace SelfUpdate.Program

variable {Handle : Type} {α β ε δ σ : Type} {handler : Handler Handle σ}

theorem exchanges_subset_bind (program : Program Handle α) (next : α → Program Handle β)
    (state : σ) :
    program.exchanges handler state ⊆ (program.bind next).exchanges handler state := by
  induction program generalizing state with
  | done value => exact List.nil_subset _
  | ask request rest ih =>
      simp only [ask_bind, exchanges]
      rcases handler request state with ⟨_ | answer, after⟩
      · exact List.Subset.refl _
      · exact List.cons_subset_cons _ (ih answer after)

/-- Every answer was given by the handler, in some state. -/
theorem exists_answer {program : Program Handle α} {state : σ} {exchange : Exchange Handle}
    (member : exchange ∈ program.exchanges handler state) :
    ∃ now, (handler exchange.request now).1 = exchange.answer := by
  induction program generalizing state with
  | done value => simp [exchanges] at member
  | ask request next ih =>
      unfold exchanges at member
      rcases answered : handler request state with ⟨_ | answer, after⟩ <;>
        rw [answered] at member
      · obtain rfl : exchange = ⟨request, none⟩ := by simpa using member
        exact ⟨state, by rw [answered]⟩
      · rcases List.mem_cons.mp member with rfl | later
        · exact ⟨state, by rw [answered]⟩
        · exact ih answer later

/-- Every step of a run is of the given kind, and if the run ends, its value and its last
state fit each other. -/
def Proceeds (handler : Handler Handle σ) (step : σ → σ → Prop) (post : α → σ → Prop) :
    Program Handle α → σ → Prop
  | .done value, state => post value state
  | .ask request next, state =>
      step state (handler request state).2 ∧
        ∀ answer, (handler request state).1 = some answer →
          (next answer).Proceeds handler step post (handler request state).2

section Proceeds

variable {step : σ → σ → Prop} {post : α → σ → Prop} {state : σ}

theorem Proceeds.mono {program : Program Handle α} {wider : σ → σ → Prop}
    {weaker : α → σ → Prop} (proceeds : program.Proceeds handler step post state)
    (steps : ∀ before after, step before after → wider before after)
    (ends : ∀ value after, post value after → weaker value after) :
    program.Proceeds handler wider weaker state := by
  induction program generalizing state with
  | done value => exact ends value state proceeds
  | ask request next ih =>
      exact ⟨steps _ _ proceeds.1, fun answer given => ih answer (proceeds.2 answer given)⟩

theorem Proceeds.bind {program : Program Handle α} {next : α → Program Handle β}
    {middle : α → σ → Prop} {post : β → σ → Prop}
    (first : program.Proceeds handler step middle state)
    (rest : ∀ value after, middle value after →
      (next value).Proceeds handler step post after) :
    (program.bind next).Proceeds handler step post state := by
  induction program generalizing state with
  | done value => exact rest value state first
  | ask request later ih => exact ⟨first.1, fun answer given => ih answer (first.2 answer given)⟩

theorem Proceeds.andThen {program : Program Handle (Except ε α)}
    {next : α → Program Handle (Except ε β)} {middle : Except ε α → σ → Prop}
    {post : Except ε β → σ → Prop} (first : program.Proceeds handler step middle state)
    (fails : ∀ error after, middle (.error error) after → post (.error error) after)
    (rest : ∀ value after, middle (.ok value) after →
      (next value).Proceeds handler step post after) :
    (program.andThen next).Proceeds handler step post state := by
  apply first.bind
  rintro (error | value) after ended
  · exact fails error after ended
  · exact rest value after ended

theorem Proceeds.orElse {program : Program Handle (Except ε α)} {explain : ε → δ}
    {post : Except δ α → σ → Prop}
    (proceeds : program.Proceeds handler step
      (fun result after => post (result.mapError explain) after) state) :
    (program.orElse explain).Proceeds handler step post state :=
  proceeds.bind fun _ _ ended => ended

/-- A request whose answer is known. -/
theorem Proceeds.ask {request : Request Handle} {next : request.Answer → Program Handle α}
    {answer : request.Answer} {after : σ} (answered : handler request state = (some answer, after))
    (isStep : step state after) (rest : (next answer).Proceeds handler step post after) :
    (Program.ask request next).Proceeds handler step post state := by
  rw [Proceeds, answered]
  refine ⟨isStep, fun given same => ?_⟩
  obtain rfl : answer = given := by simpa using same
  exact rest

theorem Proceeds.request {request : Request Handle} {post : request.Answer → σ → Prop}
    {answer : request.Answer} {after : σ} (answered : handler request state = (some answer, after))
    (isStep : step state after) (ends : post answer after) :
    (Program.request request).Proceeds handler step post state :=
  Proceeds.ask answered isStep ends

theorem Proceeds.post_of_run {program : Program Handle α} {value : α} {after : σ}
    (proceeds : program.Proceeds handler step post state)
    (ended : program.run handler state = (some value, after)) : post value after := by
  induction program generalizing state with
  | done result =>
      obtain ⟨rfl, rfl⟩ : result = value ∧ state = after := by simpa [run] using ended
      exact proceeds
  | ask request next ih =>
      unfold run at ended
      have later := proceeds.2
      rcases answered : handler request state with ⟨_ | answer, middle⟩
      · simp [answered] at ended
      · rw [answered] at ended later
        exact ih answer (later answer rfl) ended

theorem head?_states (program : Program Handle α) (state : σ) :
    (program.states handler state).head? = some state := by
  cases program with
  | done value => rfl
  | ask request next =>
      unfold states
      rcases handler request state with ⟨_ | answer, after⟩ <;> rfl

/-- A run passes from state to state by steps of the given kind. -/
theorem Proceeds.isChain_states {program : Program Handle α}
    (proceeds : program.Proceeds handler step post state) :
    (program.states handler state).IsChain step := by
  induction program generalizing state with
  | done value => exact List.isChain_singleton state
  | ask request next ih =>
      unfold states
      have isStep := proceeds.1
      have later := proceeds.2
      rcases answered : handler request state with ⟨_ | answer, after⟩ <;>
        rw [answered] at isStep later
      · exact List.isChain_pair.mpr isStep
      · apply List.IsChain.cons (ih answer (later answer rfl))
        intro first isFirst
        rw [head?_states] at isFirst
        obtain rfl : after = first := by simpa using isFirst
        exact isStep

end Proceeds

section Quiet

variable {program : Program Handle α} {state : σ}

/-- A run whose requests leave the state alone stays where it is. -/
theorem run_snd_of_quiet
    (quiet : ∀ exchange ∈ program.exchanges handler state,
      ∀ now, (handler exchange.request now).2 = now) :
    (program.run handler state).2 = state := by
  induction program with
  | done value => rfl
  | ask request next ih =>
      unfold exchanges at quiet
      unfold run
      rcases answered : handler request state with ⟨_ | answer, after⟩ <;>
        rw [answered] at quiet
      · simpa [answered] using quiet ⟨request, none⟩ (by simp) state
      · obtain rfl : after = state := by
          simpa [answered] using quiet ⟨request, some answer⟩ (by simp) state
        exact ih answer fun exchange later => quiet exchange (List.mem_cons_of_mem _ later)

/-- Every answer in such a run is the one that would have been given at first. -/
theorem answer_of_quiet
    (quiet : ∀ exchange ∈ program.exchanges handler state,
      ∀ now, (handler exchange.request now).2 = now) :
    ∀ exchange ∈ program.exchanges handler state,
      exchange.answer = (handler exchange.request state).1 := by
  induction program with
  | done value => simp [exchanges]
  | ask request next ih =>
      unfold exchanges at quiet ⊢
      rcases answered : handler request state with ⟨_ | answer, after⟩ <;>
        rw [answered] at quiet
      · simp [answered]
      · obtain rfl : after = state := by
          simpa [answered] using quiet ⟨request, some answer⟩ (by simp) state
        intro exchange member
        rcases List.mem_cons.mp member with rfl | later
        · simp [answered]
        · exact ih answer (fun exchange later => quiet exchange (List.mem_cons_of_mem _ later))
            exchange later

theorem proceeds_of_quiet
    (quiet : ∀ exchange ∈ program.exchanges handler state,
      ∀ now, (handler exchange.request now).2 = now) :
    program.Proceeds handler (fun before after => after = before)
      (fun value after => after = state ∧ (program.run handler state).1 = some value) state := by
  induction program with
  | done value => exact ⟨rfl, rfl⟩
  | ask request next ih =>
      unfold exchanges at quiet
      unfold run Proceeds
      rcases answered : handler request state with ⟨_ | answer, after⟩ <;>
        rw [answered] at quiet
      · exact ⟨by simpa [answered] using quiet ⟨request, none⟩ (by simp) state, by simp⟩
      · obtain rfl : after = state := by
          simpa [answered] using quiet ⟨request, some answer⟩ (by simp) state
        refine ⟨rfl, fun given same => ?_⟩
        obtain rfl : answer = given := by simpa using same
        exact ih answer fun exchange later => quiet exchange (List.mem_cons_of_mem _ later)

end Quiet

end SelfUpdate.Program
