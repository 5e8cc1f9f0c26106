import SelfUpdate.Proofs.Result
import SelfUpdate.Update.Program

/-!
# Histories of programs

What a program has asked for and what it was answered is its history.  Which
histories a program can have is a matter of the program alone: any answer is
possible at any time, and so is none.  The histories that a handler leads to are
among them, so what is shown of all histories holds in every surroundings.

Histories of composed programs are put together from histories of their parts.
-/

namespace SelfUpdate

/-- A request and its answer, if it was ever answered. -/
structure Exchange (Handle : Type) where
  request : Request Handle
  answer : Option request.Answer

namespace Program

variable {Handle : Type} {α β γ ε δ σ : Type}

@[simp]
theorem done_bind (value : α) (next : α → Program Handle β) :
    (Program.done value).bind next = next value :=
  rfl

@[simp]
theorem ask_bind (request : Request Handle) (rest : request.Answer → Program Handle α)
    (next : α → Program Handle β) :
    (Program.ask request rest).bind next = .ask request fun answer => (rest answer).bind next :=
  rfl

theorem bind_assoc (program : Program Handle α) (next : α → Program Handle β)
    (last : β → Program Handle γ) :
    (program.bind next).bind last = program.bind fun value => (next value).bind last := by
  induction program with
  | done value => rfl
  | ask request rest ih =>
      simp only [ask_bind]
      congr 1
      funext answer
      exact ih answer

theorem andThen_assoc (program : Program Handle (Except ε α))
    (next : α → Program Handle (Except ε β)) (last : β → Program Handle (Except ε γ)) :
    (program.andThen next).andThen last =
      program.andThen fun value => (next value).andThen last := by
  unfold andThen
  rw [bind_assoc]
  congr 1
  funext result
  cases result <;> rfl

/-- Explaining failures and going on after success, in one step. -/
theorem andThen_orElse (program : Program Handle (Except ε α)) (explain : ε → δ)
    (next : α → Program Handle (Except δ β)) :
    (program.orElse explain).andThen next =
      program.bind fun
        | .ok value => next value
        | .error error => .done (.error (explain error)) := by
  unfold andThen orElse
  rw [bind_assoc]
  congr 1
  funext result
  cases result <;> rfl

/-- What a program asks for under a handler, and what it is answered. -/
def exchanges (handler : Handler Handle σ) : Program Handle α → σ → List (Exchange Handle)
  | .done _, _ => []
  | .ask request next, state =>
      match handler request state with
      | (some answer, after) => ⟨request, some answer⟩ :: (next answer).exchanges handler after
      | (none, _) => [⟨request, none⟩]

/-- The histories that a program can have, each with the value that the program ends
with.  A program whose request is never answered does not end. -/
inductive HasHistory : Program Handle α → List (Exchange Handle) → Option α → Prop where
  | done (value : α) : HasHistory (.done value) [] (some value)
  | unanswered (request : Request Handle) (next : request.Answer → Program Handle α) :
      HasHistory (.ask request next) [⟨request, none⟩] none
  | answered {request : Request Handle} {next : request.Answer → Program Handle α}
      {answer : request.Answer} {log : List (Exchange Handle)} {result : Option α}
      (rest : HasHistory (next answer) log result) :
      HasHistory (.ask request next) (⟨request, some answer⟩ :: log) result

/-- Under a handler a program has a history that it can have. -/
theorem hasHistory_exchanges (handler : Handler Handle σ) (program : Program Handle α)
    (state : σ) :
    program.HasHistory (program.exchanges handler state) (program.run handler state).1 := by
  induction program generalizing state with
  | done value => exact .done value
  | ask request next ih =>
      unfold exchanges run
      rcases handler request state with ⟨_ | answer, after⟩
      · exact .unanswered request next
      · exact .answered (ih answer after)

theorem HasHistory.of_done {value : α} {log : List (Exchange Handle)} {result : Option α}
    (history : (Program.done value).HasHistory log result) : log = [] ∧ result = some value := by
  cases history
  exact ⟨rfl, rfl⟩

theorem HasHistory.of_request {request : Request Handle} {log : List (Exchange Handle)}
    {result : Option request.Answer}
    (history : (Program.request request).HasHistory log result) : log = [⟨request, result⟩] := by
  cases history with
  | unanswered => rfl
  | answered rest => cases rest; rfl

/-- A composed program either never gets beyond its first part, or its history is one of
the first part followed by one of the second. -/
theorem HasHistory.of_bind {program : Program Handle α} {next : α → Program Handle β}
    {log : List (Exchange Handle)} {result : Option β}
    (history : (program.bind next).HasHistory log result) :
    (program.HasHistory log none ∧ result = none) ∨
      ∃ value first second, program.HasHistory first (some value) ∧
        (next value).HasHistory second result ∧ log = first ++ second := by
  induction program generalizing log with
  | done value => exact Or.inr ⟨value, [], log, .done value, history, rfl⟩
  | ask request rest ih =>
      cases history with
      | unanswered => exact Or.inl ⟨.unanswered request rest, rfl⟩
      | @answered _ _ answer _ _ later =>
          rcases ih answer later with ⟨stuck, rfl⟩ | ⟨value, first, second, before, after, rfl⟩
          · exact Or.inl ⟨.answered stuck, rfl⟩
          · exact Or.inr ⟨value, _, second, .answered before, after, rfl⟩

/-- A program that goes on only after success never ends, or fails, or goes on. -/
theorem HasHistory.of_andThen {program : Program Handle (Except ε α)}
    {next : α → Program Handle (Except ε β)} {log : List (Exchange Handle)}
    {result : Option (Except ε β)} (history : (program.andThen next).HasHistory log result) :
    (program.HasHistory log none ∧ result = none) ∨
      (∃ error, program.HasHistory log (some (.error error)) ∧ result = some (.error error)) ∨
      ∃ value first second, program.HasHistory first (some (.ok value)) ∧
        (next value).HasHistory second result ∧ log = first ++ second := by
  rcases history.of_bind with stuck | ⟨outcome, first, second, before, after, rfl⟩
  · exact Or.inl stuck
  · right
    cases outcome with
    | error error =>
        obtain ⟨rfl, rfl⟩ := after.of_done
        exact Or.inl ⟨error, by rwa [List.append_nil], rfl⟩
    | ok value => exact Or.inr ⟨value, first, second, before, after, rfl⟩

theorem HasHistory.of_stage {program : Program Handle (Except ε α)} {explain : ε → δ}
    {next : α → Program Handle (Except δ β)} {log : List (Exchange Handle)}
    {result : Option (Except δ β)}
    (history : ((program.orElse explain).andThen next).HasHistory log result) :
    (program.HasHistory log none ∧ result = none) ∨
      (∃ error, program.HasHistory log (some (.error error)) ∧
        result = some (.error (explain error))) ∨
      ∃ value first second, program.HasHistory first (some (.ok value)) ∧
        (next value).HasHistory second result ∧ log = first ++ second := by
  rw [andThen_orElse] at history
  rcases history.of_bind with stuck | ⟨outcome, first, second, before, after, rfl⟩
  · exact Or.inl stuck
  · right
    cases outcome with
    | error error =>
        obtain ⟨rfl, rfl⟩ := after.of_done
        exact Or.inl ⟨error, by rwa [List.append_nil], rfl⟩
    | ok value => exact Or.inr ⟨value, first, second, before, after, rfl⟩

/-- A program that makes only requests of a certain kind, whatever it is answered. -/
def Uses (permitted : Request Handle → Prop) : Program Handle α → Prop
  | .done _ => True
  | .ask request next => permitted request ∧ ∀ answer, (next answer).Uses permitted

section Uses

variable {permitted : Request Handle → Prop}

theorem Uses.bind {program : Program Handle α} {next : α → Program Handle β}
    (first : program.Uses permitted) (rest : ∀ value, (next value).Uses permitted) :
    (program.bind next).Uses permitted := by
  induction program with
  | done value => exact rest value
  | ask request later ih => exact ⟨first.1, fun answer => ih answer (first.2 answer)⟩

theorem Uses.andThen {program : Program Handle (Except ε α)}
    {next : α → Program Handle (Except ε β)} (first : program.Uses permitted)
    (rest : ∀ value, (next value).Uses permitted) : (program.andThen next).Uses permitted := by
  apply first.bind
  rintro (error | value)
  · trivial
  · exact rest value

theorem Uses.orElse {program : Program Handle (Except ε α)} {explain : ε → δ}
    (uses : program.Uses permitted) : (program.orElse explain).Uses permitted :=
  uses.bind fun _ => trivial

theorem Uses.request {request : Request Handle} (member : permitted request) :
    (Program.request request).Uses permitted :=
  ⟨member, fun _ => trivial⟩

/-- A history of such a program holds only such requests. -/
theorem HasHistory.uses {program : Program Handle α} {log : List (Exchange Handle)}
    {result : Option α} (history : program.HasHistory log result)
    (uses : program.Uses permitted) : ∀ exchange ∈ log, permitted exchange.request := by
  induction history with
  | done value => simp
  | unanswered request next => simpa using uses.1
  | answered rest ih =>
      intro exchange member
      rcases List.mem_cons.mp member with rfl | later
      · exact uses.1
      · exact ih (uses.2 _) exchange later

end Uses

end Program

end SelfUpdate
