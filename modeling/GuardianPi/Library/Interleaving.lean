import Mathlib.Data.List.Basic

/-! # A component of an interleaved run

A machine takes inputs one by one and answers each with a list of outputs. A component of it sees part
of the state, some of the inputs and some of the outputs. -/

namespace GuardianPi.Library.Interleaving

variable {σ τ ι κ ω : Type*}

def outputs (step : σ → ι → σ × List ω) : σ → List ι → List ω
  | _, [] => []
  | s, i :: later => (step s i).2 ++ outputs step (step s i).1 later

def after (step : σ → ι → σ × List ω) : σ → List ι → σ
  | s, [] => s
  | s, i :: later => after step (step s i).1 later

/-- The machine answers an input of the component as the component itself would, and another input
without it. -/
structure Component (step : σ → ι → σ × List ω) (own : τ → κ → τ × List ω) (view : σ → τ)
    (input : ι → Option κ) (mine : ω → Bool) : Prop where
  takes : ∀ s i k, input i = some k →
    view (step s i).1 = (own (view s) k).1 ∧ (step s i).2.filter mine = (own (view s) k).2
  ignores : ∀ s i, input i = none → view (step s i).1 = view s ∧ (step s i).2.filter mine = []

variable {step : σ → ι → σ × List ω} {own : τ → κ → τ × List ω} {view : σ → τ} {input : ι → Option κ}
  {mine : ω → Bool}

theorem outputs_append (s : σ) (first later : List ι) :
    outputs step s (first ++ later) = outputs step s first ++ outputs step (after step s first) later := by
  induction first generalizing s with
  | nil => rfl
  | cons i first ih => rw [List.cons_append, outputs, outputs, after, ih, List.append_assoc]

theorem after_append (s : σ) (first later : List ι) :
    after step s (first ++ later) = after step (after step s first) later := by
  induction first generalizing s with
  | nil => rfl
  | cons i first ih => exact ih (step s i).1

theorem Component.outputs_eq (component : Component step own view input mine) (s : σ) (inputs : List ι) :
    (outputs step s inputs).filter mine = outputs own (view s) (inputs.filterMap input) := by
  induction inputs generalizing s with
  | nil => rfl
  | cons i later ih =>
      rw [outputs, List.filter_append, ih]
      cases given : input i with
      | none =>
          obtain ⟨same, nothing⟩ := component.ignores s i given
          rw [List.filterMap_cons_none given, same, nothing, List.nil_append]
      | some k =>
          obtain ⟨next, answer⟩ := component.takes s i k given
          rw [List.filterMap_cons_some given, outputs, next, answer]

section
variable {α : Type*}

theorem outputs_map {own : τ → κ → τ × List α} {f : α → ω} (t : τ) (ks : List κ) :
    outputs (fun t k => ((own t k).1, (own t k).2.map f)) t ks = (outputs own t ks).map f := by
  induction ks generalizing t with
  | nil => rfl
  | cons k ks ih => rw [outputs, outputs, List.map_append, ih]

theorem outputs_eq_flatten {own : τ → κ → τ × List ω} {r : τ → List κ → List (List ω)}
    (nil : ∀ t, r t [] = []) (cons : ∀ t k ks, r t (k :: ks) = (own t k).2 :: r (own t k).1 ks)
    (t : τ) (ks : List κ) : outputs own t ks = (r t ks).flatten := by
  induction ks generalizing t with
  | nil => rw [nil, outputs, List.flatten_nil]
  | cons k ks ih => rw [cons, outputs, List.flatten_cons, ih]

end

def answers (step : σ → ι → σ × List ω) : σ → List ι → List (List ω)
  | _, [] => []
  | s, i :: later => (step s i).2 :: answers step (step s i).1 later

/-- A machine whose state keeps of the past what its answers need answers as one that is shown the
whole past each time. -/
theorem answers_of_remembers {Remembers : List ι → σ → Prop} (answer : List ι → ι → List ω)
    (keeps : ∀ past s i, Remembers past s →
      Remembers (past ++ [i]) (step s i).1 ∧ (step s i).2 = answer past i)
    {past : List ι} {s : σ} (start : Remembers past s) (inputs : List ι) (n : Nat) :
    (answers step s inputs)[n]? = inputs[n]?.map (answer (past ++ inputs.take n)) := by
  induction inputs generalizing past s n with
  | nil => rfl
  | cons i later ih =>
      obtain ⟨kept, answered⟩ := keeps past s i start
      cases n with
      | zero => simp [answers, answered]
      | succ n => simpa [answers] using ih kept n

end GuardianPi.Library.Interleaving
