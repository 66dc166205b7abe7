import Mathlib.Data.List.Basic

namespace GuardianPi.Library

section
variable {σ α η ω : Type} (act : σ → α → List ω × σ) (hidden : σ → η → List ω × σ)

abbrev Schedule (α η : Type) := List (α ⊕ η)

def Schedule.acts (events : Schedule α η) : List α := events.filterMap Sum.getLeft?

theorem Schedule.acts_append (first last : Schedule α η) :
    Schedule.acts (first ++ last) = first.acts ++ last.acts := List.filterMap_append

theorem Schedule.acts_map_inl (as : List α) : Schedule.acts (η := η) (as.map Sum.inl) = as := by
  rw [Schedule.acts, List.filterMap_map]
  exact List.filterMap_some

def happen (s : σ) : α ⊕ η → List ω × σ := Sum.elim (act s) (hidden s)

def observe (s : σ) : Schedule α η → List ω
  | [] => []
  | e :: events => (happen act hidden s e).1 ++ observe (happen act hidden s e).2 events

def after (s : σ) : Schedule α η → σ
  | [] => s
  | e :: events => after (happen act hidden s e).2 events

theorem observe_append (s : σ) (first last : Schedule α η) :
    observe act hidden s (first ++ last) =
      observe act hidden s first ++ observe act hidden (after act hidden s first) last := by
  induction first generalizing s with
  | nil => rfl
  | cons e first ih => rw [List.cons_append, observe, observe, after, ih, List.append_assoc]

variable {act hidden}

/-- The states of two runs stay related: the observer's acts show the same, and what is hidden shows
nothing. -/
structure Unwinds (act : σ → α → List ω × σ) (hidden : σ → η → List ω × σ) (R : σ → σ → Prop)
    (allowed : α → Prop) : Prop where
  act : ∀ {s t a}, R s t → allowed a → (act s a).1 = (act t a).1 ∧ R (act s a).2 (act t a).2
  hidden : ∀ {s t} h, R s t → (hidden s h).1 = [] ∧ R (hidden s h).2 t

namespace Unwinds

variable {R : σ → σ → Prop} {allowed : α → Prop}

theorem observe_eq_acts (u : Unwinds act hidden R allowed) {s t : σ} (related : R s t)
    {events : Schedule α η} (all : ∀ a ∈ events.acts, allowed a) :
    observe act hidden s events = observe act hidden t (events.acts.map Sum.inl) := by
  induction events generalizing s t with
  | nil => rfl
  | cons e events ih =>
      cases e with
      | inl a =>
          have ⟨same, next⟩ := u.act related (all a List.mem_cons_self)
          have later := ih next fun b member => all b (List.mem_cons_of_mem a member)
          change (act s a).1 ++ observe act hidden (act s a).2 events = (act t a).1 ++ _
          rw [same, later]
          rfl
      | inr h =>
          have ⟨silent, next⟩ := u.hidden h related
          change (hidden s h).1 ++ observe act hidden (hidden s h).2 events = _
          rw [silent, List.nil_append]
          exact ih next all

theorem observe_eq (u : Unwinds act hidden R allowed) {s t : σ} (first : R s s) (second : R t s)
    {events events' : Schedule α η} (same : events.acts = events'.acts)
    (all : ∀ a ∈ events.acts, allowed a) :
    observe act hidden s events = observe act hidden t events' := by
  rw [u.observe_eq_acts first all, u.observe_eq_acts second (same ▸ all), same]

end Unwinds

theorem observe_ne {s : σ} {before part part' rest : Schedule α η}
    (long : (observe act hidden (after act hidden s before) part).length =
      (observe act hidden (after act hidden s before) part').length)
    (differ : observe act hidden (after act hidden s before) part ≠
      observe act hidden (after act hidden s before) part') :
    observe act hidden s (before ++ part ++ rest) ≠ observe act hidden s (before ++ part' ++ rest) := by
  intro same
  rw [List.append_assoc, List.append_assoc, observe_append _ _ _ before, observe_append _ _ _ before,
    observe_append _ _ _ part, observe_append _ _ _ part'] at same
  exact differ (List.append_inj_left (List.append_cancel_left same) long)

end

end GuardianPi.Library
