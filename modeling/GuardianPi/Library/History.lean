import Mathlib.Data.List.Induction

namespace GuardianPi.Library

variable {ε : Type*}

/-- An event that adds has taken place, and none that removes after it. -/
def Since (adds removes : ε → Prop) (history : List ε) : Prop :=
  ∃ past e later, history = past ++ e :: later ∧ adds e ∧ ∀ e' ∈ later, ¬ removes e'

def Each (P : List ε → ε → Prop) (history : List ε) : Prop :=
  ∀ past e later, history = past ++ e :: later → P past e

variable {adds removes : ε → Prop} {P : List ε → ε → Prop} {history : List ε}

theorem not_since_nil : ¬ Since adds removes [] := by
  rintro ⟨past, e, later, split, -⟩
  simp at split

theorem since_concat {e : ε} : Since adds removes (history ++ [e]) ↔
    adds e ∨ (Since adds removes history ∧ ¬ removes e) := by
  constructor
  · rintro ⟨past, a, later, split, added, kept⟩
    rcases later.eq_nil_or_concat with rfl | ⟨later, b, rfl⟩
    · obtain ⟨-, rfl⟩ := List.append_singleton_inj.mp split
      exact .inl added
    · rw [List.concat_eq_append, ← List.cons_append, ← List.append_assoc, List.append_singleton_inj] at split
      obtain ⟨rfl, rfl⟩ := split
      refine .inr ⟨⟨past, a, later, rfl, added, fun e' here => kept e' (by simp [here])⟩, ?_⟩
      exact kept e (by simp)
  · rintro (added | ⟨⟨past, a, later, rfl, added, kept⟩, stays⟩)
    · exact ⟨history, e, [], rfl, added, by simp⟩
    · refine ⟨past, a, later ++ [e], by simp, added, fun e' here => ?_⟩
      rcases List.mem_append.mp here with here | here
      · exact kept e' here
      · rwa [List.mem_singleton.mp here]

theorem since_append {events : List ε} (idle : ∀ e ∈ events, ¬ adds e) :
    Since adds removes (history ++ events) ↔ Since adds removes history ∧ ∀ e ∈ events, ¬ removes e := by
  induction events using List.reverseRecOn with
  | nil => simp
  | append_singleton events e ih =>
      rw [← List.append_assoc, since_concat, ih fun e' here => idle e' (by simp [here])]
      have last : ¬ adds e := idle e (by simp)
      simp only [last, false_or, List.forall_mem_append, List.forall_mem_singleton, and_assoc]

theorem each_nil : Each P [] := by
  intro past e later split
  simp at split

theorem each_concat {e : ε} : Each P (history ++ [e]) ↔ Each P history ∧ P history e := by
  constructor
  · intro each
    refine ⟨fun past a later split => each past a (later ++ [e]) (by simp [split]), each history e [] rfl⟩
  · rintro ⟨each, last⟩ past a later split
    rcases later.eq_nil_or_concat with rfl | ⟨later, b, rfl⟩
    · obtain ⟨rfl, rfl⟩ := List.append_singleton_inj.mp split
      exact last
    · rw [List.concat_eq_append, ← List.cons_append, ← List.append_assoc, List.append_singleton_inj] at split
      exact each past a later split.1

theorem Each.append {events : List ε} (each : Each P history) (idle : ∀ past, ∀ e ∈ events, P past e) :
    Each P (history ++ events) := by
  induction events using List.reverseRecOn with
  | nil => simpa using each
  | append_singleton events e ih =>
      rw [← List.append_assoc, each_concat]
      exact ⟨ih fun past e' here => idle past e' (by simp [here]), idle _ e (by simp)⟩

end GuardianPi.Library
