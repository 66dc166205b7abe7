import Mathlib.Order.Basic

namespace GuardianPi.Library

variable {σ α : Type*}

def run (step : σ → α → Option σ) : σ → List α → Option σ
  | s, [] => some s
  | s, a :: as => (step s a).bind fun t => run step t as

def Along (step : σ → α → Option σ) (P : σ → α → Prop) : σ → List α → Prop
  | _, [] => True
  | s, a :: as => P s a ∧ ∀ t, step s a = some t → Along step P t as

variable {step : σ → α → Option σ} {P : σ → α → Prop}

@[simp] theorem run_nil (s : σ) : run step s [] = some s := rfl

theorem run_cons_eq_some {s t : σ} {a : α} {as : List α} :
    run step s (a :: as) = some t ↔ ∃ m, step s a = some m ∧ run step m as = some t := by
  simp [run, Option.bind_eq_some_iff]

theorem run_append (s : σ) (as bs : List α) :
    run step s (as ++ bs) = (run step s as).bind fun t => run step t bs := by
  induction as generalizing s with
  | nil => rfl
  | cons a as ih =>
      rw [List.cons_append, run, run, Option.bind_assoc]
      exact congrArg _ (funext fun t => ih t)

theorem run_image {τ : Type*} {spec : τ → α → Option τ} {f : τ → σ} {I : τ → Prop} {Q : α → Prop}
    (same : ∀ t a, I t → Q a → step (f t) a = (spec t a).map f) (keep : ∀ t a u, I t → spec t a = some u → I u)
    {t : τ} (start : I t) {as : List α} (all : ∀ a ∈ as, Q a) : run step (f t) as = (run spec t as).map f := by
  induction as generalizing t with
  | nil => rfl
  | cons a as ih =>
      obtain ⟨first, rest⟩ := List.forall_mem_cons.mp all
      rw [run, run, same t a start first]
      cases taken : spec t a with
      | none => rfl
      | some u => exact ih (keep t a u start taken) rest

theorem run_of_total (total : ∀ s a, ∃ t, step s a = some t) (s : σ) (as : List α) :
    ∃ t, run step s as = some t := by
  induction as generalizing s with
  | nil => exact ⟨s, rfl⟩
  | cons a as ih =>
      obtain ⟨m, next⟩ := total s a
      obtain ⟨t, taken⟩ := ih m
      exact ⟨t, run_cons_eq_some.mpr ⟨m, next, taken⟩⟩

/-- An invariant that may speak about the labels taken so far holds after every run. The steps
need to keep it only where `P` allows them. -/
theorem run_invariant_along {I : List α → σ → Prop} {s t : σ} {as : List α} (start : I [] s)
    (next : ∀ past m a n, I past m → P m a → step m a = some n → I (past ++ [a]) n)
    (allowed : Along step P s as) (taken : run step s as = some t) : I as t := by
  suffices general : ∀ (past rest : List α) (m : σ), I past m → Along step P m rest →
      run step m rest = some t → I (past ++ rest) t from general [] as s start allowed taken
  intro past rest m inv allowed taken
  induction rest generalizing past m with
  | nil =>
      obtain rfl : m = t := by simpa using taken
      simpa using inv
  | cons a rest ih =>
      obtain ⟨n, hn, taken⟩ := run_cons_eq_some.mp taken
      simpa using ih (past ++ [a]) n (next past m a n inv allowed.1 hn) (allowed.2 n hn) taken

theorem along_of_run {I Q : σ → Prop} {s t : σ} {as : List α} (start : I s)
    (keep : ∀ m a n, I m → step m a = some n → I n)
    (back : ∀ m a n, I m → step m a = some n → Q n → Q m)
    (here : ∀ m a n, I m → step m a = some n → Q n → P m a)
    (taken : run step s as = some t) (final : Q t) : Along step P s as := by
  suffices both : Q s ∧ Along step P s as from both.2
  induction as generalizing s with
  | nil =>
      obtain rfl : s = t := by simpa using taken
      exact ⟨final, trivial⟩
  | cons a as ih =>
      obtain ⟨n, hn, taken⟩ := run_cons_eq_some.mp taken
      obtain ⟨next, rest⟩ := ih (keep s a n start hn) taken
      refine ⟨back s a n start hn next, here s a n start hn next, fun m hm => ?_⟩
      obtain rfl : n = m := Option.some.inj (hn.symm.trans hm)
      exact rest

instance decidableAlong [∀ s a, Decidable (P s a)] (s : σ) (as : List α) :
    Decidable (Along step P s as) :=
  match as with
  | [] => inferInstanceAs (Decidable True)
  | a :: as =>
      match h : step s a with
      | none => decidable_of_iff (P s a) (by simp [Along, h])
      | some t =>
          have := decidableAlong t as
          decidable_of_iff (P s a ∧ Along step P t as) (by simp [Along, h])

theorem Along.mono {Q : σ → α → Prop} (weaker : ∀ s a, P s a → Q s a) {s : σ} {as : List α}
    (allowed : Along step P s as) : Along step Q s as := by
  induction as generalizing s with
  | nil => trivial
  | cons a as ih => exact ⟨weaker s a allowed.1, fun t next => ih (allowed.2 t next)⟩

theorem along_iff_along {I : σ → Prop} {C : σ → α → Prop} {s : σ} (start : I s)
    (same : ∀ m a, I m → (P m a ↔ C m a))
    (next : ∀ m a n, I m → P m a → step m a = some n → I n) (as : List α) :
    Along step P s as ↔ Along step C s as := by
  induction as generalizing s with
  | nil => exact Iff.rfl
  | cons a as ih =>
      rw [Along, Along, ← same s a start]
      apply and_congr_right
      intro allowed
      exact forall_congr' fun t => imp_congr_right fun taken => ih (next s a t start allowed taken)

theorem along_of_forall (h : ∀ s a, P s a) (s : σ) (as : List α) : Along step P s as := by
  induction as generalizing s with
  | nil => trivial
  | cons a as ih => exact ⟨h s a, fun t _ => ih t⟩

theorem along_of_mem {Q : α → Prop} {as : List α} (all : ∀ a ∈ as, Q a) (s : σ) :
    Along step (fun _ => Q) s as := by
  induction as generalizing s with
  | nil => trivial
  | cons a as ih =>
      obtain ⟨here, later⟩ := List.forall_mem_cons.mp all
      exact ⟨here, fun t _ => ih later t⟩

theorem run_invariant {I : List α → σ → Prop} {s t : σ} {as : List α} (start : I [] s)
    (next : ∀ past m a n, I past m → step m a = some n → I (past ++ [a]) n)
    (taken : run step s as = some t) : I as t :=
  run_invariant_along (P := fun _ _ => True) start (fun past m a n inv _ => next past m a n inv)
    (along_of_forall (fun _ _ => trivial) s as) taken

def Always (step : σ → α → Option σ) (P : σ → Prop) (s : σ) (as : List α) : Prop :=
  ∀ past rest, as = past ++ rest → ∀ t, run step s past = some t → P t

theorem always_cons {P : σ → Prop} {s t : σ} {a : α} {as : List α} (next : step s a = some t) :
    Always step P s (a :: as) ↔ P s ∧ Always step P t as := by
  constructor
  · intro all
    refine ⟨all [] _ rfl s rfl, ?_⟩
    intro past rest split u taken
    refine all (a :: past) rest (by rw [split, List.cons_append]) u ?_
    exact run_cons_eq_some.mpr ⟨t, next, taken⟩
  · intro ⟨here, later⟩ past rest split u taken
    cases past with
    | nil =>
        obtain rfl := Option.some.inj taken
        exact here
    | cons b past =>
        obtain ⟨rfl, same⟩ := List.cons.inj split
        obtain ⟨m, step_m, taken⟩ := run_cons_eq_some.mp taken
        obtain rfl := Option.some.inj (next.symm.trans step_m)
        exact later past rest same u taken

theorem always_of_invariant {I P : σ → Prop} {s : σ} {as : List α} (start : I s)
    (next : ∀ m a n, I m → step m a = some n → I n) (holds : ∀ m, I m → P m) : Always step P s as := by
  intro past rest _ t taken
  apply holds
  exact run_invariant (I := fun _ => I) start (fun _ => next) taken

/-- Where a step from a good state keeps `P` exactly if `C` allows it, `P` holds throughout a run
exactly if `C` allows each of its steps. -/
theorem always_iff_along {I P : σ → Prop} {C : σ → α → Prop} {s t : σ} {as : List α} (start : I s)
    (here : P s) (next : ∀ m a n, I m → P m → step m a = some n → (P n ↔ C m a) ∧ (P n → I n))
    (taken : run step s as = some t) : Always step P s as ↔ Along step C s as := by
  induction as generalizing s with
  | nil =>
      refine ⟨fun _ => trivial, ?_⟩
      intro _ past rest split u reached
      obtain ⟨rfl, -⟩ := List.append_eq_nil_iff.mp split.symm
      obtain rfl := Option.some.inj reached
      exact here
  | cons a as ih =>
      obtain ⟨m, step_m, taken⟩ := run_cons_eq_some.mp taken
      obtain ⟨allowed, keeps⟩ := next s a m start here step_m
      rw [always_cons step_m]
      constructor
      · intro ⟨_, later⟩
        have holds : P m := later [] as rfl m rfl
        refine ⟨allowed.mp holds, fun n step_n => ?_⟩
        obtain rfl := Option.some.inj (step_m.symm.trans step_n)
        exact (ih (keeps holds) holds taken).mp later
      · intro ⟨now, later⟩
        have holds : P m := allowed.mpr now
        exact ⟨here, (ih (keeps holds) holds taken).mpr (later m step_m)⟩

section
variable {f : σ → α → σ} {s t : σ}

theorem run_total (s : σ) (as : List α) : run (fun s a => some (f s a)) s as = some (as.foldl f s) := by
  induction as generalizing s with
  | nil => rfl
  | cons a as ih => exact ih (f s a)

theorem run_total_invariant {I : σ → Prop} {as : List α} (start : I s) (next : ∀ m a, I m → I (f m a))
    (taken : run (fun s a => some (f s a)) s as = some t) : I t := by
  refine run_invariant (I := fun _ => I) start (fun _ m a n inv step => ?_) taken
  obtain rfl := Option.some.inj step
  exact next m a inv

theorem always_total_iff_along {I P : σ → Prop} {C : σ → α → Prop} (start : I s) (here : P s)
    (next : ∀ m a, I m → P m → (P (f m a) ↔ C m a) ∧ (P (f m a) → I (f m a))) (as : List α) :
    Always (fun s a => some (f s a)) P s as ↔ Along (fun s a => some (f s a)) C s as := by
  refine always_iff_along start here (fun m a n inv holds step => ?_) (run_total s as)
  obtain rfl := Option.some.inj step
  exact next m a inv holds

end

end GuardianPi.Library
