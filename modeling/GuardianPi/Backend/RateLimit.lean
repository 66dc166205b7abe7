import GuardianPi.Library.Burst
import Mathlib.Algebra.Order.Ring.Int
import Mathlib.Tactic.NormNum.Basic

namespace GuardianPi.Backend
open GuardianPi.Library

variable {T : Type} [LinearOrder T]

structure Counter (T : Type) where
  value : Int
  expiresAt : Option T

abbrev Redis (T : Type) := String → Option (Counter T)

namespace Redis

def live (r : Redis T) (key : String) (now : T) : Option (Counter T) :=
  (r key).filter fun c => c.expiresAt.all fun t => now < t

def incr (key : String) (now : T) (r : Redis T) : Int × Redis T :=
  match r.live key now with
  | some c => (c.value + 1, Function.update r key (some { c with value := c.value + 1 }))
  | none => (1, Function.update r key (some ⟨1, none⟩))

theorem live_some {r : Redis T} {key : String} {c : Counter T} {now : T} (h : r key = some c) :
    r.live key now = if c.expiresAt.all fun t => now < t then some c else none := by
  rw [live, h]
  rfl

theorem incr_of_live {r : Redis T} {key : String} {c : Counter T} {now : T}
    (h : r.live key now = some c) :
    r.incr key now = (c.value + 1, Function.update r key (some { c with value := c.value + 1 })) := by
  rw [incr, h]

theorem incr_of_not_live {r : Redis T} {key : String} {now : T} (h : r.live key now = none) :
    r.incr key now = (1, Function.update r key (some ⟨1, none⟩)) := by
  rw [incr, h]

/-- A time to live that is not positive has run out at once. -/
def expire [Ring T] (key : String) (seconds : Int) (now : T) (r : Redis T) : Redis T :=
  match r.live key now with
  | some c => Function.update r key (some { c with expiresAt := some (now + seconds) })
  | none => r

end Redis

variable [Ring T]

def rateLimitPerMinute : Int := 60

structure RateCall (T : Type) where
  key : String
  now : T
  maxRequests : Int := rateLimitPerMinute
  windowSeconds : Int := 60

def checkRateLimit (c : RateCall T) (r : Redis T) : (Bool × Int) × Redis T :=
  let counted := r.incr c.key c.now
  let remaining := max 0 (c.maxRequests - counted.1)
  ((counted.1 ≤ c.maxRequests, remaining), counted.2.expire c.key c.windowSeconds c.now)

def checkRateLimits : Redis T → List (RateCall T) → List (RateCall T × Bool × Int) × Redis T
  | r, [] => ([], r)
  | r, c :: calls =>
      let now := checkRateLimit c r
      let later := checkRateLimits now.2 calls
      ((c, now.1) :: later.1, later.2)

def timesOf (key : String) (calls : List (RateCall T)) : List T :=
  ((calls.filter fun c => c.key = key).map RateCall.now).reverse

def counterOf (window : Int) : List T → Option (Counter T)
  | [] => none
  | last :: times => some ⟨burst (window : T) (last :: times), some (last + window)⟩

def Limits (key : String) (maxRequests windowSeconds : Int) (c : RateCall T) : Prop :=
  c.key = key → c.maxRequests = maxRequests ∧ c.windowSeconds = windowSeconds

variable {key : String} {maxRequests windowSeconds : Int}

theorem incr_spec {r : Redis T} {times : List T} (h : r key = counterOf windowSeconds times)
    (now : T) : ∃ c, r.incr key now = (c.value, Function.update r key (some c)) ∧
      c.value = burst (windowSeconds : T) (now :: times) ∧ (c.expiresAt.all fun t => now < t) := by
  cases times with
  | nil =>
      have absent : r.live key now = none := by
        rw [Redis.live, h]
        rfl
      exact ⟨⟨1, none⟩, Redis.incr_of_not_live absent, rfl, rfl⟩
  | cons last times =>
      have found := @Redis.live_some _ _ _ _ _ now h
      by_cases alive : now < last + windowSeconds
      · rw [if_pos (by simpa using alive)] at found
        refine ⟨⟨burst (windowSeconds : T) (last :: times) + 1, some (last + windowSeconds)⟩,
          Redis.incr_of_live found, ?_, by simpa using alive⟩
        rw [burst, if_pos alive]
        rfl
      · rw [if_neg (by simpa using alive)] at found
        refine ⟨⟨1, none⟩, Redis.incr_of_not_live found, ?_, rfl⟩
        rw [burst, if_neg alive]
        rfl

theorem checkRateLimit_spec {r : Redis T} {times : List T} {c : RateCall T} (same : c.key = key)
    (limits : Limits key maxRequests windowSeconds c) (h : r key = counterOf windowSeconds times) :
    let length : Int := burst (windowSeconds : T) (c.now :: times)
    (checkRateLimit c r).1 = (decide (length ≤ maxRequests), max 0 (maxRequests - length)) ∧
      (checkRateLimit c r).2 key = counterOf windowSeconds (c.now :: times) := by
  obtain ⟨rfl, rfl⟩ := limits same
  subst same
  obtain ⟨counter, code, value, alive⟩ := incr_spec h c.now
  have live : Redis.live (Function.update r c.key (some counter)) c.key c.now = some counter := by
    rw [Redis.live_some (Function.update_self ..), if_pos alive]
  simp only [checkRateLimit, code, value, Redis.expire, live, Function.update_self, counterOf,
    and_self]

theorem checkRateLimit_frame {r : Redis T} {c : RateCall T} (other : c.key ≠ key) :
    (checkRateLimit c r).2 key = r key := by
  have counted : (r.incr c.key c.now).2 key = r key := by
    cases h : r.live c.key c.now with
    | some counter =>
        rw [Redis.incr_of_live h]
        exact Function.update_of_ne other.symm ..
    | none =>
        rw [Redis.incr_of_not_live h]
        exact Function.update_of_ne other.symm ..
  have kept (s : Redis T) : s.expire c.key c.windowSeconds c.now key = s key := by
    unfold Redis.expire
    cases s.live c.key c.now with
    | some counter => exact Function.update_of_ne other.symm ..
    | none => rfl
  exact (kept _).trans counted

omit [LinearOrder T] [Ring T] in
theorem timesOf_cons (c : RateCall T) (calls : List (RateCall T)) : timesOf key (c :: calls) =
    if c.key = key then timesOf key calls ++ [c.now] else timesOf key calls := by
  by_cases same : c.key = key <;> simp [timesOf, same]

omit [LinearOrder T] [Ring T] in
theorem timesOf_snoc (calls : List (RateCall T)) {c : RateCall T} (same : c.key = key) :
    timesOf key (calls ++ [c]) = c.now :: timesOf key calls := by
  simp [timesOf, same]

omit [Ring T] in
theorem timesOf_sorted {calls : List (RateCall T)} (h : calls.Pairwise fun a b => a.now ≤ b.now) :
    (timesOf key calls).Pairwise (· ≥ ·) :=
  List.pairwise_reverse.mpr (List.pairwise_map.mpr (h.filter _))

theorem checkRateLimits_counter {calls : List (RateCall T)}
    (limits : ∀ c ∈ calls, Limits key maxRequests windowSeconds c) {r : Redis T} {times : List T}
    (h : r key = counterOf windowSeconds times) :
    (checkRateLimits r calls).2 key = counterOf windowSeconds (timesOf key calls ++ times) := by
  induction calls generalizing r times with
  | nil => exact h
  | cons c calls ih =>
      obtain ⟨limit, limits⟩ := List.forall_mem_cons.mp limits
      rw [checkRateLimits, timesOf_cons]
      by_cases same : c.key = key
      · rw [ih limits (checkRateLimit_spec same limit h).2, if_pos same, List.append_assoc]
        rfl
      · rw [if_neg same]
        exact ih limits ((checkRateLimit_frame same).trans h)

def allowedIn (key : String) (I : T → Prop) [DecidablePred I]
    (log : List (RateCall T × Bool × Int)) : Nat :=
  log.countP fun p => p.1.key = key ∧ p.2.1 = true ∧ I p.1.now

theorem checkRateLimits_admitted (I : T → Prop) [DecidablePred I] {calls : List (RateCall T)}
    (limits : ∀ c ∈ calls, Limits key maxRequests windowSeconds c) {r : Redis T} {times : List T}
    (h : r key = counterOf windowSeconds times) :
    allowedIn key I (checkRateLimits r calls).1 + admitted (windowSeconds : T) maxRequests I times =
      admitted (windowSeconds : T) maxRequests I (timesOf key calls ++ times) := by
  induction calls generalizing r times with
  | nil => exact Nat.zero_add _
  | cons c calls ih =>
      obtain ⟨limit, limits⟩ := List.forall_mem_cons.mp limits
      rw [checkRateLimits, timesOf_cons, allowedIn, List.countP_cons]
      by_cases same : c.key = key
      · obtain ⟨answer, counter⟩ := checkRateLimit_spec same limit h
        have later := ih limits counter
        rw [admitted, ← Nat.add_assoc, allowedIn] at later
        rw [if_pos same, List.append_assoc, List.singleton_append, ← later, answer]
        simp only [same, true_and, decide_eq_true_eq, and_comm]
        omega
      · rw [if_neg same]
        have later := ih limits ((checkRateLimit_frame same).trans h)
        simpa [same, allowedIn] using later

variable [IsStrictOrderedRing T]

theorem allowedIn_le (nonneg : 0 ≤ maxRequests) {I : T → Prop} [DecidablePred I]
    (short : ∀ x y, I x → I y → x ≤ y → y < x + windowSeconds) {calls : List (RateCall T)}
    (sorted : calls.Pairwise fun a b => a.now ≤ b.now)
    (limits : ∀ c ∈ calls, Limits key maxRequests windowSeconds c) {r : Redis T}
    (unused : r key = none) : (allowedIn key I (checkRateLimits r calls).1 : Int) ≤ maxRequests := by
  have counted := checkRateLimits_admitted I limits (show r key = counterOf windowSeconds [] from unused)
  rw [admitted, Nat.add_zero, List.append_nil] at counted
  rw [counted]
  exact (admitted_le (windowSeconds : T) nonneg short (timesOf_sorted sorted)).1

theorem checkRateLimit_admits_at_most (key : String) (maxRequests windowSeconds : Int)
    (nonneg : 0 ≤ maxRequests) (calls : List (RateCall T))
    (sorted : calls.Pairwise fun a b => a.now ≤ b.now)
    (limits : ∀ c ∈ calls, Limits key maxRequests windowSeconds c) (r : Redis T)
    (unused : r key = none) (a : T) :
    let log := (checkRateLimits r calls).1
    (allowedIn key (fun t => a ≤ t ∧ t < a + windowSeconds) log : Int) ≤ maxRequests ∧
      (allowedIn key (fun t => a < t ∧ t ≤ a + windowSeconds) log : Int) ≤ maxRequests := by
  constructor
  · apply allowedIn_le nonneg _ sorted limits unused
    intro x y hx hy _
    exact hy.2.trans_le (add_le_add_left hx.1 _)
  · apply allowedIn_le nonneg _ sorted limits unused
    intro x y hx hy _
    exact hy.2.trans_lt (add_lt_add_left hx.1 _)

theorem checkRateLimit_admits_at_most_two :
    let call (now : Int) : RateCall Int := ⟨"client", now, 2, 60⟩
    let log := (checkRateLimits (fun _ => none) [call 0, call 40, call 80, call 140]).1
    allowedIn "client" (fun t => 20 ≤ t ∧ t < 80) log ≤ 2 ∧ (allowedIn "client" (fun _ => True) log) = 3 := by
  intro call log
  have bound := checkRateLimit_admits_at_most "client" 2 60 (by decide)
    [call 0, call 40, call 80, call 140] (by decide) (by unfold Limits; decide) (fun _ => none) rfl 20
  exact ⟨Int.ofNat_le.mp bound.1, by decide⟩

omit [IsStrictOrderedRing T] in
theorem refused_iff {past : List (RateCall T)} {c : RateCall T} (same : c.key = key)
    (limits : ∀ b ∈ past ++ [c], Limits key maxRequests windowSeconds b) {r : Redis T}
    (unused : r key = none) : (checkRateLimit c (checkRateLimits r past).2).1.1 = false ↔
      maxRequests < burst (windowSeconds : T) (timesOf key (past ++ [c])) := by
  obtain ⟨before, last⟩ := List.forall_mem_append.mp limits
  have counter := checkRateLimits_counter before (show r key = counterOf windowSeconds [] from unused)
  rw [List.append_nil] at counter
  have answer := (checkRateLimit_spec same (last c List.mem_cons_self) counter).1
  rw [answer, timesOf_snoc past same, decide_eq_false_iff_not, not_le]

theorem countP_window {times : List T} {now : T} (past : ∀ s ∈ times, s ≤ now) (window : T) :
    times.countP (fun s => now - window < s ∧ s ≤ now) =
      (times.filter fun s => now < s + window).length := by
  rw [List.countP_eq_length_filter]
  apply congrArg List.length
  apply List.filter_congr
  intro s hs
  simp only [past s hs, and_true, sub_lt_iff_lt_add]

theorem checkRateLimit_refusal_iff (key : String) (maxRequests windowSeconds : Int)
    (positive : 1 ≤ maxRequests) (past : List (RateCall T)) (c : RateCall T) (same : c.key = key)
    (sorted : (past ++ [c]).Pairwise fun a b => a.now ≤ b.now)
    (limits : ∀ b ∈ past ++ [c], Limits key maxRequests windowSeconds b) (r : Redis T)
    (unused : r key = none) :
    let times := timesOf key (past ++ [c])
    ((checkRateLimit c (checkRateLimits r past).2).1.1 = false →
        maxRequests < times.countP fun s => c.now - windowSeconds < s ∧ s ≤ c.now) ↔
      ∀ first ∈ times[maxRequests.toNat]?,
        ((times.take (maxRequests.toNat + 1)).IsChain fun (t s : T) => t < s + windowSeconds) →
          c.now < first + windowSeconds := by
  intro times
  have ordered : times.Pairwise (· ≥ ·) := timesOf_sorted sorted
  have latest : times = c.now :: timesOf key past := timesOf_snoc past same
  have past_le : ∀ s ∈ times, s ≤ c.now := by
    rw [latest] at ordered ⊢
    intro s hs
    rcases List.mem_cons.mp hs with rfl | hs
    · exact le_rfl
    · exact (List.pairwise_cons.mp ordered).1 s hs
  obtain ⟨n, rfl⟩ := Int.eq_ofNat_of_zero_le (Int.le_of_lt positive)
  rw [refused_iff same limits unused, countP_window past_le, Int.ofNat_lt, Int.ofNat_lt,
    lt_burst_iff, lt_length_recent_iff (windowSeconds : T) n ordered]
  constructor
  · intro full first hfirst close
    obtain ⟨long, -⟩ := List.getElem?_eq_some_iff.mp hfirst
    obtain ⟨s, hs, recent⟩ := full ⟨long, close⟩
    obtain rfl := Option.some.inj (hfirst.symm.trans hs)
    exact recent
  · rintro fits ⟨long, close⟩
    exact ⟨_, List.getElem?_eq_getElem long, fits _ (List.getElem?_eq_getElem long) close⟩

theorem checkRateLimit_refusal_iff_burst :
    let call (now : Int) : RateCall Int := ⟨"client", now, 2, 60⟩
    let past := [call 0, call 10]
    (checkRateLimit (call 20) (checkRateLimits (fun _ => none) past).2).1.1 = false ∧
      2 < (timesOf "client" (past ++ [call 20])).countP fun s => 20 - 60 < s ∧ s ≤ 20 := by
  intro call past
  have refused : (checkRateLimit (call 20) (checkRateLimits (fun _ => none) past).2).1.1 = false := by
    decide
  have means := checkRateLimit_refusal_iff "client" 2 60 (by decide) past (call 20) rfl (by decide)
    (by unfold Limits; decide) (fun _ => none) rfl
  refine ⟨refused, ?_⟩
  exact_mod_cast means.mpr (by decide) refused

theorem checkRateLimit_refuses_under_limit :
    let call (now : Int) : RateCall Int := ⟨"client", now, 2, 60⟩
    let past := [call 0, call 40]
    (checkRateLimit (call 80) (checkRateLimits (fun _ => none) past).2).1.1 = false ∧
      (timesOf "client" (past ++ [call 80])).countP (fun s => 80 - 60 ≤ s ∧ s ≤ 80) = 2 := by
  decide

end GuardianPi.Backend
