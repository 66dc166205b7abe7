import GuardianPi.Library.Json
import Mathlib.Data.List.Forall2
import Mathlib.Data.Rat.Defs
import Mathlib.Algebra.Order.Ring.Rat

namespace GuardianPi.Library.Python

inductive PyFloat where
  | finite (q : Rat)
  | inf (negative : Bool)
  | nan
  deriving DecidableEq

inductive PyNum where
  | int (n : Int)
  | float (x : PyFloat)
  deriving DecidableEq

abbrev Value := Json PyNum

inductive PyError where
  | attributeError
  | typeError
  | valueError
  | overflowError
  | decodeError
  | integrityError
  | unavailable
  deriving DecidableEq

def roundHalfEven (n d : Nat) : Nat :=
  let q := n / d
  let r := n % d
  if 2 * r < d ∨ (2 * r = d ∧ q % 2 = 0) then q else q + 1

/-- `float(n)`: the nearest number with a significand of 53 bits, unless it is out of range. -/
def floatOfInt (n : Int) : Except PyError Rat :=
  let scale := 2 ^ (Nat.log2 n.natAbs + 1 - 53)
  let rounded := roundHalfEven n.natAbs scale * scale
  if Nat.log2 rounded < 1024 then .ok (if n < 0 then -(rounded : Rat) else rounded)
  else .error .overflowError

theorem roundHalfEven_le (n d : Nat) : roundHalfEven n d ≤ n / d + 1 := by
  unfold roundHalfEven
  dsimp only
  split_ifs <;> omega

theorem floatOfInt_isOk {n : Int} (small : n.natAbs < 2 ^ 200) : (floatOfInt n).isOk = true := by
  have scale : 2 ^ (Nat.log2 n.natAbs + 1 - 53) ≤ n.natAbs + 1 := by
    by_cases zero : n.natAbs = 0
    · rw [zero]
      decide
    · calc 2 ^ (Nat.log2 n.natAbs + 1 - 53) ≤ 2 ^ Nat.log2 n.natAbs := Nat.pow_le_pow_right (by decide) (by omega)
        _ ≤ n.natAbs := Nat.log2_self_le zero
        _ ≤ n.natAbs + 1 := Nat.le_succ _
  have bound : roundHalfEven n.natAbs (2 ^ (Nat.log2 n.natAbs + 1 - 53)) * 2 ^ (Nat.log2 n.natAbs + 1 - 53) <
      2 ^ 201 := by
    calc _ ≤ (n.natAbs / 2 ^ (Nat.log2 n.natAbs + 1 - 53) + 1) * 2 ^ (Nat.log2 n.natAbs + 1 - 53) :=
          Nat.mul_le_mul_right _ (roundHalfEven_le _ _)
      _ = n.natAbs / 2 ^ (Nat.log2 n.natAbs + 1 - 53) * 2 ^ (Nat.log2 n.natAbs + 1 - 53) +
          2 ^ (Nat.log2 n.natAbs + 1 - 53) := Nat.succ_mul _ _
      _ ≤ n.natAbs + (n.natAbs + 1) := Nat.add_le_add (Nat.div_mul_le_self _ _) scale
      _ < 2 ^ 201 := by omega
  have exponent : Nat.log2 (roundHalfEven n.natAbs (2 ^ (Nat.log2 n.natAbs + 1 - 53)) *
      2 ^ (Nat.log2 n.natAbs + 1 - 53)) < 1024 := by
    rcases Nat.eq_zero_or_pos (roundHalfEven n.natAbs (2 ^ (Nat.log2 n.natAbs + 1 - 53)) *
      2 ^ (Nat.log2 n.natAbs + 1 - 53)) with zero | positive
    · rw [zero]
      decide
    · exact ((Nat.log2_lt positive.ne').mpr bound).trans (by decide)
  unfold floatOfInt
  dsimp only
  rw [if_pos exponent]
  rfl

def oneDecimal (q : Rat) : String :=
  let tenths := roundHalfEven (q.num.natAbs * 10) q.den
  (if q < 0 then "-" else "") ++ toString (tenths / 10) ++ "." ++ toString (tenths % 10)

namespace PyNum

def gt (k : Int) : PyNum → Bool
  | .int n => k < n
  | .float (.finite q) => (k : Rat) < q
  | .float (.inf negative) => !negative
  | .float .nan => false

def truthy : PyNum → Bool
  | .int n => n ≠ 0
  | .float (.finite q) => q ≠ 0
  | .float (.inf _) | .float .nan => true

def formatOneDecimal : PyNum → Except PyError String
  | .int n => (floatOfInt n).map oneDecimal
  | .float (.finite q) => .ok (oneDecimal q)
  | .float (.inf negative) => .ok (if negative then "-inf" else "inf")
  | .float .nan => .ok "nan"

end PyNum

namespace Value

def get (v : Value) (key : String) (default : Value) : Except PyError Value :=
  match v with
  | .obj fields => .ok ((Json.lookup key fields).getD default)
  | _ => .error .attributeError

def isStr (v : Value) (s : String) : Bool :=
  match v with
  | .str t => t = s
  | _ => false

/-- `v > k` for an integer `k`; a bool counts as 0 or 1. -/
def gt (v : Value) (k : Int) : Except PyError Bool :=
  match v with
  | .num n => .ok (n.gt k)
  | .bool b => .ok (k < b.toInt)
  | _ => .error .typeError

def formatOneDecimal (v : Value) : Except PyError String :=
  match v with
  | .num n => n.formatOneDecimal
  | .bool b => .ok (oneDecimal b.toInt)
  | _ => .error .typeError

def asStr (v : Value) : Except PyError String :=
  match v with
  | .str s => .ok s
  | _ => .error .attributeError

def truthy : Value → Bool
  | .null => false
  | .bool b => b
  | .num n => n.truthy
  | .str s => s ≠ ""
  | .arr items => !items.isEmpty
  | .obj fields => !fields.isEmpty

/-- `for x in v`: a dict yields its keys and a string its characters. -/
def iterate : Value → Except PyError (List Value)
  | .arr items => .ok items
  | .obj fields => .ok ((fields.map Prod.fst).eraseDups.map .str)
  | .str s => .ok (s.toList.map fun c => .str (String.singleton c))
  | .null | .bool _ | .num _ => .error .typeError

def text (repr : Value → String) : Value → String
  | .str s => s
  | .num (.int n) => toString n
  | v => repr v

end Value

example : Value.formatOneDecimal (.num (.float (.finite (965 / 10)))) = .ok "96.5" := by decide +kernel

section
variable {m : Type → Type} [Monad m] {α β : Type}

@[simp] theorem ok_bind (x : α) (f : α → Except PyError β) : (Except.ok x >>= f) = f x := rfl

theorem bind_eq_ok {x : Except PyError α} {f : α → Except PyError β} {y : β} :
    (x >>= f) = .ok y ↔ ∃ a, x = .ok a ∧ f a = .ok y := by
  cases x with
  | error e => exact iff_of_false nofun fun ⟨_, made, _⟩ => nomatch made
  | ok a => simp

@[simp] theorem error_bind (e : PyError) (f : α → Except PyError β) :
    (Except.error e >>= f) = .error e := rfl

@[simp] theorem pure_eq_ok (x : α) : (pure x : Except PyError α) = .ok x := rfl

@[simp] theorem liftM_ok (x : α) :
    (liftM (Except.ok x : Except PyError α) : ExceptT PyError m α) = pure x := rfl

@[simp] theorem liftM_error (e : PyError) :
    (liftM (Except.error e : Except PyError α) : ExceptT PyError m α) = throw e := rfl

theorem mapM_eq_ok {f : α → Except PyError β} {xs : List α} {ys : List β} :
    xs.mapM f = .ok ys ↔ List.Forall₂ (fun x y => f x = .ok y) xs ys := by
  induction xs generalizing ys with
  | nil =>
      rw [List.mapM_nil, pure_eq_ok, List.forall₂_nil_left_iff]
      exact ⟨fun h => (Except.ok.inj h).symm, fun h => h ▸ rfl⟩
  | cons x xs ih =>
      rw [List.mapM_cons, List.forall₂_cons_left_iff]
      cases first : f x with
      | error e => simp
      | ok y =>
          cases rest : xs.mapM f with
          | error e => simp [← ih, rest]
          | ok zs => simp [← ih, rest, eq_comm]

theorem mapM_eq_ok_map {f : α → Except PyError β} {g : α → β} {xs : List α}
    (h : ∀ x ∈ xs, f x = .ok (g x)) : xs.mapM f = .ok (xs.map g) := by
  rw [mapM_eq_ok, List.forall₂_map_right_iff, List.forall₂_same]
  exact h

theorem exists_of_mem_mapM {f : α → Except PyError β} {xs : List α} {ys : List β}
    (h : xs.mapM f = .ok ys) {y : β} (member : y ∈ ys) : ∃ x ∈ xs, f x = .ok y := by
  have each := mapM_eq_ok.mp h
  clear h
  induction each with
  | nil => cases member
  | cons here _ ih =>
      rcases List.mem_cons.mp member with rfl | member
      · exact ⟨_, List.mem_cons_self, here⟩
      · obtain ⟨x, among, made⟩ := ih member
        exact ⟨x, List.mem_cons_of_mem _ among, made⟩

theorem exists_mapM_eq_ok {f : α → Except PyError β} {xs : List α} :
    (∃ ys, xs.mapM f = .ok ys) ↔ ∀ x ∈ xs, ∃ y, f x = .ok y := by
  simp only [mapM_eq_ok]
  induction xs with
  | nil => simp
  | cons x xs ih =>
      rw [List.forall_mem_cons, ← ih]
      constructor
      · intro ⟨ys, h⟩
        cases h with
        | cons here rest => exact ⟨⟨_, here⟩, _, rest⟩
      · intro ⟨⟨y, here⟩, ys, rest⟩
        exact ⟨y :: ys, .cons here rest⟩

end

end GuardianPi.Library.Python
