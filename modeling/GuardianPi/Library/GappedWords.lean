import GuardianPi.Library.Regex
import GuardianPi.Library.Separated
import Mathlib.Data.List.Forall2

namespace GuardianPi.Library.Regex

variable {P α : Type} {holds : P → α → Bool}

def sequence : List (Regex P) → Regex P
  | [] => .epsilon
  | r :: rs => .seq r (sequence rs)

theorem matches_epsilon {w : List α} : Matches holds .epsilon w ↔ w = [] := by
  constructor
  · intro h
    cases h
    rfl
  · rintro rfl
    exact .epsilon

theorem matches_letter {p : P} {w : List α} :
    Matches holds (.letter p) w ↔ ∃ a, w = [a] ∧ holds p a = true := by
  constructor
  · intro h
    cases h with
    | letter h => exact ⟨_, rfl, h⟩
  · rintro ⟨a, rfl, h⟩
    exact .letter h

theorem matches_star_letter {p : P} {w : List α} :
    Matches holds (.star (.letter p)) w ↔ ∀ a ∈ w, holds p a = true := by
  induction w with
  | nil => exact ⟨fun _ => nofun, fun _ => .done⟩
  | cons a w ih =>
      rw [matches_star_cons, List.forall_mem_cons]
      constructor
      · rintro ⟨u, v, rfl, first, rest⟩
        obtain ⟨b, word, h⟩ := matches_letter.mp first
        obtain ⟨rfl, rfl⟩ := List.cons.inj word
        exact ⟨h, ih.mp rest⟩
      · intro ⟨h, rest⟩
        exact ⟨[], w, rfl, .letter h, ih.mpr rest⟩

theorem matches_sequence_append {rs ss : List (Regex P)} {w : List α} :
    Matches holds (sequence (rs ++ ss)) w ↔
      ∃ u v, w = u ++ v ∧ Matches holds (sequence rs) u ∧ Matches holds (sequence ss) v := by
  induction rs generalizing w with
  | nil => simp [sequence, matches_epsilon]
  | cons r rs ih =>
      simp only [List.cons_append, sequence, matches_seq, ih]
      constructor
      · rintro ⟨u, _, rfl, first, v, x, rfl, second, third⟩
        exact ⟨u ++ v, x, (List.append_assoc u v x).symm, ⟨u, v, rfl, first, second⟩, third⟩
      · rintro ⟨_, x, rfl, ⟨u, v, rfl, first, second⟩, third⟩
        exact ⟨u, v ++ x, List.append_assoc u v x, first, v, x, rfl, second, third⟩

def Spells (holds : P → α → Bool) (word : List P) (w : List α) : Prop :=
  List.Forall₂ (fun p a => holds p a = true) word w

theorem Spells.letter {word : List P} {w : List α} (h : Spells holds word w) {a : α} (member : a ∈ w) :
    ∃ p ∈ word, holds p a = true := by
  induction h with
  | nil => cases member
  | @cons p b word w here _ ih =>
      obtain rfl | later := List.mem_cons.mp member
      · exact ⟨p, List.mem_cons_self, here⟩
      · obtain ⟨q, listed, there⟩ := ih later
        exact ⟨q, List.mem_cons_of_mem p listed, there⟩

theorem matches_word {word : List P} {w : List α} :
    Matches holds (sequence (word.map .letter)) w ↔ Spells holds word w := by
  induction word generalizing w with
  | nil => simp [sequence, matches_epsilon, Spells]
  | cons p word ih =>
      simp only [List.map_cons, sequence, matches_seq, matches_letter, ih, Spells, List.forall₂_cons_left_iff]
      constructor
      · rintro ⟨_, v, rfl, ⟨a, rfl, h⟩, rest⟩
        exact ⟨a, v, h, rest, rfl⟩
      · rintro ⟨a, v, h, rest, rfl⟩
        exact ⟨[a], v, rfl, ⟨a, rfl, h⟩, rest⟩

/-- Words with letters of one kind between them. -/
def gapped (gap : P) : List (List P) → List (Regex P)
  | [] => []
  | [word] => word.map .letter
  | word :: next :: words => word.map .letter ++ .star (.letter gap) :: gapped gap (next :: words)

def InOrder (holds : P → α → Bool) : List (List P) → List α → Prop
  | [], _ => True
  | word :: words, line => ∃ before spelled after, line = before ++ (spelled ++ after) ∧
      Spells holds word spelled ∧ InOrder holds words after

theorem matches_gapped_cons {gap : P} {word next : List P} {words : List (List P)} {w : List α} :
    Matches holds (sequence (gapped gap (word :: next :: words))) w ↔ ∃ s g u, w = s ++ (g ++ u) ∧
      Spells holds word s ∧ (∀ a ∈ g, holds gap a = true) ∧
        Matches holds (sequence (gapped gap (next :: words))) u := by
  rw [gapped, matches_sequence_append, sequence]
  simp only [matches_word, matches_seq, matches_star_letter]
  constructor
  · rintro ⟨s, _, rfl, spelled, g, u, rfl, between, rest⟩
    exact ⟨s, g, u, rfl, spelled, between, rest⟩
  · rintro ⟨s, g, u, rfl, spelled, between, rest⟩
    exact ⟨s, g ++ u, rfl, spelled, g, u, rfl, between, rest⟩

theorem exists_gapped_iff {gap : P} (words : List (List P)) {line : List α}
    (filled : ∀ a ∈ line, holds gap a = true) :
    (∃ w, w <:+: line ∧ Matches holds (sequence (gapped gap words)) w) ↔ InOrder holds words line := by
  induction words generalizing line with
  | nil => exact ⟨fun _ => trivial, fun _ => ⟨[], List.nil_infix, .epsilon⟩⟩
  | cons word words ih =>
      cases words with
      | nil =>
          simp only [gapped, matches_word, InOrder, and_true]
          constructor
          · rintro ⟨w, ⟨before, after, rfl⟩, spelled⟩
            exact ⟨before, w, after, List.append_assoc before w after, spelled⟩
          · rintro ⟨before, w, after, rfl, spelled⟩
            exact ⟨w, List.infix_append' before w after, spelled⟩
      | cons next words =>
          simp only [matches_gapped_cons]
          rw [InOrder]
          constructor
          · rintro ⟨_, ⟨before, after, rfl⟩, s, g, u, rfl, spelled, between, rest⟩
            refine ⟨before, s, g ++ u ++ after, by simp, spelled, (ih ?_).mp ⟨u, List.infix_append g u after, rest⟩⟩
            intro a member
            apply filled
            simp only [List.mem_append] at member ⊢
            tauto
          · rintro ⟨before, s, after, rfl, spelled, rest⟩
            have filled' : ∀ a ∈ after, holds gap a = true :=
              fun a member => filled a (List.mem_append_right _ (List.mem_append_right _ member))
            obtain ⟨u, ⟨g, tail, rfl⟩, found⟩ := (ih filled').mpr rest
            refine ⟨s ++ (g ++ u), ⟨before, tail, by simp⟩, s, g, u, rfl, spelled, ?_, found⟩
            intro a member
            exact filled' a (List.mem_append_left _ (List.mem_append_left _ member))

theorem holds_of_gapped {gap : P} {words : List (List P)} {w : List α}
    (h : Matches holds (sequence (gapped gap words)) w) :
    ∀ a ∈ w, holds gap a = true ∨ ∃ word ∈ words, ∃ p ∈ word, holds p a = true := by
  intro a member
  induction words generalizing w with
  | nil =>
      rw [gapped, sequence, matches_epsilon] at h
      simp [h] at member
  | cons word words ih =>
      cases words with
      | nil =>
          rw [gapped, matches_word] at h
          exact .inr ⟨word, List.mem_cons_self, h.letter member⟩
      | cons next words =>
          obtain ⟨s, g, u, rfl, spelled, between, rest⟩ := matches_gapped_cons.mp h
          simp only [List.mem_append] at member
          obtain inside | inside | inside := member
          · exact .inr ⟨word, List.mem_cons_self, spelled.letter inside⟩
          · exact .inl (between a inside)
          · obtain gap | ⟨other, listed, found⟩ := ih rest inside
            · exact .inl gap
            · exact .inr ⟨other, List.mem_cons_of_mem word listed, found⟩

theorem search_gapped_iff [DecidableEq α] {gap : P} {sep : α} {words : List (List P)}
    (gaps : ∀ a, holds gap a = true ↔ a ≠ sep) (letters : ∀ word ∈ words, ∀ p ∈ word, holds p sep = false)
    (text : List α) :
    search holds (sequence (gapped gap words)) text = true ↔ ∃ line ∈ text.splitOn sep, InOrder holds words line := by
  have free : ∀ w, Matches holds (sequence (gapped gap words)) w → sep ∉ w := by
    intro w h member
    obtain between | ⟨word, listed, p, letter, spelled⟩ := holds_of_gapped h sep member
    · exact (gaps sep).mp between rfl
    · rw [letters word listed p letter] at spelled
      cases spelled
  have filled : ∀ line ∈ text.splitOn sep, ∀ a ∈ line, holds gap a = true := by
    intro line listed a member
    apply (gaps a).mpr
    rintro rfl
    exact not_mem_of_mem_splitOn text line listed member
  calc search holds (sequence (gapped gap words)) text = true
      ↔ ∃ w, w <:+: text ∧ Matches holds (sequence (gapped gap words)) w := search_iff _ text
    _ ↔ ∃ line ∈ text.splitOn sep, ∃ w, w <:+: line ∧ Matches holds (sequence (gapped gap words)) w := by
        constructor
        · intro ⟨w, inside, h⟩
          obtain ⟨line, listed, inside⟩ := (infix_iff_splitOn (free w h) text).mp inside
          exact ⟨line, listed, w, inside, h⟩
        · intro ⟨line, listed, w, inside, h⟩
          exact ⟨w, (infix_iff_splitOn (free w h) text).mpr ⟨line, listed, inside⟩, h⟩
    _ ↔ ∃ line ∈ text.splitOn sep, InOrder holds words line :=
        exists_congr fun line => and_congr_right fun listed => exists_gapped_iff words (filled line listed)

end GuardianPi.Library.Regex
