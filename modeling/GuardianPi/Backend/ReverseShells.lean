import GuardianPi.Backend.RuleCoverage
import GuardianPi.EdgeAgent.Detector
import GuardianPi.Library.GappedWords

namespace GuardianPi.Backend
open GuardianPi.Library GuardianPi.Library.Python

def reverseShellScript (a b c d : String) : String := a ++ "python" ++ b ++ "socket" ++ c ++ "subprocess" ++ d

def scriptPattern : String := r"python.*socket.*subprocess"

def scriptWords : List (List Letter) := ["python", "socket", "subprocess"].map fun word => word.toList.map .char

section
variable (letters : Letters)

def ReportedAs (ruleId processName cmdline : String) : Prop :=
  ∃ found, matchProcess letters (.str processName) (.str cmdline) = .ok found ∧ ∃ m ∈ found, m.ruleId = ruleId

def OnOneLine (words : List (List Letter)) (text : String) : Prop :=
  ∃ line ∈ text.toList.splitOn '\n', Regex.InOrder letters.holds words line

variable {letters}

theorem parse_scriptPattern : Regex.parse scriptPattern = some (Regex.sequence (Regex.gapped .any scriptWords)) := by
  decide +kernel

theorem scriptWords_ascii : ∀ word ∈ scriptWords, ∀ p ∈ word, letters.holds p '\n' = false := by
  have chars : ["python", "socket", "subprocess"].all (fun word =>
      word.toList.all fun c => c.toNat < 128 && c.toLower ≠ '\n') = true := by
    decide +kernel
  simp only [List.all_eq_true, Bool.and_eq_true, decide_eq_true_eq] at chars
  simp only [scriptWords, List.forall_mem_map]
  intro word listed c member
  obtain ⟨small, other⟩ := chars word listed c member
  rw [Letters.holds, letters.sameLetter_ascii c '\n' small (by decide), decide_eq_false_iff_not]
  exact other

theorem reSearch_script (text : String) :
    letters.reSearch scriptPattern text = true ↔ OnOneLine letters scriptWords text := by
  rw [Letters.reSearch, parse_scriptPattern]
  apply Regex.search_gapped_iff _ scriptWords_ascii
  intro c
  simp [Letters.holds]

theorem reportedAs_iff {rule : DetectionRule} (listed : rule ∈ sigmaRules) (processName cmdline : String) :
    ReportedAs letters rule.id processName cmdline ↔
      rule.matched letters (letters.lower processName) (letters.lower cmdline) = true := by
  have distinct : (sigmaRules.map DetectionRule.id).Nodup := sigmaRules_ids
  constructor
  · intro ⟨found, called, m, member, same⟩
    obtain rfl := Except.ok.inj called
    obtain ⟨other, kept, rfl⟩ := List.mem_map.mp member
    obtain ⟨listed', matched⟩ := List.mem_filter.mp kept
    obtain rfl := List.inj_on_of_nodup_map distinct listed' listed same
    exact matched
  · intro matched
    exact ⟨_, rfl, rule.report, List.mem_map_of_mem (List.mem_filter.mpr ⟨listed, matched⟩), rfl⟩

theorem reported_reverseShell_iff (processName cmdline : String) :
    ReportedAs letters "SIGMA-002" processName cmdline ↔ OnOneLine letters scriptWords (letters.lower cmdline) ∨
      ∃ pattern ∈ sigmaRules[1].cmdlinePatterns.erase scriptPattern,
        letters.reSearch pattern (letters.lower cmdline) = true := by
  have listed : scriptPattern ∈ sigmaRules[1].cmdlinePatterns := by decide
  have patterns : ∀ pattern, pattern ∈ sigmaRules[1].cmdlinePatterns ↔
      pattern ∈ scriptPattern :: sigmaRules[1].cmdlinePatterns.erase scriptPattern :=
    fun _ => (List.perm_cons_erase listed).mem_iff
  have nameless : sigmaRules[1].processNames = [] := rfl
  change ReportedAs letters sigmaRules[1].id processName cmdline ↔ _
  rw [reportedAs_iff (List.getElem_mem _), DetectionRule.matched, nameless, List.any_nil, Bool.false_or,
    List.any_eq_true]
  simp only [patterns, List.exists_mem_cons_iff, reSearch_script]

def KeepsWords (letters : Letters) : Prop :=
  ∀ s w t : String, w.toList.all Char.isLower = true → w.toList <:+: (letters.lower (s ++ w ++ t)).toList

theorem matchReverseShell_script (keeps : KeepsWords letters) (reading : EdgeAgent.Reading) (a b c d : String) :
    EdgeAgent.matchReverseShell letters { reading with cmdline := reverseShellScript a b c d } = true := by
  have python := keeps a "python" (b ++ "socket" ++ c ++ "subprocess" ++ d) (by decide)
  have socket := keeps (a ++ "python" ++ b) "socket" (c ++ "subprocess" ++ d) (by decide)
  have subprocess := keeps (a ++ "python" ++ b ++ "socket" ++ c) "subprocess" d (by decide)
  simp only [← String.append_assoc] at python socket
  simp only [EdgeAgent.matchReverseShell, Bool.or_eq_true, Bool.and_eq_true]
  exact .inr ⟨⟨decide_eq_true python, decide_eq_true socket⟩, decide_eq_true subprocess⟩

theorem toLower_of_isLower {c : Char} (h : c.isLower = true) : c.toLower = c := by
  have lower : 97 ≤ c.val := of_decide_eq_true (Bool.and_eq_true_iff.mp h).1
  apply dif_neg
  intro upper
  exact absurd (UInt32.le_trans lower upper.2) (by decide)

theorem keepsWords_ascii : KeepsWords .ascii := by
  intro s w t small
  have same : w.toList.map Char.toLower = w.toList :=
    (List.map_congr_left fun c member => toLower_of_isLower (List.all_eq_true.mp small c member)).trans
      (List.map_id _)
  simp only [Letters.ascii, String.toList_map, String.toList_append, List.map_append, same]
  exact List.infix_append _ _ _

end

theorem script_agreed_iff (letters goLetters : Letters) (keeps : KeepsWords goLetters) (processName : String)
    (reading : EdgeAgent.Reading) (a b c d : String) :
    (ReportedAs letters "SIGMA-002" processName (reverseShellScript a b c d) ∧
      EdgeAgent.matchReverseShell goLetters { reading with cmdline := reverseShellScript a b c d } = true) ↔
      OnOneLine letters scriptWords (letters.lower (reverseShellScript a b c d)) ∨
        ∃ pattern ∈ sigmaRules[1].cmdlinePatterns.erase scriptPattern,
          letters.reSearch pattern (letters.lower (reverseShellScript a b c d)) = true := by
  rw [reported_reverseShell_iff, and_iff_left (matchReverseShell_script keeps reading a b c d)]

theorem script_agreed_line :
    let script := reverseShellScript "" " -c 'import " ", " "'"
    ReportedAs .ascii "SIGMA-002" "python3" script ∧
      EdgeAgent.matchReverseShell .ascii ⟨"python3", "root", script, none, 0⟩ = true := by
  intro script
  apply (script_agreed_iff .ascii .ascii keepsWords_ascii "python3" ⟨"python3", "root", "", none, 0⟩ _ _ _ _).mpr
  exact .inl ((reSearch_script _).mp (by decide +kernel))

theorem split_script_missed :
    let script := reverseShellScript "" " -c 'import " "\nimport " "'"
    ¬ ReportedAs .ascii "SIGMA-002" "python3" script ∧
      EdgeAgent.matchReverseShell .ascii ⟨"python3", "root", script, none, 0⟩ = true := by
  intro script
  refine ⟨?_, by decide +kernel⟩
  change ¬ ReportedAs .ascii sigmaRules[1].id "python3" script
  rw [reportedAs_iff (List.getElem_mem _)]
  decide +kernel

end GuardianPi.Backend
