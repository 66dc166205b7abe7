import GuardianPi.Backend.Detection
import GuardianPi.Backend.FileScan

namespace GuardianPi.Backend
open GuardianPi.Library GuardianPi.Library.Python

abbrev Ascii := { text : String // ∀ c ∈ text.toList, c.toNat < 128 }

instance : Append Ascii where
  append s t := ⟨s.1 ++ t.1, by
    intro c hc
    rw [String.toList_append, List.mem_append] at hc
    exact hc.elim (s.2 c) (t.2 c)⟩

section
variable (letters : Letters)

theorem lower_append (s t : Ascii) :
    letters.lower (s ++ t).1 = letters.lower s.1 ++ letters.lower t.1 := by
  rw [letters.lower_ascii _ (s ++ t).2, letters.lower_ascii _ s.2, letters.lower_ascii _ t.2]
  apply String.toList_injective
  rw [String.toList_append, String.toList_map, String.toList_map, String.toList_map, ← List.map_append,
    ← String.toList_append]
  rfl

theorem lower_infix (before text after : Ascii) :
    (letters.lower text.1).toList <:+: (letters.lower (before ++ text ++ after).1).toList := by
  rw [lower_append, lower_append, String.toList_append, String.toList_append]
  exact ⟨_, _, rfl⟩

theorem contains_of_infix {text more part : String} (inside : text.toList <:+: more.toList)
    (h : contains text part = true) : contains more part = true := by
  have found : part.toList <:+: text.toList := by simpa [contains] using h
  simpa [contains] using found.trans inside

theorem reSearch_of_infix {pattern text more : String} (inside : text.toList <:+: more.toList)
    (h : letters.reSearch pattern text = true) : letters.reSearch pattern more = true := by
  unfold Letters.reSearch at h ⊢
  cases parsed : Regex.parse pattern with
  | none =>
      rw [parsed] at h
      cases h
  | some r =>
      rw [parsed] at h
      exact Regex.search_of_infix inside h

theorem matched_of_infix {rule : DetectionRule} {name name' cmdline cmdline' : String}
    (names : name.toList <:+: name'.toList) (lines : cmdline.toList <:+: cmdline'.toList)
    (h : rule.matched letters name cmdline = true) :
    rule.matched letters name' cmdline' = true := by
  unfold DetectionRule.matched at h ⊢
  rw [Bool.or_eq_true, List.any_eq_true, List.any_eq_true] at h ⊢
  apply h.imp
  · intro ⟨pattern, listed, found⟩
    exact ⟨pattern, listed, contains_of_infix names found⟩
  · intro ⟨pattern, listed, found⟩
    exact ⟨pattern, listed, reSearch_of_infix letters lines found⟩

theorem matchedRules_sublist (rules : List DetectionRule) (name cmdline : String) :
    (matchedRules letters rules name cmdline).Sublist (rules.map DetectionRule.report) :=
  List.Sublist.map _ List.filter_sublist

theorem sigmaRules_ids : ((sigmaRules.map DetectionRule.report).map RuleMatch.ruleId).Nodup := by
  decide

theorem matchProcess_padded (n c p₁ s₁ p₂ s₂ : Ascii) :
    ∃ plain padded, matchProcess letters (.str n.1) (.str c.1) = .ok plain ∧
      matchProcess letters (.str (p₁ ++ n ++ s₁).1) (.str (p₂ ++ c ++ s₂).1) = .ok padded ∧
      plain.Sublist padded ∧ padded.Sublist (sigmaRules.map DetectionRule.report) ∧
      ((sigmaRules.map DetectionRule.report).map RuleMatch.ruleId).Nodup := by
  refine ⟨_, _, rfl, rfl, ?_, matchedRules_sublist letters _ _ _, sigmaRules_ids⟩
  apply List.Sublist.map
  apply List.monotone_filter_right
  intro rule matched
  apply matched_of_infix letters _ _ matched
  · exact lower_infix letters p₁ n s₁
  · exact lower_infix letters p₂ c s₂

end

inductive Indicator where
  | processName (name : String)
  | cmdlinePattern (pattern : String)
  | filePattern (pattern : String)
  | networkIndicator (port : String)

def DetectionRule.indicators (rule : DetectionRule) : List Indicator :=
  rule.processNames.map .processName ++ rule.cmdlinePatterns.map .cmdlinePattern ++
    rule.filePatterns.map .filePattern ++ rule.networkIndicators.map .networkIndicator

def DetectionRule.only (rule : DetectionRule) : Indicator → DetectionRule
  | .processName name => { rule with
      processNames := [name], cmdlinePatterns := [], filePatterns := [], networkIndicators := [] }
  | .cmdlinePattern pattern => { rule with
      processNames := [], cmdlinePatterns := [pattern], filePatterns := [], networkIndicators := [] }
  | .filePattern pattern => { rule with
      processNames := [], cmdlinePatterns := [], filePatterns := [pattern], networkIndicators := [] }
  | .networkIndicator port => { rule with
      processNames := [], cmdlinePatterns := [], filePatterns := [], networkIndicators := [port] }

/-- `re.search(pattern, text, re.IGNORECASE)`, for patterns that compile, and `str.lower`. -/
structure Matching where
  lower : String → String
  search : String → String → Bool

def Matching.ofLetters (letters : Letters) : Matching := ⟨letters.lower, letters.reSearch⟩

section
variable (text : Matching)

def DetectionRule.matchedBy (rule : DetectionRule) (pnameLower cmdLower : String) : Bool :=
  (rule.processNames.any fun pattern => contains pnameLower (text.lower pattern)) ||
    rule.cmdlinePatterns.any fun pattern => text.search pattern cmdLower

def RuleMatch.dict (m : RuleMatch) : List (String × String) :=
  [("rule_id", m.ruleId), ("rule_name", m.ruleName), ("severity", m.severity),
    ("category", m.category), ("mitre_tactic", m.mitreTactic),
    ("mitre_technique", m.mitreTechnique), ("description", m.description)]

def FileMatch.dict (m : FileMatch) : List (String × String) :=
  [("signature", m.signature), ("severity", m.severity), ("file", m.file)]

inductive EngineCall where
  | process (processName cmdline : String)
  | file (content : Content) (filename : String)

def EngineCall.result (rules : List DetectionRule) : EngineCall → List (List (String × String))
  | .process processName cmdline =>
      (rules.filter fun rule =>
        rule.matchedBy text (text.lower processName) (text.lower cmdline)).map
          fun rule => rule.report.dict
  | .file content filename => (scanFileContent content filename).map FileMatch.dict

def Reports (rules : List DetectionRule) (call : EngineCall) (rule : DetectionRule) : Prop :=
  ∃ dict ∈ call.result text rules, dict.lookup "rule_id" = some rule.id

def NoDeadRule (rules : List DetectionRule) : Prop :=
  ∀ rule ∈ rules, rule.indicators ≠ [] → (∃ call, Reports text rules call rule) ∧
    ∀ ι ∈ rule.indicators, ∃ call, Reports text [rule.only ι] call (rule.only ι)

def Live (rule : DetectionRule) : Prop :=
  rule.filePatterns = [] ∧ rule.networkIndicators = [] ∧
    ∀ pattern ∈ rule.cmdlinePatterns, ∃ cmdline, text.search pattern (text.lower cmdline) = true

def Indicator.Fires : Indicator → Prop
  | .processName _ => True
  | .cmdlinePattern pattern => ∃ cmdline, text.search pattern (text.lower cmdline) = true
  | .filePattern _ | .networkIndicator _ => False

variable {text}

theorem result_eq_matchedRules (letters : Letters) (rules : List DetectionRule) (name cmdline : String) :
    (EngineCall.process name cmdline).result (.ofLetters letters) rules =
      (matchedRules letters rules name cmdline).map RuleMatch.dict := by
  rw [matchedRules, List.map_map]
  rfl

theorem reports_iff {rules : List DetectionRule} {call : EngineCall} {rule : DetectionRule} :
    Reports text rules call rule ↔
      ∃ name cmdline, call = .process name cmdline ∧ ∃ other ∈ rules,
        other.matchedBy text (text.lower name) (text.lower cmdline) = true ∧ other.id = rule.id := by
  constructor
  · intro ⟨dict, member, same⟩
    cases call with
    | process name cmdline =>
        obtain ⟨other, kept, rfl⟩ := List.mem_map.mp member
        obtain ⟨listed, matched⟩ := List.mem_filter.mp kept
        exact ⟨name, cmdline, rfl, other, listed, matched, Option.some.inj same⟩
    | file content filename =>
        obtain ⟨found, -, rfl⟩ := List.mem_map.mp member
        cases same
  · intro ⟨name, cmdline, called, other, listed, matched, same⟩
    rw [called]
    refine ⟨other.report.dict, ?_, congrArg some same⟩
    apply List.mem_map_of_mem
    exact List.mem_filter.mpr ⟨listed, matched⟩

theorem contains_self (name : String) : contains name name = true := by simp [contains]

theorem reports_only_iff (rule : DetectionRule) (ι : Indicator) :
    (∃ call, Reports text [rule.only ι] call (rule.only ι)) ↔ ι.Fires text := by
  have reported : (∃ call, Reports text [rule.only ι] call (rule.only ι)) ↔
      ∃ name cmdline, (rule.only ι).matchedBy text (text.lower name) (text.lower cmdline) = true := by
    simp [reports_iff]
  rw [reported]
  cases ι with
  | processName name =>
      refine ⟨fun _ => trivial, fun _ => ⟨name, "", ?_⟩⟩
      simp [DetectionRule.matchedBy, DetectionRule.only, contains_self]
  | cmdlinePattern pattern =>
      simp [DetectionRule.matchedBy, DetectionRule.only, Indicator.Fires]
  | filePattern | networkIndicator =>
      simp [DetectionRule.matchedBy, DetectionRule.only, Indicator.Fires]

theorem matchedBy_of_only {rule : DetectionRule} {ι : Indicator} (listed : ι ∈ rule.indicators)
    {name cmdline : String} (h : (rule.only ι).matchedBy text name cmdline = true) :
    rule.matchedBy text name cmdline = true := by
  unfold DetectionRule.matchedBy at h ⊢
  rw [Bool.or_eq_true, List.any_eq_true, List.any_eq_true] at h ⊢
  cases ι with
  | processName pattern =>
      have member : pattern ∈ rule.processNames := by
        simpa [DetectionRule.indicators] using listed
      apply Or.inl
      refine ⟨pattern, member, ?_⟩
      simpa [DetectionRule.only] using h
  | cmdlinePattern pattern =>
      have member : pattern ∈ rule.cmdlinePatterns := by
        simpa [DetectionRule.indicators] using listed
      apply Or.inr
      refine ⟨pattern, member, ?_⟩
      simpa [DetectionRule.only] using h
  | filePattern | networkIndicator => simp [DetectionRule.only] at h

theorem live_iff (rule : DetectionRule) :
    Live text rule ↔ ∀ ι ∈ rule.indicators, ι.Fires text := by
  simp only [Live, DetectionRule.indicators, List.mem_append, or_imp, forall_and,
    List.forall_mem_map, Indicator.Fires, List.eq_nil_iff_forall_not_mem]
  constructor
  · intro ⟨files, network, lines⟩
    exact ⟨⟨⟨fun _ _ => trivial, lines⟩, files⟩, network⟩
  · intro ⟨⟨⟨_, lines⟩, files⟩, network⟩
    exact ⟨files, network, lines⟩

theorem noDeadRule_iff (text : Matching) (rules : List DetectionRule) :
    NoDeadRule text rules ↔ ∀ rule ∈ rules, Live text rule := by
  constructor
  · intro alive rule listed
    rw [live_iff]
    intro ι member
    apply (reports_only_iff rule ι).mp
    exact (alive rule listed (List.ne_nil_of_mem member)).2 ι member
  · intro live rule listed some
    have fires := (live_iff rule).mp (live rule listed)
    have each : ∀ ι ∈ rule.indicators, ∃ call, Reports text [rule.only ι] call (rule.only ι) :=
      fun ι member => (reports_only_iff rule ι).mpr (fires ι member)
    refine ⟨?_, each⟩
    obtain ⟨ι, member⟩ := List.exists_mem_of_ne_nil _ some
    obtain ⟨call, reported⟩ := each ι member
    obtain ⟨name, cmdline, -, other, only, matched, -⟩ := reports_iff.mp reported
    obtain rfl := List.mem_singleton.mp only
    refine ⟨.process name cmdline, reports_iff.mpr ⟨name, cmdline, rfl, rule, listed, ?_, rfl⟩⟩
    exact matchedBy_of_only member matched

theorem unusual_outbound_traffic_is_dead :
    ¬ NoDeadRule (.ofLetters Letters.ascii) sigmaRules := by
  intro alive
  have distinct : (sigmaRules.map DetectionRule.id).Nodup := sigmaRules_ids
  have listed : sigmaRules[5] ∈ sigmaRules := List.getElem_mem _
  obtain ⟨⟨call, reported⟩, -⟩ := alive _ listed nofun
  obtain ⟨name, cmdline, -, other, member, matched, same⟩ := reports_iff.mp reported
  obtain rfl := List.inj_on_of_nodup_map distinct member listed same
  cases matched

end

end GuardianPi.Backend
