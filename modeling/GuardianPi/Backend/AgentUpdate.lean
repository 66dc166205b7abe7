import GuardianPi.Library.DottedVersion
import Mathlib.Data.List.AList

namespace GuardianPi.Backend.AgentUpdate
open GuardianPi.Library

structure AgentVersion where
  version : DottedVersion
  platform : String
  downloadUrl : String
  sha256Hash : String
  releaseNotes : String
  sizeBytes : Nat
  releasedAt : String

abbrev Registry := AList fun _ : String => AgentVersion

def initialVersion : DottedVersion := ⟨"2.0.0", by decide +kernel⟩

def versions (now : String) : Registry :=
  AList.insert "linux" ⟨initialVersion, "linux", "/api/v1/agent/download/linux", "placeholder_hash",
    "Initial Go agent release", 0, now⟩ ∅

inductive UpdateCheck where
  | noBuilds (message : String)
  | build (updateAvailable : Bool) (currentVersion : String) (latestVersion : DottedVersion)
      (downloadUrl sha256Hash releaseNotes : Option String)

def UpdateCheck.offer : UpdateCheck → Option DottedVersion
  | .build true _ latestVersion _ _ _ => some latestVersion
  | _ => none

def UpdateCheck.updateAvailable : UpdateCheck → Bool
  | .noBuilds _ => false
  | .build updateAvailable _ _ _ _ _ => updateAvailable

def checkForUpdate (versions : Registry) (currentVersion platform : String) : UpdateCheck :=
  match versions.lookup platform with
  | none => .noBuilds s!"No builds for platform: {platform}"
  | some available =>
      let needsUpdate : Bool := available.version.text ≠ currentVersion
      let given (text : String) : Option String := if needsUpdate then some text else none
      .build needsUpdate currentVersion available.version (given available.downloadUrl)
        (given available.sha256Hash) (given available.releaseNotes)

def publishAgentUpdate (sha256 : List UInt8 → String) (versions : Registry) (version : DottedVersion)
    (platform releaseNotes : String) (content : List UInt8) (now : String) : Registry :=
  versions.insert platform {
    version, platform, releaseNotes
    downloadUrl := s!"/api/v1/agent/download/{platform}"
    sha256Hash := sha256 content
    sizeBytes := content.length
    releasedAt := now }

/-- A call; `poll` is the check of the agent that is followed, for the version it has installed. -/
inductive Call where
  | publish (version : DottedVersion) (platform releaseNotes : String) (content : List UInt8) (now : String)
  | check (current : DottedVersion) (platform : String)
  | poll

structure World where
  registry : Registry
  installed : DottedVersion

section
variable (sha256 : List UInt8 → String) (platform : String)

def Call.question (w : World) : Call → Option (DottedVersion × String)
  | .publish .. => none
  | .check current platform => some (current, platform)
  | .poll => some (w.installed, platform)

def World.next (w : World) : Call → World
  | .publish version platform releaseNotes content now =>
      { w with registry := publishAgentUpdate sha256 w.registry version platform releaseNotes content now }
  | .check _ _ => w
  | .poll =>
      let answer := checkForUpdate w.registry w.installed.text platform
      { w with installed := answer.offer.getD w.installed }

def World.after (start : World) (calls : List Call) : World := calls.foldl (World.next sha256 platform) start

def Call.publishes (platform : String) : Call → Option DottedVersion
  | .publish version target _ _ _ => if target = platform then some version else none
  | _ => none

def lastPublished (platform : String) (calls : List Call) : Option DottedVersion :=
  calls.foldl (fun last c => (c.publishes platform).or last)
    (if platform = "linux" then some initialVersion else none)

def OffersNewer (past : List Call) (w : World) (c : Call) : Prop :=
  ∀ current target, c.question platform w = some (current, target) →
    ((checkForUpdate w.registry current.text target).updateAvailable = true ↔
      ∃ latest, lastPublished target past = some latest ∧ current < latest)

def NoDowngrade (start : World) (calls : List Call) : Prop :=
  (∀ past c rest, calls = past ++ c :: rest → OffersNewer platform past (start.after sha256 platform past) c) ∧
    ∀ past later rest, calls = past ++ later ++ rest →
      (start.after sha256 platform past).installed ≤ (start.after sha256 platform (past ++ later)).installed

/-- What was published last is newer than what the call asks about, or the same text. -/
def Ahead (past : List Call) (w : World) (c : Call) : Prop :=
  ∀ current target, c.question platform w = some (current, target) →
    ∀ latest, lastPublished target past = some latest → latest.text = current.text ∨ current < latest

variable {sha256} {platform} {now : String} {installed : DottedVersion}

theorem after_concat (start : World) (past : List Call) (c : Call) :
    start.after sha256 platform (past ++ [c]) = (start.after sha256 platform past).next sha256 platform c :=
  List.foldl_concat ..

theorem lastPublished_concat (target : String) (past : List Call) (c : Call) :
    lastPublished target (past ++ [c]) = (c.publishes target).or (lastPublished target past) :=
  List.foldl_concat ..

theorem updateAvailable_iff {registry : Registry} {latest : Option DottedVersion} {current target : String}
    (known : (registry.lookup target).map AgentVersion.version = latest) :
    (checkForUpdate registry current target).updateAvailable = true ↔
      ∃ v, latest = some v ∧ v.text ≠ current := by
  subst known
  unfold checkForUpdate
  cases registry.lookup target <;> simp [UpdateCheck.updateAvailable]

theorem eq_some_of_offer {registry : Registry} {latest : Option DottedVersion} {current target : String}
    {offered : DottedVersion} (known : (registry.lookup target).map AgentVersion.version = latest)
    (offer : (checkForUpdate registry current target).offer = some offered) :
    latest = some offered ∧ offered.text ≠ current := by
  subst known
  unfold checkForUpdate at offer
  cases found : registry.lookup target with
  | none =>
      rw [found] at offer
      cases offer
  | some available =>
      simp only [found] at offer
      by_cases same : available.version.text = current
      · simp [same, UpdateCheck.offer] at offer
      · simp only [same, ne_eq, not_false_eq_true, decide_true, UpdateCheck.offer, Option.some.injEq] at offer
        subst offer
        exact ⟨rfl, same⟩

theorem registry_after (past : List Call) (target : String) :
    ((World.after sha256 platform ⟨versions now, installed⟩ past).registry.lookup target).map
      AgentVersion.version = lastPublished target past := by
  induction past using List.reverseRecOn with
  | nil =>
      by_cases linux : target = "linux"
      · subst linux
        rfl
      · have absent : (versions now).lookup target = none := by
          rw [versions, AList.lookup_insert_ne linux]
          rfl
        simp [World.after, absent, lastPublished, linux]
  | append_singleton past c ih =>
      rw [after_concat, lastPublished_concat, ← ih]
      cases c with
      | publish version published releaseNotes content stamp =>
          by_cases same : target = published
          · subst same
            simp [World.next, publishAgentUpdate, Call.publishes]
          · simp [World.next, publishAgentUpdate, Call.publishes, same, Ne.symm same]
      | check current asked => simp [World.next, Call.publishes]
      | poll => simp [World.next, Call.publishes]

theorem text_ne_of_lt {v w : DottedVersion} (newer : v < w) : w.text ≠ v.text := by
  intro same
  obtain ⟨text, dotted⟩ := v
  obtain ⟨text', dotted'⟩ := w
  obtain rfl : text' = text := same
  exact lt_irrefl _ newer

theorem offersNewer_iff {past : List Call} {w : World} {c : Call}
    (known : ∀ target, (w.registry.lookup target).map AgentVersion.version = lastPublished target past) :
    OffersNewer platform past w c ↔ Ahead platform past w c := by
  unfold OffersNewer Ahead
  refine forall₃_congr fun current target _ => ?_
  rw [updateAvailable_iff (known target)]
  cases lastPublished target past with
  | none => simp
  | some latest =>
      simp only [Option.some.injEq, exists_eq_left', forall_eq']
      constructor
      · intro offers
        by_cases same : latest.text = current.text
        · exact Or.inl same
        · exact Or.inr (offers.mp same)
      · rintro (same | newer)
        · exact ⟨fun differ => absurd same differ, text_ne_of_lt⟩
        · exact ⟨fun _ => newer, text_ne_of_lt⟩

theorem installed_le_next {past : List Call} {w : World} {c : Call}
    (known : ∀ target, (w.registry.lookup target).map AgentVersion.version = lastPublished target past)
    (ahead : Ahead platform past w c) : w.installed ≤ (w.next sha256 platform c).installed := by
  cases c with
  | publish version published releaseNotes content stamp => exact le_rfl
  | check current asked => exact le_rfl
  | poll =>
      unfold World.next
      cases offer : (checkForUpdate w.registry w.installed.text platform).offer with
      | none => simp [offer]
      | some offered =>
          obtain ⟨latest, differ⟩ := eq_some_of_offer (known platform) offer
          simp only [offer, Option.getD_some]
          exact ((ahead _ _ rfl offered latest).resolve_left differ).le

theorem installed_le_after {calls : List Call} (ahead : ∀ past c rest, calls = past ++ c :: rest →
      Ahead platform past (World.after sha256 platform ⟨versions now, installed⟩ past) c)
    (past later rest : List Call) (split : calls = past ++ later ++ rest) :
    (World.after sha256 platform ⟨versions now, installed⟩ past).installed ≤
      (World.after sha256 platform ⟨versions now, installed⟩ (past ++ later)).installed := by
  induction later using List.reverseRecOn generalizing rest with
  | nil => rw [List.append_nil]
  | append_singleton later c ih =>
      have before := ih (c :: rest) (by rw [split]; simp)
      have here := ahead (past ++ later) c rest (by rw [split]; simp)
      rw [← List.append_assoc, after_concat]
      exact before.trans (installed_le_next (registry_after _) here)

end

/-- A check tells right and no agent goes back exactly while what was published last is nowhere older
than what is asked about, nor another text for the same version. -/
theorem noDowngrade_iff (sha256 : List UInt8 → String) (platform now : String) (installed : DottedVersion)
    (calls : List Call) :
    NoDowngrade sha256 platform ⟨versions now, installed⟩ calls ↔
      ∀ past c rest, calls = past ++ c :: rest →
        Ahead platform past (World.after sha256 platform ⟨versions now, installed⟩ past) c := by
  have each (past : List Call) (c : Call) :
      OffersNewer platform past (World.after sha256 platform ⟨versions now, installed⟩ past) c ↔
        Ahead platform past (World.after sha256 platform ⟨versions now, installed⟩ past) c :=
    offersNewer_iff (registry_after past)
  constructor
  · rintro ⟨right, -⟩ past c rest split
    exact (each past c).mp (right past c rest split)
  · intro ahead
    exact ⟨fun past c rest split => (each past c).mpr (ahead past c rest split), installed_le_after ahead⟩

theorem newer_agent_downgraded :
    ¬ NoDowngrade (fun _ => "") "linux" ⟨versions "", ⟨"2.1.0", by decide +kernel⟩⟩ [.poll] := by
  rintro ⟨-, kept⟩
  have back := kept [] [.poll] [] rfl
  rw [DottedVersion.le_iff_not_lt] at back
  exact back (by decide +kernel)

end GuardianPi.Backend.AgentUpdate
