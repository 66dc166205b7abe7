import Mathlib.Data.List.Infix
import Mathlib.Data.List.Nodup
import Mathlib.Data.String.Basic

namespace GuardianPi.Backend

abbrev Content := List UInt8

structure Signature where
  name : String
  pattern : Content
  severity : String

/-- A bytes literal written `rb"…"`: each character of the source is one byte. -/
def rawBytes (literal : String) : Content := literal.toList.map fun c => c.toNat.toUInt8

def yaraSignatures : List Signature := [
  ⟨"suspicious_shellcode", rawBytes r"\xfc\xe8\x82\x00\x00\x00", "critical"⟩,
  ⟨"metasploit_marker", rawBytes r"metsrv.dll", "critical"⟩,
  ⟨"cobalt_strike_beacon", rawBytes r"beacon.dll", "critical"⟩,
  ⟨"mimikatz_string", rawBytes r"gentilkiwi", "critical"⟩,
  ⟨"powersploit_marker", rawBytes r"PowerSploit", "high"⟩]

structure FileMatch where
  signature : String
  severity : String
  file : String
  deriving DecidableEq

def Signature.report (filename : String) (sig : Signature) : FileMatch :=
  ⟨sig.name, sig.severity, filename⟩

def scanFileContent (content : Content) (filename : String) : List FileMatch :=
  (yaraSignatures.filter fun sig => sig.pattern <:+: content).map (Signature.report filename)

theorem signature_of_name {sig sig' : Signature} (h : sig ∈ yaraSignatures)
    (h' : sig' ∈ yaraSignatures) (same : sig.name = sig'.name) : sig = sig' := by
  have distinct : (yaraSignatures.map Signature.name).Nodup := by decide
  exact List.inj_on_of_nodup_map distinct h h' same

theorem report_mem_scanFileContent {sig : Signature} (member : sig ∈ yaraSignatures)
    (content : Content) (filename : String) :
    sig.report filename ∈ scanFileContent content filename ↔ sig.pattern <:+: content := by
  rw [scanFileContent, List.mem_map]
  constructor
  · intro ⟨other, found, same⟩
    obtain ⟨listed, carried⟩ := List.mem_filter.mp found
    obtain rfl := signature_of_name listed member (congrArg FileMatch.signature same)
    simpa using carried
  · intro found
    exact ⟨sig, List.mem_filter.mpr ⟨member, by simpa using found⟩, rfl⟩

theorem scanFileContent_sublist (content : Content) (filename : String) :
    (scanFileContent content filename).Sublist (yaraSignatures.map (Signature.report filename)) :=
  List.Sublist.map _ List.filter_sublist

theorem reports_nodup (filename : String) :
    (yaraSignatures.map (Signature.report filename)).Nodup := by
  have names : (yaraSignatures.map (Signature.report filename)).map FileMatch.signature =
      yaraSignatures.map Signature.name := by
    rw [List.map_map]
    rfl
  apply List.Nodup.of_map FileMatch.signature
  rw [names]
  decide

def shellcode : Content := [0xfc, 0xe8, 0x82, 0x00, 0x00, 0x00]

def Signature.meant (sig : Signature) : Content :=
  if sig.name = "suspicious_shellcode" then shellcode else sig.pattern

def ScansExactly (content : Content) (filename : String) : Prop :=
  (∀ sig ∈ yaraSignatures,
    sig.report filename ∈ scanFileContent content filename ↔ sig.meant <:+: content) ∧
  (scanFileContent content filename).Sublist (yaraSignatures.map (Signature.report filename)) ∧
  (scanFileContent content filename).Nodup

theorem scansExactly_iff (content : Content) (filename : String) :
    ScansExactly content filename ↔
      (shellcode <:+: content ↔ rawBytes r"\xfc\xe8\x82\x00\x00\x00" <:+: content) := by
  constructor
  · intro h
    have listed : yaraSignatures.head nofun ∈ yaraSignatures := List.head_mem _
    have reported := report_mem_scanFileContent listed content filename
    exact (h.1 _ listed).symm.trans reported
  · intro same
    have sublist := scanFileContent_sublist content filename
    refine ⟨?_, sublist, sublist.nodup (reports_nodup filename)⟩
    intro sig listed
    rw [report_mem_scanFileContent listed]
    unfold Signature.meant
    split_ifs with name
    · obtain rfl := signature_of_name listed (List.head_mem (l := yaraSignatures) nofun) name
      exact same.symm
    · rfl

theorem shellcode_not_found : ¬ ScansExactly shellcode "payload.bin" := by
  intro h
  have listed : yaraSignatures.head nofun ∈ yaraSignatures := List.head_mem _
  have reported := (h.1 _ listed).mpr (List.infix_refl shellcode)
  have nothing : scanFileContent shellcode "payload.bin" = [] := by decide
  rw [nothing] at reported
  cases reported

end GuardianPi.Backend
