import Mathlib.Algebra.Order.Ring.Int
import Mathlib.Data.String.Basic
import Mathlib.Data.List.Sort

namespace GuardianPi.EdgeAgent

abbrev Bytes := List UInt8

inductive Node where
  | file (data : Bytes)
  | subdirectory (size : Nat)

structure Entry where
  name : String
  node : Node

def Entry.isDir (e : Entry) : Bool :=
  match e.node with
  | .file _ => false
  | .subdirectory _ => true

def Entry.size (e : Entry) : Int :=
  match e.node with
  | .file data => data.length
  | .subdirectory size => size

/-- A directory, listed as `os.ReadDir` lists it: by name, each name once. -/
structure Directory where
  entries : List Entry
  sorted : entries.Pairwise fun a b => a.name < b.name

/-- What becomes of an `os.WriteFile`. A write that fails half way leaves the bytes written so far. -/
inductive WriteOutcome where
  | done
  | refused
  | torn (written : Nat)
  deriving DecidableEq

structure FileOutcomes where
  readDir : Bool
  info : String → Bool
  listDir : Bool
  stat : String → Bool
  readFile : String → Bool
  remove : String → Bool
  write : WriteOutcome

def FileOutcomes.ok : FileOutcomes where
  readDir := true
  info := fun _ => true
  listDir := true
  stat := fun _ => true
  readFile := fun _ => true
  remove := fun _ => true
  write := .done

namespace FileOutcomes

@[simp] theorem ok_readDir : ok.readDir = true := rfl
@[simp] theorem ok_info (name : String) : ok.info name = true := rfl
@[simp] theorem ok_listDir : ok.listDir = true := rfl
@[simp] theorem ok_stat (name : String) : ok.stat name = true := rfl
@[simp] theorem ok_readFile (name : String) : ok.readFile name = true := rfl
@[simp] theorem ok_remove (name : String) : ok.remove name = true := rfl
@[simp] theorem ok_write : ok.write = .done := rfl

end FileOutcomes

namespace Directory

def empty : Directory := ⟨[], .nil⟩

def names (d : Directory) : List String := d.entries.map Entry.name

def find (d : Directory) (name : String) : Option Entry :=
  d.entries.find? fun e => e.name = name

def totalSize (d : Directory) : Int := (d.entries.map Entry.size).sum

def remove (d : Directory) (name : String) : Directory where
  entries := d.entries.filter fun e => e.name ≠ name
  sorted := d.sorted.filter _

def insertEntry (e : Entry) : List Entry → List Entry
  | [] => [e]
  | f :: fs =>
      if e.name < f.name then e :: f :: fs
      else if e.name = f.name then e :: fs
      else f :: insertEntry e fs

theorem mem_insertEntry {e g : Entry} {fs : List Entry} (h : g ∈ insertEntry e fs) :
    g = e ∨ g ∈ fs := by
  induction fs with
  | nil => simpa [insertEntry] using h
  | cons f fs ih =>
      unfold insertEntry at h
      split_ifs at h
      · simpa using h
      · rcases List.mem_cons.mp h with h | h
        · exact Or.inl h
        · exact Or.inr (List.mem_cons_of_mem _ h)
      · rcases List.mem_cons.mp h with h | h
        · exact Or.inr (h ▸ List.mem_cons_self)
        · exact (ih h).imp id (List.mem_cons_of_mem _)

theorem insertEntry_sorted {fs : List Entry} (e : Entry)
    (h : fs.Pairwise fun a b => a.name < b.name) :
    (insertEntry e fs).Pairwise fun a b => a.name < b.name := by
  induction fs with
  | nil => simp [insertEntry]
  | cons f fs ih =>
      obtain ⟨below, rest⟩ := List.pairwise_cons.mp h
      unfold insertEntry
      split_ifs with before same
      · refine List.pairwise_cons.mpr ⟨?_, h⟩
        intro g hg
        rcases List.mem_cons.mp hg with rfl | hg
        · exact before
        · exact before.trans (below g hg)
      · exact List.pairwise_cons.mpr ⟨fun g hg => same ▸ below g hg, rest⟩
      · refine List.pairwise_cons.mpr ⟨?_, ih rest⟩
        intro g hg
        rcases mem_insertEntry hg with rfl | hg
        · exact lt_of_le_of_ne (not_lt.mp before) (Ne.symm same)
        · exact below g hg

def put (d : Directory) (name : String) (data : Bytes) : Directory where
  entries := insertEntry ⟨name, .file data⟩ d.entries
  sorted := insertEntry_sorted _ d.sorted

def writeFile (outcome : WriteOutcome) (d : Directory) (name : String) (data : Bytes) :
    Bool × Directory :=
  match d.find name with
  | some ⟨_, .subdirectory _⟩ => (false, d)
  | _ =>
      match outcome with
      | .done => (true, d.put name data)
      | .refused => (false, d)
      | .torn written => (false, d.put name (data.take written))

def readFile (ok : Bool) (d : Directory) (name : String) : Option Bytes :=
  match ok, d.find name with
  | true, some ⟨_, .file data⟩ => some data
  | _, _ => none

end Directory

end GuardianPi.EdgeAgent
