import TopologyHooks.Proofs.Upsert
import TopologyHooks.Template.Kubeadm

/-!
# What features make of the files and commands of nodes

Features put files on nodes and see to it that commands run, one after the other and in any order.

* `KubeadmConfigSpec.Edit`, `KubeadmConfigSpec.run` — one such change, and a run of them.
* `KubeadmConfigSpec.Edited` — what a run of changes does to a set-up: where its files and commands
  come from, and what it leaves alone.

Main statement: every run of changes does that to every set-up (`KubeadmConfigSpec.edited_run`).
-/

set_option autoImplicit false

namespace TopologyHooks

namespace KubeadmConfigSpec

open Kubeadm

/-- A change of the files or of the commands of a node. -/
inductive Edit
  | upsertFile (file : File)
  | ensureCommand (command : String)

namespace Edit

/-- A set-up after a change. -/
def apply (spec : KubeadmConfigSpec) : Edit → KubeadmConfigSpec
  | upsertFile file => spec.upsertFile file
  | ensureCommand command => spec.ensureCommand command

/-- The files that some changes upsert. -/
def files (edits : List Edit) : List File :=
  edits.filterMap fun
    | upsertFile file => some file
    | ensureCommand _ => none

/-- The commands that some changes ensure. -/
def commands (edits : List Edit) : List String :=
  edits.filterMap fun
    | upsertFile _ => none
    | ensureCommand command => some command

/-- A file that is upserted stands between those that are upserted before and after it. -/
theorem files_append_upsertFile (earlier : List Edit) (file : File) (later : List Edit) :
    files (earlier ++ upsertFile file :: later) = files earlier ++ file :: files later :=
  List.filterMap_append

end Edit

/-- A set-up after some changes, one after the other. -/
def run (edits : List Edit) (spec : KubeadmConfigSpec) : KubeadmConfigSpec :=
  edits.foldl Edit.apply spec

/-- Changes of files and changes of commands do not meet: a run of both is a run of each. -/
theorem run_eq : ∀ (edits : List Edit) (spec : KubeadmConfigSpec), run edits spec =
    { spec with
      files := upsertAll File.path (Edit.files edits) spec.files
      preKubeadmCommands := appendAllNew spec.preKubeadmCommands (Edit.commands edits) }
  | [], _ => rfl
  | .upsertFile file :: rest, spec => run_eq rest (spec.upsertFile file)
  | .ensureCommand command :: rest, spec => run_eq rest (spec.ensureCommand command)

/-- Whether a set-up is what some changes make of another one. -/
structure Edited (edits : List Edit) (old new : KubeadmConfigSpec) : Prop where
  /-- The first file at a path is the last one that was upserted there. -/
  latest : ∀ earlier file later, edits = earlier ++ .upsertFile file :: later →
    file.path ∉ (Edit.files later).map File.path →
    new.files.find? (fun f => f.path = file.path) = some file
  /-- A file stays in its place if no file was upserted at its path, or if it is not the first one
  there. -/
  kept : ∀ i f, old.files[i]? = some f → f.path ∉ (Edit.files edits).map File.path ∨
    f.path ∈ (old.files.take i).map File.path → new.files[i]? = some f
  /-- All paths stay in their places; new ones follow, each once, in the order in which files were
  first upserted there. -/
  paths : new.files.map File.path = old.files.map File.path ++
    (((Edit.files edits).map File.path).filter (· ∉ old.files.map File.path)).eraseDups
  /-- If no two files stood at one path, no two do afterwards. -/
  distinct : (old.files.map File.path).Nodup → (new.files.map File.path).Nodup
  /-- The commands that were there stay in front; those ensured ones follow, each once, that were
  not there. -/
  appended : ∃ more, new.preKubeadmCommands = old.preKubeadmCommands ++ more ∧ more.Nodup ∧
    ∀ c, c ∈ more ↔ c ∈ Edit.commands edits ∧ c ∉ old.preKubeadmCommands
  /-- All ensured commands are there. -/
  ensured : ∀ c ∈ Edit.commands edits, c ∈ new.preKubeadmCommands
  /-- Nothing else changes. -/
  others : new =
    { old with files := new.files, preKubeadmCommands := new.preKubeadmCommands }

/-- **Runs of changes.** Whatever files are upserted and whatever commands are ensured, in any
order, the set-up is afterwards what these changes make of it. -/
theorem edited_run (edits : List Edit) (spec : KubeadmConfigSpec) :
    Edited edits spec (run edits spec) := by
  rw [run_eq]
  exact
    { latest := by
        rintro earlier file later rfl hlater
        rw [Edit.files_append_upsertFile]
        exact find?_upsertAll_last hlater spec.files
      kept := fun i f hf hother => getElem?_upsertAll_of_ne hf hother
      paths := by rw [map_key_upsertAll, appendAllNew_eq]
      distinct := fun hnd => by
        rw [map_key_upsertAll]
        exact nodup_appendAllNew hnd _
      appended := exists_appendAllNew (Edit.commands edits) spec.preKubeadmCommands
      ensured := fun c hc => mem_appendAllNew.2 (.inr hc)
      others := rfl }

namespace Duplicates

/-- Two paths at which files are upserted, one of them twice, and commands between them. -/
def edits : List Edit :=
  [.upsertFile ⟨"/b", none, none, some "1"⟩, .ensureCommand "date",
   .upsertFile ⟨"/a", none, none, some "2"⟩, .upsertFile ⟨"/b", none, none, some "3"⟩,
   .ensureCommand "ls", .ensureCommand "date"]

/-- A set-up with two files at one path and a command that runs twice. -/
def old : KubeadmConfigSpec :=
  { blank with
    files := [⟨"/a", none, none, none⟩, ⟨"/c", none, none, none⟩, ⟨"/a", none, none, some "0"⟩]
    preKubeadmCommands := ["ls", "ls"] }

/-- The set-up after the changes. -/
def new : KubeadmConfigSpec :=
  { blank with
    files := [⟨"/a", none, none, some "2"⟩, ⟨"/c", none, none, none⟩,
      ⟨"/a", none, none, some "0"⟩, ⟨"/b", none, none, some "3"⟩]
    preKubeadmCommands := ["ls", "ls", "date"] }

end Duplicates

/-- The first one of two files at one path is replaced where it stands, and the other one and both
commands stay. -/
theorem edited_run_duplicates :
    run Duplicates.edits Duplicates.old = Duplicates.new ∧
      Edited Duplicates.edits Duplicates.old Duplicates.new := by
  have hrun : run Duplicates.edits Duplicates.old = Duplicates.new := by decide
  exact ⟨hrun, hrun ▸ edited_run Duplicates.edits Duplicates.old⟩

end KubeadmConfigSpec

end TopologyHooks
