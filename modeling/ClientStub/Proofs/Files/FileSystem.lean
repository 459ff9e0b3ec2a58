import ClientStub.Files.Disk
import ClientStub.Proofs.Files.Tree

/-!
# File systems

A disk together with what its operations do to the files on it. Reading changes nothing. Making directories
changes no file, whether it succeeds or not. A write that succeeds changes one file, one that fails none. The
files after a run of writes are those before with the texts put in their places, one after the other. In a
faithful file system a text that was written is read back.
-/

namespace ClientStub

/-- A disk over states that show their files, and what its operations do to these. -/
structure FileSystem (σ : Type) extends Disk (StateM σ) where
  contents : σ → Place → Option Content
  /-- The place of the file that a path names. -/
  place? : σ → String → Option Place
  readText_state : ∀ path state, (readText path state).2 = state
  contents_createDirectories : ∀ path state, contents (createDirectories path state).2 = contents state
  contents_writeText : ∀ {path text state after}, writeText path text state = (.ok (), after) →
    ∃ place, place? state path = some place ∧
      contents after = FileTree.withText place text (contents state) ∧ place? after = place? state
  contents_writeText_error : ∀ {path text state fault after},
    writeText path text state = (.error fault, after) → contents after = contents state

/-- The file system of trees. -/
def FileTree.fileSystem : FileSystem FileTree where
  toDisk := FileTree.disk
  contents := FileTree.contents
  place? := FileTree.place?
  readText_state _ _ := rfl
  contents_createDirectories path tree := tree.contents_createDirectories path
  contents_writeText := by
    intro path text tree after written
    unfold FileTree.disk at written
    dsimp only at written
    split at written
    · rename_i made done
      cases written
      exact FileTree.writeText_eq_ok done
    · cases written
  contents_writeText_error := by
    intro path text tree fault after failed
    unfold FileTree.disk at failed
    dsimp only at failed
    split at failed
    · cases failed
    · cases failed
      rfl

@[simp] theorem FileTree.place?_fileSystem : FileTree.fileSystem.place? = FileTree.place? := rfl

/-- A file system where a text that was written is read back. -/
structure FaithfulFileSystem (σ : Type) extends FileSystem σ where
  readText_writeText : ∀ {path text state after}, writeText path text state = (.ok (), after) →
    (readText path after).1 = .ok text

/-- File trees are faithful. -/
def FileTree.faithful : FaithfulFileSystem FileTree where
  toFileSystem := FileTree.fileSystem
  readText_writeText := by
    intro path text tree after written
    obtain ⟨place, leads, files, same⟩ := FileTree.fileSystem.contents_writeText written
    rw [← same] at leads
    refine FileTree.readText_eq_ok leads ((congrFun files place).trans ?_)
    rw [FileTree.withText, if_pos rfl]

namespace FileSystem

variable {σ : Type} {fileSystem : FileSystem σ}

/-- Every text can be written to a path. -/
def TakesText (fileSystem : FileSystem σ) (state : σ) (path : String) : Prop :=
  ∀ text, ∃ after, fileSystem.writeText path text state = (.ok (), after)

theorem readText_eq (fileSystem : FileSystem σ) {path : String} {state : σ} {result : Except FileFault String}
    (read : (fileSystem.readText path state).1 = result) : fileSystem.readText path state = (result, state) :=
  Prod.ext read (fileSystem.readText_state path state)

theorem contents_of_createDirectories (fileSystem : FileSystem σ) {path : String} {state made : σ}
    {result : Except FileFault Unit} (making : fileSystem.createDirectories path state = (result, made)) :
    fileSystem.contents made = fileSystem.contents state := by
  have kept := fileSystem.contents_createDirectories path state
  rwa [making] at kept

/-- A write moves no file. -/
theorem place?_of_writeText {path text : String} {before after : σ}
    (written : fileSystem.writeText path text before = (.ok (), after)) :
    fileSystem.place? after = fileSystem.place? before := by
  obtain ⟨-, -, -, same⟩ := fileSystem.contents_writeText written
  exact same

/-- Texts written to paths, one after the other. -/
inductive Writes (fileSystem : FileSystem σ) : List (String × String) → σ → σ → Prop
  | done (state : σ) : Writes fileSystem [] state state
  | step {path text : String} {before next after : σ} {others : List (String × String)}
      (written : fileSystem.writeText path text before = (.ok (), next))
      (rest : Writes fileSystem others next after) : Writes fileSystem ((path, text) :: others) before after

theorem writes_cons_iff {write : String × String} {others : List (String × String)} {before after : σ} :
    fileSystem.Writes (write :: others) before after ↔
      ∃ next, fileSystem.writeText write.1 write.2 before = (.ok (), next) ∧
        fileSystem.Writes others next after := by
  constructor
  · intro writing
    cases writing with
    | step written rest => exact ⟨_, written, rest⟩
  · rintro ⟨next, written, rest⟩
    exact .step written rest

/-- Files with texts put to the places that paths have in a state. -/
def withTexts (fileSystem : FileSystem σ) (state : σ) :
    List (String × String) → (Place → Option Content) → Place → Option Content
  | [], files => files
  | (path, text) :: others, files =>
    withTexts fileSystem state others
      (match fileSystem.place? state path with
        | some place => FileTree.withText place text files
        | none => files)

theorem withTexts_eq {state other : σ} (same : fileSystem.place? other = fileSystem.place? state)
    (writes : List (String × String)) (files : Place → Option Content) :
    fileSystem.withTexts other writes files = fileSystem.withTexts state writes files := by
  induction writes generalizing files with
  | nil => rfl
  | cons write writes ih =>
    rw [withTexts, withTexts, same, ih]

/-- A run of writes changes the files at its places only, and moves none. -/
theorem Writes.contents {writes : List (String × String)} {before after : σ}
    (writing : fileSystem.Writes writes before after) :
    fileSystem.contents after = fileSystem.withTexts before writes (fileSystem.contents before) ∧
      fileSystem.place? after = fileSystem.place? before := by
  induction writing with
  | done state => exact ⟨rfl, rfl⟩
  | step written rest ih =>
    obtain ⟨place, leads, put, same⟩ := fileSystem.contents_writeText written
    refine ⟨?_, ih.2.trans same⟩
    rw [ih.1, withTexts_eq same, put, withTexts, leads]

/-- Every path that was written to has a place. -/
theorem Writes.exists_place {writes : List (String × String)} {before after : σ}
    (writing : fileSystem.Writes writes before after) :
    ∀ write ∈ writes, ∃ place, fileSystem.place? before write.1 = some place := by
  induction writing with
  | done state => exact nofun
  | step written rest ih =>
    obtain ⟨place, leads, -, same⟩ := fileSystem.contents_writeText written
    refine List.forall_mem_cons.2 ⟨⟨place, leads⟩, ?_⟩
    rwa [same] at ih

theorem withTexts_of_not_mem {state : σ} {writes : List (String × String)} {place : Place}
    (elsewhere : ∀ write ∈ writes, fileSystem.place? state write.1 ≠ some place)
    (files : Place → Option Content) : fileSystem.withTexts state writes files place = files place := by
  induction writes generalizing files with
  | nil => rfl
  | cons write writes ih =>
    rw [List.forall_mem_cons] at elsewhere
    rw [withTexts, ih elsewhere.2]
    cases leads : fileSystem.place? state write.1 with
    | none => rfl
    | some target =>
      have ne : place ≠ target := fun same => elsewhere.1 (same ▸ leads)
      exact if_neg ne

/-- A place that was written to holds the text of one of the writes to it. -/
theorem exists_write_of_mem {state : σ} {writes : List (String × String)} {place : Place}
    (written : ∃ write ∈ writes, fileSystem.place? state write.1 = some place)
    (files : Place → Option Content) :
    ∃ write ∈ writes, fileSystem.place? state write.1 = some place ∧
      fileSystem.withTexts state writes files place = some (.text write.2) := by
  induction writes generalizing files with
  | nil => exact absurd written (by simp)
  | cons write writes ih =>
    -- A later write to the place counts; where there is none, this one does.
    by_cases later : ∃ write ∈ writes, fileSystem.place? state write.1 = some place
    · obtain ⟨last, listed, leads, holds⟩ := ih later _
      exact ⟨last, List.mem_cons_of_mem _ listed, leads, holds⟩
    · have leads : fileSystem.place? state write.1 = some place := by
        obtain ⟨other, listed, leads⟩ := written
        rcases List.mem_cons.1 listed with rfl | listed
        · exact leads
        · exact absurd ⟨other, listed, leads⟩ later
      refine ⟨write, List.mem_cons_self, leads, ?_⟩
      rw [withTexts, withTexts_of_not_mem fun other listed same => later ⟨other, listed, same⟩, leads]
      exact if_pos rfl

/-- At each place writes leave what is there, or they leave a text of theirs whatever was there. -/
theorem withTexts_apply (fileSystem : FileSystem σ) (state : σ) (writes : List (String × String)) (place : Place) :
    (∀ files, fileSystem.withTexts state writes files place = files place) ∨
      ∃ text, ∀ files, fileSystem.withTexts state writes files place = some (.text text) := by
  induction writes with
  | nil => exact .inl fun files => rfl
  | cons write writes ih =>
    obtain ⟨path, text⟩ := write
    rcases ih with kept | ⟨last, held⟩
    · cases leads : fileSystem.place? state path with
      | none =>
        left
        intro files
        rw [withTexts, kept, leads]
      | some target =>
        by_cases here : place = target
        · refine .inr ⟨text, fun files => ?_⟩
          rw [withTexts, kept, leads]
          exact if_pos here
        · left
          intro files
          rw [withTexts, kept, leads]
          exact if_neg here
    · exact .inr ⟨last, fun files => held _⟩

/-- The same writes once more change nothing. -/
theorem withTexts_withTexts (state : σ) (writes : List (String × String)) (files : Place → Option Content) :
    fileSystem.withTexts state writes (fileSystem.withTexts state writes files) =
      fileSystem.withTexts state writes files := by
  funext place
  rcases fileSystem.withTexts_apply state writes place with kept | ⟨text, held⟩
  · rw [kept]
  · rw [held, held]

/-- The file that a path names holds a text. -/
def Holds (fileSystem : FileSystem σ) (state : σ) (path text : String) : Prop :=
  ∃ place, fileSystem.place? state path = some place ∧ fileSystem.contents state place = some (.text text)

end FileSystem

theorem FileTree.readText_of_holds {tree : FileTree} {path text : String}
    (holds : FileTree.fileSystem.Holds tree path text) : tree.readText path = .ok text := by
  obtain ⟨place, leads, held⟩ := holds
  exact FileTree.readText_eq_ok leads held

end ClientStub
