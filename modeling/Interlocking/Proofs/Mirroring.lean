/-
A store in a file and a store in memory, used in the same way.

`Reliable` says of each store alone that it holds what it was given. Here the two go
through the same calls side by side, and the file is looked at as well: whenever the
file is opened, there is the store that was in use (`InFile`). A call that does not
write must therefore leave a file that was right before, and a store that was never
written has no file, which opens as the empty store.
-/
import Interlocking.Proofs.Store
import Interlocking.Store.Call

set_option autoImplicit false

namespace Interlocking

namespace FileStore

/-! ## What is in the file -/

/-- The file, as bytes. -/
def content (s : FileStore) : Option ByteArray := s.file.map String.toUTF8

/-- Whoever opens the file gets this store. -/
def InFile (s : FileStore) : Prop := openFile s.content = .ok s

/-- Text is read back from its bytes, so to open the file is to read its text. -/
theorem openFile_content (s : FileStore) : openFile s.content = s.reopen := by
  obtain ⟨entities, file⟩ := s
  cases file with
  | none => rfl
  | some text =>
    have hbytes : String.fromUTF8? text.toUTF8 = some text := dif_pos text.isValidUTF8
    simp only [content, Option.map_some, openFile, hbytes]
    rfl

theorem inFile_empty : InFile {} := rfl

theorem inFile_written (E : Registry EntityKey Fields) : (written E).InFile := by
  rw [InFile, openFile_content, reopen_written]

end FileStore

/-! ## The two stores side by side -/

namespace Store

/-- A store in a file has the objects of a store in memory, and its file has them too. -/
structure Mirrors (F : FileStore) (M : MemoryStore) : Prop where
  entities : F.entities = M.entities
  inFile : F.InFile

variable {F : FileStore} {M : MemoryStore}

theorem mirrors_empty : Mirrors {} {} := ⟨rfl, FileStore.inFile_empty⟩

theorem mirrors_written (E : Registry EntityKey Fields) : Mirrors (.written E) ⟨E⟩ :=
  ⟨rfl, FileStore.inFile_written E⟩

/-- An object that is not stored is not deleted, and then nothing is written. -/
theorem Mirrors.delete (h : Mirrors F M) (key : EntityKey) :
    Mirrors (if F.entities.contains key then .written (F.entities.erase key) else F)
      ⟨M.entities.erase key⟩ := by
  rw [← h.entities]
  split
  · exact mirrors_written _
  · rename_i hmissing
    have hnone : F.entities.get? key = none := by
      rwa [Registry.contains, Option.not_isSome_iff_eq_none] at hmissing
    rw [Registry.erase_of_get?_eq_none hnone]
    exact ⟨rfl, h.inFile⟩

/-- One call gives the same answer in both, and they go on to mirror each other. -/
theorem Mirrors.call (h : Mirrors F M) (c : Call) :
    (Store.call F c).1 = (Store.call M c).1 ∧ Mirrors (Store.call F c).2 (Store.call M c).2 := by
  cases c with
  | save key f =>
    refine ⟨rfl, ?_⟩
    show Mirrors (.written (F.entities.insert key f)) ⟨M.entities.insert key f⟩
    rw [h.entities]
    exact mirrors_written _
  | delete key => exact ⟨rfl, h.delete key⟩
  | applyBatch dropped saved =>
    -- The store in memory makes the changes one by one, the other one all at once.
    rw [Store.call, Store.call, FileStore.reliable.applyBatch, MemoryStore.reliable.applyBatch,
      h.entities]
    exact ⟨rfl, mirrors_written _⟩
  | load key =>
    rw [Store.call, Store.call, FileStore.reliable.load, MemoryStore.reliable.load, h.entities]
    exact ⟨rfl, h⟩
  | keys k =>
    rw [Store.call, Store.call, FileStore.reliable.keys, MemoryStore.reliable.keys, h.entities]
    exact ⟨rfl, h⟩
  | reopen =>
    have hopen : Reopens.reopen F = .ok F := (FileStore.openFile_content F).symm.trans h.inFile
    rw [Store.call, hopen]
    exact ⟨rfl, h⟩

/-- A run of calls gives the same answers in both, one by one. -/
theorem Mirrors.run (h : Mirrors F M) (calls : List Call) :
    (Store.run F calls).1 = (Store.run M calls).1 ∧
      Mirrors (Store.run F calls).2 (Store.run M calls).2 := by
  induction calls generalizing F M with
  | nil => exact ⟨rfl, h⟩
  | cons c calls ih =>
    obtain ⟨hanswer, hnext⟩ := h.call c
    obtain ⟨hanswers, hlast⟩ := ih hnext
    exact ⟨congrArg₂ List.cons hanswer hanswers, hlast⟩

end Store

/-- **A store in a file is a store in memory that outlives the program.** Whatever is
done with the two from the beginning on, where the one has no file yet and the other is
empty, they give the same answers. And at any time, to open the file is to get the store
that is in use, with the very objects that are in memory. -/
theorem FileStore.mirrors_memory (calls : List Store.Call) :
    ∃ F : FileStore, FileStore.openFile none = .ok F ∧
      (Store.run F calls).1 = (Store.run ({} : MemoryStore) calls).1 ∧
      (Store.run F calls).2.entities = (Store.run ({} : MemoryStore) calls).2.entities ∧
      FileStore.openFile (Store.run F calls).2.content = .ok (Store.run F calls).2 := by
  obtain ⟨hanswers, hmirrors⟩ := Store.mirrors_empty.run calls
  exact ⟨{}, rfl, hanswers, hmirrors.entities, hmirrors.inFile⟩

end Interlocking
