import WebForm.Files

/-!
# Files read back as they were written

A path leads to the same place before and after a file is written there, because the places that it
leads through are directories and stay so. Hence what was written can be read.

* `Creatable files path`: nothing is at the path, and a file can be created there.
* `SameBut files files' path`: the trees hold the same everywhere else.
* `AlikeAt files files' path`: reading and writing at the path go alike on both trees.

Results:
* `read_of_write`: a file that was written holds what was written.
* `write_of_read`: a file that can be read can be written.
* `write_of_write`: where one content can be written, any can.
* `sameBut_of_write`: a write changes one file only.
-/

namespace WebForm.Files

variable {files files' : Files} {path : String} {content : List UInt8}

theorem node?_nil (files : Files) : files.node? [] = some .directory := rfl

theorem node?_of_ne_nil {names : List String} (h : names ≠ []) (files : Files) :
    files.node? names = files.get? (join names) := by
  unfold node?
  rw [if_neg]
  simpa using h

/-! ## What a write changes -/

/-- A directory is still there after a write to a place where none was. -/
theorem node?_insert_of_directory {names at_ : List String}
    (h : files.node? names ≠ some .directory) (ha : files.node? at_ = some .directory)
    (content : List UInt8) :
    node? (files.insert (join names) (.file content)) at_ = some .directory := by
  by_cases hnil : at_ = []
  · rw [hnil, node?_nil]
  · have hn : names ≠ [] := fun e => h (e ▸ node?_nil files)
    rw [node?_of_ne_nil hnil] at ha ⊢
    rw [node?_of_ne_nil hn] at h
    have hne : join at_ ≠ join names := fun e => h (e ▸ ha)
    rw [OrderedMap.get?_insert_of_ne files _ hne, ha]

/-- A path that leads to a place without a directory leads there after a write to that place. -/
theorem walk_insert {names : List String} (h : files.node? names ≠ some .directory)
    (content : List UInt8) : ∀ (rest at_ : List String), walk files at_ rest = .ok names →
      walk (files.insert (join names) (.file content)) at_ rest = .ok names
  | [], _, hw => hw
  | name :: rest, at_, hw => by
    unfold walk at hw ⊢
    -- The step is taken from a directory, and the write leaves it one.
    split at hw
    · exact absurd hw (by simp)
    · exact absurd hw (by simp)
    · rename_i hd
      rw [node?_insert_of_directory h hd content]
      simp only
      by_cases hdot : name = "" ∨ name = "."
      · rw [if_pos hdot] at hw ⊢
        exact walk_insert h content rest at_ hw
      rw [if_neg hdot] at hw ⊢
      by_cases hup : name = ".."
      · rw [if_pos hup] at hw ⊢
        exact walk_insert h content rest at_.dropLast hw
      rw [if_neg hup] at hw ⊢
      by_cases hlong : 255 < name.utf8ByteSize
      · rw [if_pos hlong] at hw
        exact absurd hw (by simp)
      · rw [if_neg hlong] at hw ⊢
        exact walk_insert h content rest (at_ ++ [name]) hw

theorem resolve_insert {names : List String} (h : files.node? names ≠ some .directory)
    (hr : files.resolve path = .ok names) (content : List UInt8) :
    resolve (files.insert (join names) (.file content)) path = .ok names := by
  unfold resolve at hr ⊢
  by_cases hnul : path.toList.contains '\x00' = true
  · rw [if_pos hnul] at hr
    exact absurd hr (by simp)
  rw [if_neg hnul] at hr ⊢
  by_cases hempty : path.isEmpty = true
  · rw [if_pos hempty] at hr
    exact absurd hr (by simp)
  rw [if_neg hempty] at hr ⊢
  by_cases hlong : 4096 ≤ path.utf8ByteSize
  · rw [if_pos hlong] at hr
    exact absurd hr (by simp)
  rw [if_neg hlong] at hr ⊢
  simp only at hr ⊢
  split at hr
  · rwa [if_pos ‹_›]
  · rw [if_neg ‹_›]
    exact walk_insert h content _ [] hr

/-! ## Reading and writing -/

/-- What a write that succeeds has found and done. -/
theorem write_eq_ok_iff : files.write path content = .ok files' ↔
    ∃ names, files.resolve path = .ok names ∧ files.node? names ≠ some .directory ∧
      files' = files.insert (join names) (.file content) := by
  unfold write
  constructor
  · intro h
    split at h
    · exact absurd h (by simp)
    · rename_i names hr
      refine ⟨names, hr, ?_⟩
      split at h
      · exact absurd h (by simp)
      · rename_i hf
        exact ⟨by simp [hf], (Except.ok.inj h).symm⟩
      · rename_i hf
        exact ⟨by simp [hf], (Except.ok.inj h).symm⟩
  · rintro ⟨names, hr, hd, rfl⟩
    rw [hr]
    simp only
    split
    · exact absurd ‹_› hd
    · rfl
    · rfl

/-- What a read that succeeds has found. -/
theorem read_eq_ok_iff : files.read path = .ok content ↔
    ∃ names, files.resolve path = .ok names ∧ files.node? names = some (.file content) := by
  unfold read
  constructor
  · intro h
    split at h
    · exact absurd h (by simp)
    · rename_i names hr
      refine ⟨names, hr, ?_⟩
      split at h
      · exact absurd h (by simp)
      · exact absurd h (by simp)
      · rename_i hf
        rw [hf, Except.ok.inj h]
  · rintro ⟨names, hr, hf⟩
    rw [hr]
    simp only
    rw [hf]

/-- **A file that was written holds what was written.** -/
theorem read_of_write (h : files.write path content = .ok files') :
    files'.read path = .ok content := by
  obtain ⟨names, hr, hd, rfl⟩ := write_eq_ok_iff.mp h
  refine read_eq_ok_iff.mpr ⟨names, resolve_insert hd hr content, ?_⟩
  have hn : names ≠ [] := fun e => hd (e ▸ node?_nil files)
  rw [node?_of_ne_nil hn, OrderedMap.get?_insert_self]

/-- A file that can be read can be written. -/
theorem write_of_read {old : List UInt8} (h : files.read path = .ok old) (content : List UInt8) :
    ∃ files', files.write path content = .ok files' := by
  obtain ⟨names, hr, hf⟩ := read_eq_ok_iff.mp h
  exact ⟨_, write_eq_ok_iff.mpr ⟨names, hr, by simp [hf], rfl⟩⟩

/-- Where one content can be written, any can. -/
theorem write_of_write (h : files.write path content = .ok files') (content' : List UInt8) :
    ∃ files', files.write path content' = .ok files' := by
  obtain ⟨names, hr, hd, -⟩ := write_eq_ok_iff.mp h
  exact ⟨_, write_eq_ok_iff.mpr ⟨names, hr, hd, rfl⟩⟩

/-- Nothing differs but what is at the place that the path leads to. -/
def SameBut (files files' : Files) (path : String) : Prop :=
  ∃ names, files.resolve path = .ok names ∧
    ∀ key, key ≠ join names → files'.get? key = files.get? key

/-- **A write changes one file only.** -/
theorem sameBut_of_write (h : files.write path content = .ok files') :
    files.SameBut files' path := by
  obtain ⟨names, hr, -, rfl⟩ := write_eq_ok_iff.mp h
  exact ⟨names, hr, fun key hkey => OrderedMap.get?_insert_of_ne files _ hkey⟩

/-- Reading at the path gives the same on both trees, and a write there fails alike. -/
def AlikeAt (files files' : Files) (path : String) : Prop :=
  files.read path = files'.read path ∧
    ∀ content, (files.write path content).map (fun _ => ()) =
      (files'.write path content).map fun _ => ()

theorem AlikeAt.refl (files : Files) (path : String) : files.AlikeAt files path :=
  ⟨rfl, fun _ => rfl⟩

/-- A write at such a path fails alike on both trees, or leaves the same there. -/
theorem AlikeAt.write (h : files.AlikeAt files' path) (content : List UInt8) :
    (∃ e, files.write path content = .error e ∧ files'.write path content = .error e) ∨
      ∃ after after', files.write path content = .ok after ∧
        files'.write path content = .ok after' ∧ after.read path = after'.read path := by
  have hmap := h.2 content
  rcases hwrite : files.write path content with e | after <;>
    rcases hwrite' : files'.write path content with e' | after' <;>
    rw [hwrite, hwrite'] at hmap
  · cases hmap
    exact Or.inl ⟨e, rfl, rfl⟩
  · cases hmap
  · cases hmap
  · exact Or.inr ⟨after, after', rfl, rfl,
      (read_of_write hwrite).trans (read_of_write hwrite').symm⟩

/-- Nothing is at the path, and a file can be created there. -/
def Creatable (files : Files) (path : String) : Prop :=
  files.read path = .error .notFound ∧ ∃ files', files.write path [] = .ok files'

end WebForm.Files
