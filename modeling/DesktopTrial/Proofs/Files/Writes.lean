import DesktopTrial.Files

/-!
# Files that can be written

Files take what is written to some paths when no write to them fails, whatever was written
to them before.
-/

namespace DesktopTrial.Files

def saveAll (writes : List (String × ByteArray)) : Work Unit :=
  writes.forM fun write => save write.1 write.2

/-- Whatever is written to these paths, in any order and however often, every write succeeds. -/
def Takes (paths : List String) (files : Files) : Prop :=
  ∀ writes : List (String × ByteArray), (∀ write ∈ writes, write.1 ∈ paths) →
    (saveAll writes files).1 = .ok ()

variable {paths : List String} {files : Files}

theorem bind_of_ok {α β : Type} {work : Work α} {next : α → Work β} {value : α} {after : Files}
    (hworked : work files = (.ok value, after)) : (work >>= next) files = next value after := by
  change (match work files with | (result, reached) => ExceptT.bindCont next result reached) = _
  rw [hworked]
  rfl

theorem bind_of_error {α β : Type} {work : Work α} {next : α → Work β} {e : FileError}
    {after : Files} (hworked : work files = (.error e, after)) :
    (work >>= next) files = (.error e, after) := by
  change (match work files with | (result, reached) => ExceptT.bindCont next result reached) = _
  rw [hworked]
  rfl

theorem saveAll_cons (write : String × ByteArray) (writes : List (String × ByteArray)) :
    saveAll (write :: writes) = save write.1 write.2 >>= fun _ => saveAll writes := rfl

namespace Takes

/-- After a write the files take what they took before. -/
theorem save (htakes : files.Takes paths) {path : String} (hpath : path ∈ paths)
    (contents : ByteArray) :
    ∃ after, Files.save path contents files = (.ok (), after) ∧ after.Takes paths := by
  have hsucceeds : ∀ writes : List (String × ByteArray), (∀ write ∈ writes, write.1 ∈ paths) →
      (saveAll ((path, contents) :: writes) files).1 = .ok () := by
    intro writes hwrites
    apply htakes
    simpa [hpath] using hwrites
  cases hsaved : Files.save path contents files with
  | mk outcome after =>
      cases outcome with
      | error e =>
          have hfailed := hsucceeds [] (by simp)
          rw [saveAll_cons, bind_of_error hsaved] at hfailed
          cases hfailed
      | ok value =>
          refine ⟨after, rfl, ?_⟩
          intro writes hwrites
          have hrest := hsucceeds writes hwrites
          rwa [saveAll_cons, bind_of_ok hsaved] at hrest

/-- Files that take more paths take fewer. -/
theorem mono {more : List String} (htakes : files.Takes more)
    (hpaths : ∀ path ∈ paths, path ∈ more) : files.Takes paths :=
  fun writes hwrites => htakes writes fun write hwrite => hpaths _ (hwrites write hwrite)

/-- Files take all writes when something lets one write succeed and is kept by it. -/
theorem of_kept {I : Files → Prop}
    (hkept : ∀ {files : Files} {path : String} (contents : ByteArray), I files → path ∈ paths →
      ∃ after, Files.save path contents files = (.ok (), after) ∧ I after) (hfiles : I files) :
    files.Takes paths := by
  intro writes hwrites
  induction writes generalizing files with
  | nil => rfl
  | cons write writes ih =>
      obtain ⟨after, hsaved, hafter⟩ :=
        hkept write.2 hfiles (hwrites write List.mem_cons_self)
      rw [saveAll_cons, bind_of_ok hsaved]
      exact ih hafter fun other hother => hwrites other (List.mem_cons_of_mem _ hother)

/-- Files take a path if it can be written, and written again. -/
theorem single {path : String} (written : ByteArray → Files)
    (hfirst : ∀ contents, Files.save path contents files = (.ok (), written contents))
    (hagain : ∀ old contents, Files.save path contents (written old) = (.ok (), written contents)) :
    files.Takes [path] := by
  apply of_kept (I := fun reached => reached = files ∨ ∃ old, reached = written old)
  · intro reached other contents hreached hother
    obtain rfl := List.mem_singleton.mp hother
    refine ⟨written contents, ?_, .inr ⟨contents, rfl⟩⟩
    rcases hreached with rfl | ⟨old, rfl⟩
    · exact hfirst contents
    · exact hagain old contents
  · exact .inl rfl

end Takes

end DesktopTrial.Files
