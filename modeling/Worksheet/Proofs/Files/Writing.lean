import Worksheet.Files
import Worksheet.Proofs.Except

/-! # Reading what was written

    A file that has been written to a path is read back at this path.  The path
    is walked again, through the tree with the new file in it, so it has to lead
    to the same place.  It does, because a walk only depends on which places are
    directories, and a file is only put where no directory is.

    Nothing else is asked of a file system in which saved sheets are opened
    again. -/

namespace Worksheet

/-- A file system with the states `σ`.  Writing tells whether it has failed, and
    leaves a state behind in either case. -/
structure FileSystem (σ : Type) where
  /-- What is at a path. -/
  read : σ → FileReader
  /-- Writes a text to the file at a path. -/
  write : σ → String → String → Except FileError Unit × σ
  /-- A text that has been written to a path is read there. -/
  read_of_write {before : σ} {path text : String} (h : (write before path text).1 = .ok ()) :
    read (write before path text).2 path = .ok (.text text)

namespace Files

variable {files written : Files} {place dir path other text : String}

/-! ### Walks in two trees -/

/-- A file where no directory was leaves the directories as they are. -/
theorem isDirectory_put (h : files.isDirectory place = false) (content : FileContent)
    (dir : String) : (files.put place (.file content)).isDirectory dir = files.isDirectory dir := by
  by_cases hdir : place = dir
  · -- The place itself is no directory before and no directory after.
    subst hdir
    rw [h]
    unfold isDirectory at h ⊢
    rw [Bool.or_eq_false_iff] at h
    simp [put, h.1]
  · unfold isDirectory put
    rw [Std.ExtTreeMap.getElem?_insert, if_neg (by simpa using hdir)]

/-- A walk leads to the same place in every tree with the same directories. -/
theorem walk_congr {files' : Files} (h : ∀ dir, files'.isDirectory dir = files.isDirectory dir)
    {names : List (List Char)} (hwalk : files.walk dir names = .ok place) :
    files'.walk dir names = .ok place := by
  induction names generalizing dir with
  | nil => exact hwalk
  | cons name rest ih =>
    unfold walk at hwalk ⊢
    rw [h]
    split at hwalk
    · exact nomatch hwalk
    · next hdir =>
      rw [if_neg hdir]
      split at hwalk
      · exact nomatch hwalk
      · next hlength =>
        rw [if_neg hlength]
        split at hwalk
        · next hstay =>
          rw [if_pos hstay]
          exact ih hwalk
        · next hstay =>
          rw [if_neg hstay]
          split at hwalk
          · next hup =>
            rw [if_pos hup]
            exact ih hwalk
          · next hup =>
            rw [if_neg hup]
            exact ih hwalk

/-- So does a path, if the working directory is the same too. -/
theorem resolve_congr {files' : Files}
    (h : ∀ dir, files'.isDirectory dir = files.isDirectory dir)
    (hcurrent : files'.current = files.current)
    (hplace : files.resolve path = .ok place) : files'.resolve path = .ok place := by
  have hstart : files'.start path = files.start path := by rw [start, start, hcurrent]
  unfold resolve at hplace ⊢
  split at hplace
  · exact nomatch hplace
  · next hnul =>
    split at hplace
    · exact nomatch hplace
    · next hempty =>
      split at hplace
      · exact nomatch hplace
      · next hlong =>
        rw [if_neg hnul, if_neg hempty, if_neg hlong, hstart]
        exact walk_congr h hplace

/-! ### The tree with a new file -/

theorem withoutSlashes_eq_self (h : path.toList.getLast? ≠ some '/') :
    withoutSlashes path = path := by
  unfold withoutSlashes
  cases hreverse : path.toList.reverse with
  | nil => rfl
  | cons c cs =>
    have hc : c ≠ '/' := by
      intro hc
      apply h
      rw [← List.head?_reverse, hreverse, List.head?_cons, hc]
    rw [List.dropWhile_cons_of_neg (by simpa using hc)]
    show String.ofList (c :: cs).reverse = path
    rw [← hreverse, List.reverse_reverse, String.ofList_toList]

/-- What is written is one file, at the place that the path leads to.  There must
    not be a directory, and the path must not ask for one. -/
theorem write_eq_ok_iff :
    files.write path text = .ok written ↔
      path.toList.getLast? ≠ some '/' ∧ ∃ place, files.resolve path = .ok place ∧
        files.isDirectory place = false ∧ written = files.put place (.file (.text text)) := by
  have hwrite : files.write path text = files.resolve (withoutSlashes path) >>= fun place =>
      if files.isDirectory place = true ∨ path.toList.getLast? = some '/' then
        .error .isDirectory
      else .ok (files.put place (.file (.text text))) := rfl
  rw [hwrite]
  constructor
  · intro h
    obtain ⟨place, hplace, h⟩ := exists_of_bind_eq_ok h
    split at h
    · exact nomatch h
    · next hfile =>
      have hslash : path.toList.getLast? ≠ some '/' := fun hlast => hfile (.inr hlast)
      have hdir : files.isDirectory place = false := by
        rw [Bool.eq_false_iff]
        exact fun hdir => hfile (.inl hdir)
      rw [withoutSlashes_eq_self hslash] at hplace
      exact ⟨hslash, place, hplace, hdir, (Except.ok.inj h).symm⟩
  · intro ⟨hslash, place, hplace, hdir, hwritten⟩
    rw [withoutSlashes_eq_self hslash, hplace, hwritten]
    show (if files.isDirectory place = true ∨ path.toList.getLast? = some '/' then _ else _) = _
    rw [if_neg (by simp [hdir, hslash])]

/-- What can be written can still be written when another file has been. -/
theorem exists_write_of_write (h : files.write path text = .ok written) {former : Files}
    {formerText : String} (hother : files.write other formerText = .ok former)
    (otherText : String) : ∃ again, written.write other otherText = .ok again := by
  obtain ⟨-, place, -, hdir, rfl⟩ := write_eq_ok_iff.mp h
  obtain ⟨hslash, otherPlace, hotherPlace, hotherDir, -⟩ := write_eq_ok_iff.mp hother
  have hsame := isDirectory_put hdir (.text text)
  refine ⟨_, write_eq_ok_iff.mpr ⟨hslash, otherPlace, ?_, ?_, rfl⟩⟩
  · exact resolve_congr hsame rfl hotherPlace
  · rw [hsame, hotherDir]

/-- **Reading what was written**: a text that has been written to a path is read
    at this path. -/
theorem read_of_write (h : files.write path text = .ok written) :
    written.read path = .ok (.text text) := by
  obtain ⟨-, place, hplace, hdir, rfl⟩ := write_eq_ok_iff.mp h
  have hagain : (files.put place (.file (.text text))).resolve path = .ok place :=
    resolve_congr (isDirectory_put hdir (.text text)) rfl hplace
  have hnode : (files.put place (.file (.text text))).nodes[place]? = some (.file (.text text)) :=
    Std.ExtTreeMap.getElem?_insert_self
  simp only [read, hagain, bind, Except.bind, hnode]

end Files

end Worksheet
