import Mathlib.Data.List.Basic
import QueryAudit.Command.World

/-!
# Writing a file

A path that can be written leads to one file, there already or not, and never to a
directory.  Writing gives that file its contents and leaves every other file alone.  The
directories on the way to it are still there afterwards, so the path leads to the same file
again and what is read from it is what was written, `read_put`.
-/

namespace QueryAudit.Command

/-- The file that a target is, there already or not. -/
def Target.path? : Target → Option Path
  | .directory _ => none
  | .file path _ | .free path => some path

namespace World

/-- What is granted is what was asked for. -/
theorem grant_eq_ok_iff {α : Type} {w : World} {access : Access} {a b : α} :
    w.grant access a = .ok b ↔ w.refuses access = none ∧ a = b := by
  unfold grant
  cases w.refuses access with
  | none => simp
  | some reason => simp

/-- What is refused is not granted. -/
theorem grant_of_refused {α : Type} {w : World} {access : Access} {reason : String}
    (h : w.refuses access = some reason) (a : α) : w.grant access a = .error reason := by
  rw [grant, h]

/-- The file that is written is the one that the path leads to. -/
theorem follow_of_target? {w : World} {text : String} {path : Path}
    (h : w.target? text = .ok path) :
    ∃ target, w.follow text (Path.toWrite text) = .ok target ∧ target.path? = some path := by
  unfold target? at h
  split at h
  · cases h
  · cases h
  · next old hfollow =>
      obtain ⟨_, rfl⟩ := grant_eq_ok_iff.mp h
      exact ⟨_, hfollow, rfl⟩
  · next hfollow =>
      obtain ⟨_, rfl⟩ := grant_eq_ok_iff.mp h
      exact ⟨_, hfollow, rfl⟩

/-! ## Files -/

/-- The file that was put there is found. -/
theorem file?_put (w : World) (path : Path) (contents : ByteArray) :
    (w.put path contents).file? path = some contents := by
  simp [file?, put]

/-- Every other file is left alone. -/
theorem file?_put_of_ne (w : World) {path other : Path} (h : other ≠ path)
    (contents : ByteArray) : (w.put path contents).file? other = w.file? other := by
  have hfilter (files : List (Path × ByteArray)) :
      (files.filter (·.1 ≠ path)).lookup other = files.lookup other := by
    induction files with
    | nil => rfl
    | cons file files ih =>
        by_cases hfile : file.1 = path
        · have hother : (other == file.1) = false := by simpa [hfile] using h
          rw [List.filter_cons_of_neg (by simp [hfile]), ih, List.lookup_cons, hother]
        · rw [List.filter_cons_of_pos (by simp [hfile]), List.lookup_cons, List.lookup_cons, ih]
  have hother : (other == path) = false := by simpa using h
  rw [file?, put, List.lookup_cons, hother]
  exact hfilter w.files

/-- A directory is still there when a file was put somewhere. -/
theorem hasDirectory_put (w : World) (path : Path) (contents : ByteArray) {way : Path}
    (h : w.hasDirectory way = true) : (w.put path contents).hasDirectory way = true := by
  unfold hasDirectory at h ⊢
  rw [Bool.or_eq_true] at h ⊢
  rcases h with hlisted | hleads
  · exact .inl hlisted
  · right
    obtain ⟨file, hmem, hway⟩ := List.any_eq_true.mp hleads
    by_cases hfile : file.1 = path
    · rw [hfile] at hway
      exact List.any_eq_true.mpr ⟨(path, contents), List.mem_cons_self, hway⟩
    · have hkept : file ∈ w.files.filter (·.1 ≠ path) := by simp [hmem, hfile]
      exact List.any_eq_true.mpr ⟨file, List.mem_cons_of_mem _ hkept, hway⟩

/-! ## Names -/

/-- A file stands at its own path. -/
theorem path?_standing {w : World} {path other : Path}
    (h : (w.standing path).path? = some other) : path = other := by
  unfold standing at h
  split at h
  · exact Option.some.inj h
  · split at h
    · cases h
    · exact Option.some.inj h

/-- Where a file was put, it stands. -/
theorem standing_put (w : World) (path : Path) (contents : ByteArray) :
    (w.put path contents).standing path = .file path contents := by
  rw [standing, file?_put]

/-- A directory stays one when a file is put in another place. -/
theorem standing_put_of_directory {w : World} {way path next : Path}
    (h : w.standing way = .directory next) (hpath : (w.standing path).path? = some path)
    (contents : ByteArray) : (w.put path contents).standing way = .directory next := by
  have hne : way ≠ path := by
    rintro rfl
    rw [h] at hpath
    cases hpath
  unfold standing at h ⊢
  rw [file?_put_of_ne w hne]
  split at h
  · cases h
  · split at h
    · next hthere =>
        rw [if_pos (hasDirectory_put w path contents hthere)]
        exact h
    · cases h

/-- **What a name leads to.**  The dots lead to a directory, whatever files there are.  Any
other name leads to what stands there. -/
theorem lookup_cases {w : World} {directory : Path} {name : String} {target : Target}
    (h : w.lookup directory name = .ok target) :
    (∃ next, target = .directory next ∧ ∀ w' : World, w'.lookup directory name = .ok target) ∨
      (target = w.standing (directory ++ [name]) ∧
        ∀ w' : World, w'.lookup directory name = .ok (w'.standing (directory ++ [name]))) := by
  unfold lookup at h ⊢
  by_cases hdot : name = "."
  · simp only [if_pos hdot] at h ⊢
    exact .inl ⟨directory, (Except.ok.inj h).symm, fun _ => h⟩
  by_cases hdots : name = ".."
  · simp only [if_neg hdot, if_pos hdots] at h ⊢
    exact .inl ⟨directory.dropLast, (Except.ok.inj h).symm, fun _ => h⟩
  simp only [if_neg hdot, if_neg hdots] at h ⊢
  split at h
  · cases h
  · next hlength =>
      simp only [if_neg hlength]
      exact .inr ⟨(Except.ok.inj h).symm, fun _ => trivial⟩

/-- A name is looked up in a directory that may be searched. -/
theorem find_eq_ok_iff {w : World} {directory : Path} {name : String} {target : Target} :
    w.find directory name = .ok target ↔
      w.refuses (.searching directory) = none ∧ w.lookup directory name = .ok target := by
  unfold find grant
  cases w.refuses (.searching directory) with
  | none => simp [Except.bind]
  | some reason => simp [Except.bind]

/-- A directory that was entered is entered still when a file was put in another place. -/
theorem enter_put {w : World} {directory next path : Path} {name : String}
    (h : w.enter directory name = .ok next) (hpath : (w.standing path).path? = some path)
    (contents : ByteArray) : (w.put path contents).enter directory name = .ok next := by
  have hfind : w.find directory name = .ok (.directory next) := by
    unfold enter at h
    split at h <;> cases h
    assumption
  obtain ⟨hsearch, hlookup⟩ := find_eq_ok_iff.mp hfind
  have hagain : (w.put path contents).lookup directory name = .ok (.directory next) := by
    rcases lookup_cases hlookup with ⟨_, _, hsame⟩ | ⟨hstanding, hsame⟩
    · exact hsame _
    · rw [hsame, standing_put_of_directory hstanding.symm hpath]
  have hfindAgain : (w.put path contents).find directory name = .ok (.directory next) :=
    find_eq_ok_iff.mpr ⟨hsearch, hagain⟩
  rw [enter, hfindAgain]

/-- So is a directory at the end of several names. -/
theorem foldlM_enter_put {w : World} {directory next names path : Path}
    (h : names.foldlM w.enter directory = .ok next)
    (hpath : (w.standing path).path? = some path) (contents : ByteArray) :
    names.foldlM (w.put path contents).enter directory = .ok next := by
  induction names generalizing directory with
  | nil => exact h
  | cons name names ih =>
      rw [List.foldlM_cons] at h ⊢
      cases hname : w.enter directory name with
      | error reason =>
          rw [hname] at h
          cases h
      | ok between =>
          rw [hname] at h
          rw [enter_put hname hpath]
          exact ih h

/-! ## Paths -/

/-- A path that leads somewhere does so by its last name. -/
theorem follow_eq_ok_iff {w : World} {text name : String} {names : Path} {target : Target} :
    w.follow text (names ++ [name]) = .ok target ↔
      text.utf8ByteSize ≤ Path.lengthLimit ∧ ∃ directory,
        names.foldlM w.enter (w.start text) = .ok directory ∧
        w.find directory name = .ok target := by
  unfold follow
  rw [List.getLast?_concat, List.dropLast_concat]
  split
  · next hlong => simp [Nat.not_le.mpr hlong]
  · next hshort =>
      cases names.foldlM w.enter (w.start text) with
      | error reason => simp [Except.bind]
      | ok directory => simpa [Except.bind] using fun _ => Nat.not_lt.mp hshort

/-- **A path leads to the file that was put at its end.** -/
theorem follow_put {w : World} {text : String} {names path : Path} {target : Target}
    (h : w.follow text names = .ok target) (hpath : target.path? = some path)
    (contents : ByteArray) :
    (w.put path contents).follow text names = .ok (.file path contents) := by
  rcases List.eq_nil_or_concat' names with rfl | ⟨front, name, rfl⟩
  · unfold follow at h
    split at h <;> cases h
  · obtain ⟨hlength, directory, hway, hfind⟩ := follow_eq_ok_iff.mp h
    obtain ⟨hsearch, hlookup⟩ := find_eq_ok_iff.mp hfind
    rcases lookup_cases hlookup with ⟨next, rfl, _⟩ | ⟨rfl, hsame⟩
    · cases hpath
    · obtain rfl := path?_standing hpath
      have hput := standing_put w (directory ++ [name]) contents
      refine follow_eq_ok_iff.mpr ⟨hlength, directory, foldlM_enter_put hway hpath contents, ?_⟩
      exact find_eq_ok_iff.mpr ⟨hsearch, (hsame _).trans (congrArg Except.ok hput)⟩

/-- A path that ends in a slash leads to a directory. -/
theorem path?_of_follow {w : World} {text : String} {names : Path} {target : Target}
    (h : w.follow text (names ++ ["."]) = .ok target) : target.path? = none := by
  obtain ⟨_, directory, _, hfind⟩ := follow_eq_ok_iff.mp h
  obtain ⟨_, hlookup⟩ := find_eq_ok_iff.mp hfind
  cases hlookup
  rfl

/-- **What was written is read back**, by whoever may read it. -/
theorem read_put {w : World} {text : String} {path : Path} (h : w.target? text = .ok path)
    (hread : w.refuses (.reading path) = none) (contents : ByteArray) :
    (w.put path contents).read text = .ok contents := by
  obtain ⟨target, hfollow, hpath⟩ := follow_of_target? h
  cases hslash : Path.endsInSlash text with
  | true =>
      rw [Path.toWrite, if_pos hslash] at hfollow
      rw [path?_of_follow hfollow] at hpath
      cases hpath
  | false =>
      have hsame : Path.toRead text = Path.toWrite text := by
        simp [Path.toRead, Path.toWrite, hslash]
      rw [read, hsame, follow_put hfollow hpath]
      exact grant_eq_ok_iff.mpr ⟨hread, rfl⟩

end World

end QueryAudit.Command
