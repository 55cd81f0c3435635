import Mathlib.Algebra.Ring.Nat
import Nadi.Data.FileTree

/-!
# What a system takes as a path

- `PathLimits`: the bytes of a character, and how long names and paths may be. A
  character may stand for a code point that has no encoding, a lone surrogate.
- `FileTree.find`: a path is looked up name by name. That a name is too long is
  found out in the directory it is looked up in, so a missing directory, or a file
  in its place, is found out before (`find_tooLong_iff`).
- `Drive`: a tree without cycles of links in which all there is can be reached.
-/

namespace Data

/-- What a system takes as a path. -/
structure PathLimits where
  /-- The bytes of a character; none for one that has no encoding. -/
  width : Char → Option ℕ
  /-- `NAME_MAX`. -/
  nameMax : ℕ
  /-- `PATH_MAX`, the byte that ends a path left out. -/
  pathMax : ℕ

namespace PathLimits

variable (lim : PathLimits)

/-- All of a text has an encoding. -/
def Encodes (text : String) : Prop := ∀ c ∈ text.toList, (lim.width c).isSome = true

instance (text : String) : Decidable (lim.Encodes text) :=
  inferInstanceAs (Decidable (∀ c ∈ text.toList, _))

def bytes (text : String) : ℕ := (text.toList.map fun c => (lim.width c).getD 0).sum

/-- The bytes of a path, each name after a separator. -/
def pathBytes (path : List String) : ℕ := (path.map fun name => lim.bytes name + 1).sum

/-- Neither the path nor a name in it is too long. -/
def Fits (path : List String) : Prop :=
  lim.pathBytes path ≤ lim.pathMax ∧ ∀ name ∈ path, lim.bytes name ≤ lim.nameMax

instance (path : List String) : Decidable (lim.Fits path) := inferInstanceAs (Decidable (_ ∧ _))

end PathLimits

/-- Why nothing is found at a path. -/
inductive LookupError where
  | noEntry
  | notDirectory
  | loop
  | tooLong
  deriving DecidableEq

namespace FileTree

variable (lim : PathLimits)

/-- What stands at a path, looked up name by name. -/
def find : FileTree → List String → Except LookupError FileTree
  | tree, [] => .ok tree
  | .dir entries, name :: rest =>
    if lim.nameMax < lim.bytes name then .error .tooLong
    else
      match entries.lookup name with
      | none => .error .noEntry
      | some tree => tree.find rest
  | _, _ :: _ => .error .notDirectory

/-- What stands at a path, links followed. -/
def stat (tree : FileTree) (path : List String) : Except LookupError FileTree :=
  if lim.pathMax < lim.pathBytes path then .error .tooLong
  else
    match tree.resolve [] path with
    | none => .error .loop
    | some target => tree.find lim target

/-- The system refuses the path for its length, or for that of a name in a
directory which is there. -/
def TooLong (tree : FileTree) (path : List String) : Prop :=
  lim.pathMax < lim.pathBytes path ∨
    ∃ front name rest entries, path = front ++ name :: rest ∧
      tree.lstat front = some (.dir entries) ∧ lim.nameMax < lim.bytes name

variable {lim} {tree sub : FileTree} {path : List String}

theorem find_of_lstat (h : tree.lstat path = some sub)
    (hnames : ∀ name ∈ path, lim.bytes name ≤ lim.nameMax) : tree.find lim path = .ok sub := by
  induction path generalizing tree with
  | nil =>
    obtain rfl := Option.some.inj h
    rfl
  | cons name rest ih =>
    cases tree with
    | dir entries =>
      obtain ⟨child, hchild, hrest⟩ := Option.bind_eq_some_iff.mp h
      have hname : ¬ lim.nameMax < lim.bytes name := Nat.not_lt.mpr (hnames name (by simp))
      unfold find
      rw [if_neg hname, hchild]
      exact ih hrest fun name' hmem => hnames name' (List.mem_cons_of_mem _ hmem)
    | _ => cases h

theorem lstat_of_find (h : tree.find lim path = .ok sub) : tree.lstat path = some sub := by
  induction path generalizing tree with
  | nil =>
    cases h
    rfl
  | cons name rest ih =>
    cases tree with
    | dir entries =>
      unfold find at h
      split at h
      · cases h
      split at h
      · cases h
      · rename_i child hchild
        exact Option.bind_eq_some_iff.mpr ⟨child, hchild, ih h⟩
    | _ => cases h

/-- **The lookup fails for a length** where a directory is asked for a name that is too long. -/
theorem find_tooLong_iff : tree.find lim path = .error .tooLong ↔
    ∃ front name rest entries, path = front ++ name :: rest ∧
      tree.lstat front = some (.dir entries) ∧ lim.nameMax < lim.bytes name := by
  constructor
  · intro h
    induction path generalizing tree with
    | nil => cases h
    | cons name rest ih =>
      cases tree with
      | dir entries =>
        unfold find at h
        split at h
        · rename_i hlong
          exact ⟨[], name, rest, entries, rfl, rfl, hlong⟩
        split at h
        · cases h
        · rename_i child hchild
          obtain ⟨front, name', rest', entries', rfl, hfront, hlong⟩ := ih h
          exact ⟨name :: front, name', rest', entries', rfl,
            Option.bind_eq_some_iff.mpr ⟨child, hchild, hfront⟩, hlong⟩
      | _ => cases h
  · rintro ⟨front, name, rest, entries, rfl, hfront, hlong⟩
    induction front generalizing tree with
    | nil =>
      obtain rfl := Option.some.inj hfront
      show (if _ then _ else _) = _
      rw [if_pos hlong]
    | cons name' front ih =>
      cases tree with
      | dir entries' =>
        obtain ⟨child, hchild, hrest⟩ := Option.bind_eq_some_iff.mp hfront
        show (if _ then _ else _) = _
        split
        · rfl
        · rw [hchild]
          exact ih hrest
      | _ => cases hfront

/-- On a canonical path there is no link to follow. -/
theorem Canonical.stat (h : tree.Canonical path) : tree.stat lim path =
    if lim.pathMax < lim.pathBytes path then .error .tooLong else tree.find lim path := by
  unfold FileTree.stat
  rw [h.resolve]

theorem Canonical.stat_tooLong_iff (h : tree.Canonical path) :
    tree.stat lim path = .error .tooLong ↔ tree.TooLong lim path := by
  rw [h.stat]
  unfold TooLong
  by_cases hlong : lim.pathMax < lim.pathBytes path
  · rw [if_pos hlong]
    exact ⟨fun _ => .inl hlong, fun _ => rfl⟩
  · rw [if_neg hlong, find_tooLong_iff, or_iff_right hlong]

end FileTree

/-- A tree without cycles of links in which all there is can be reached by its path. -/
structure Drive where
  tree : FileTree
  limits : PathLimits
  acyclic : tree.Acyclic
  fits : ∀ path ∈ tree.paths, limits.Fits path

namespace Drive

variable (drive : Drive) {path : List String} {sub : FileTree}

/-- **What there is is found** where it stands. -/
theorem stat_ok_iff (h : drive.tree.Canonical path) :
    drive.tree.stat drive.limits path = .ok sub ↔ drive.tree.lstat path = some sub := by
  rw [h.stat]
  constructor
  · intro hstat
    split at hstat
    · cases hstat
    · exact FileTree.lstat_of_find hstat
  · intro hlstat
    obtain ⟨hpath, hnames⟩ := drive.fits path (FileTree.mem_paths hlstat)
    rw [if_neg (Nat.not_lt.mpr hpath), FileTree.find_of_lstat hlstat hnames]

theorem not_tooLong (h : drive.tree.Canonical path) (hlstat : drive.tree.lstat path = some sub) :
    ¬ drive.tree.TooLong drive.limits path := by
  intro hlong
  cases ((drive.stat_ok_iff h).mpr hlstat).symm.trans (h.stat_tooLong_iff.mpr hlong)

end Drive

end Data
