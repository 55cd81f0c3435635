import Mathlib.Data.Finset.Card
import Mathlib.Data.List.Infix
import Mathlib.Logic.Relation

/-!
# File trees and the resolution of paths

- `FileTree`: files, directories and symbolic links; a path is the list of its
  components, taken from the root.
- `Resolves`: where a path ends, component by component. A link is followed where
  it stands, an absolute target starts again at the root, `..` drops the last
  component, and what does not exist is entered as if it did.
- `resolve`: the same as a function. Links are followed to a depth, as many as
  there are links, and without cycles that is enough (`exists_resolve`).
- `Canonical`: paths that resolve to themselves, which is where paths end
  (`Resolves.canonical`).
-/

namespace Data

/-- What may stand in a file system. -/
inductive FileTree where
  | file
  | link (target : String)
  | dir (entries : List (String × FileTree))

/-- The components of the text of a path. -/
def components (text : String) : List String :=
  (text.toList.splitOn '/').map String.ofList

/-- The text starts at the root. -/
def isAbsolute (text : String) : Bool := text.toList.head? == some '/'

/-- Where a text is resolved from, at a path. -/
def base (path : List String) (text : String) : List String :=
  if isAbsolute text then [] else path

theorem components_of_name {text : String} (h : '/' ∉ text.toList) : components text = [text] := by
  unfold components
  rw [List.splitOn_eq_singleton h, List.map_singleton, String.ofList_toList]

theorem base_of_name {path : List String} {text : String} (h : '/' ∉ text.toList) :
    base path text = path := by
  refine if_neg fun habsolute => h ?_
  exact List.mem_of_mem_head? (beq_iff_eq.mp habsolute)

/-- The names that stand for an entry. -/
def ProperName (name : String) : Prop := name ≠ "" ∧ name ≠ "." ∧ name ≠ ".."

instance (name : String) : Decidable (ProperName name) :=
  inferInstanceAs (Decidable (_ ∧ _ ∧ _))

namespace FileTree

/-- What stands at a path, links not followed. -/
def lstat : FileTree → List String → Option FileTree
  | tree, [] => some tree
  | .dir entries, name :: rest => (entries.lookup name).bind fun tree => tree.lstat rest
  | _, _ :: _ => none

/-- The target of the link at a path. -/
def readlink (tree : FileTree) (path : List String) : Option String :=
  match tree.lstat path with
  | some (.link target) => some target
  | _ => none

mutual

/-- The paths of all there is. -/
def paths : FileTree → List (List String)
  | .dir entries => [] :: pathsOf entries
  | _ => [[]]

/-- The paths of all there is in some entries. -/
def pathsOf : List (String × FileTree) → List (List String)
  | [] => []
  | (name, tree) :: rest => tree.paths.map (name :: ·) ++ pathsOf rest

end

theorem mem_pathsOf {entries : List (String × FileTree)} {name : String} {tree : FileTree}
    {path : List String} (hlookup : entries.lookup name = some tree) (hpath : path ∈ tree.paths) :
    name :: path ∈ pathsOf entries := by
  induction entries with
  | nil => cases hlookup
  | cons entry rest ih =>
    obtain ⟨name', tree'⟩ := entry
    unfold pathsOf
    rw [List.lookup_cons] at hlookup
    split at hlookup
    · rename_i heq
      obtain rfl := Option.some.inj hlookup
      obtain rfl := eq_of_beq heq
      exact List.mem_append_left _ (List.mem_map_of_mem hpath)
    · exact List.mem_append_right _ (ih hlookup)

theorem mem_paths {tree sub : FileTree} {path : List String} (h : tree.lstat path = some sub) :
    path ∈ tree.paths := by
  induction path generalizing tree with
  | nil => cases tree <;> simp [paths]
  | cons name rest ih =>
    cases tree with
    | dir entries =>
      obtain ⟨child, hchild, hrest⟩ := Option.bind_eq_some_iff.mp h
      exact List.mem_cons_of_mem _ (mem_pathsOf hchild (ih hrest))
    | _ => cases h

/-- The paths of the links. -/
def links (tree : FileTree) : List (List String) :=
  tree.paths.filter fun path => (tree.readlink path).isSome

theorem mem_links {tree : FileTree} {path : List String} {target : String}
    (h : tree.readlink path = some target) : path ∈ tree.links := by
  have hsome : (tree.readlink path).isSome = true := Option.isSome_of_eq_some h
  refine List.mem_filter.mpr ⟨?_, hsome⟩
  unfold readlink at h
  split at h
  · rename_i hfound
    exact mem_paths hfound
  · cases h

/-! ## Where a path ends -/

/-- From a path, the names lead to an end. -/
inductive Resolves (tree : FileTree) : List String → List String → List String → Prop
  | done (path) : Resolves tree path [] path
  | stay {path name rest last} (hname : name = "" ∨ name = ".")
      (hrest : Resolves tree path rest last) : Resolves tree path (name :: rest) last
  | up {path rest last} (hrest : Resolves tree path.dropLast rest last) :
      Resolves tree path (".." :: rest) last
  | enter {path name rest last} (hname : ProperName name)
      (hlink : tree.readlink (path ++ [name]) = none)
      (hrest : Resolves tree (path ++ [name]) rest last) : Resolves tree path (name :: rest) last
  | follow {path name rest target mid last} (hname : ProperName name)
      (hlink : tree.readlink (path ++ [name]) = some target)
      (htarget : Resolves tree (base path target) (components target) mid)
      (hrest : Resolves tree mid rest last) : Resolves tree path (name :: rest) last

variable {tree : FileTree} {path names last last' : List String}

/-- There is one end at most. -/
theorem Resolves.unique (h : Resolves tree path names last) (h' : Resolves tree path names last') :
    last = last' := by
  induction h generalizing last' with
  | done path =>
    cases h'
    rfl
  | stay hname hrest ih =>
    cases h' with
    | stay _ hrest' => exact ih hrest'
    | up hrest' => exact absurd hname (by decide)
    | enter hname' | follow hname' => exact (hname.elim hname'.1 hname'.2.1).elim
  | up hrest ih =>
    cases h' with
    | stay hname' _ => exact absurd hname' (by decide)
    | up hrest' => exact ih hrest'
    | enter hname' | follow hname' => exact absurd rfl hname'.2.2
  | enter hname hlink hrest ih =>
    cases h' with
    | stay hname' _ => exact (hname'.elim hname.1 hname.2.1).elim
    | up _ => exact absurd rfl hname.2.2
    | enter _ _ hrest' => exact ih hrest'
    | follow _ hlink' _ _ => cases hlink.symm.trans hlink'
  | follow hname hlink htarget hrest ihtarget ih =>
    cases h' with
    | stay hname' _ => exact (hname'.elim hname.1 hname.2.1).elim
    | up _ => exact absurd rfl hname.2.2
    | enter _ hlink' _ => cases hlink.symm.trans hlink'
    | follow _ hlink' htarget' hrest' =>
      cases hlink.symm.trans hlink'
      obtain rfl := ihtarget htarget'
      exact ih hrest'

/-- Names are resolved one after the other. -/
theorem resolves_append {names' : List String} : Resolves tree path (names ++ names') last ↔
    ∃ mid, Resolves tree path names mid ∧ Resolves tree mid names' last := by
  constructor
  · intro h
    induction names generalizing path with
    | nil => exact ⟨path, .done path, h⟩
    | cons name rest ih =>
      cases h with
      | stay hname hrest =>
        obtain ⟨mid, hmid, hlast⟩ := ih hrest
        exact ⟨mid, .stay hname hmid, hlast⟩
      | up hrest =>
        obtain ⟨mid, hmid, hlast⟩ := ih hrest
        exact ⟨mid, .up hmid, hlast⟩
      | enter hname hlink hrest =>
        obtain ⟨mid, hmid, hlast⟩ := ih hrest
        exact ⟨mid, .enter hname hlink hmid, hlast⟩
      | follow hname hlink htarget hrest =>
        obtain ⟨mid, hmid, hlast⟩ := ih hrest
        exact ⟨mid, .follow hname hlink htarget hmid, hlast⟩
  · rintro ⟨mid, hmid, hlast⟩
    induction hmid with
    | done path => exact hlast
    | stay hname _ ih => exact .stay hname (ih hlast)
    | up _ ih => exact .up (ih hlast)
    | enter hname hlink _ ih => exact .enter hname hlink (ih hlast)
    | follow hname hlink htarget _ _ ih => exact .follow hname hlink htarget (ih hlast)

/-! ## Canonical paths -/

/-- Proper names all along, and no link. -/
structure Canonical (tree : FileTree) (path : List String) : Prop where
  proper : ∀ name ∈ path, ProperName name
  noLink : ∀ front name, front ++ [name] <+: path → tree.readlink (front ++ [name]) = none

theorem canonical_nil (tree : FileTree) : tree.Canonical [] where
  proper := fun _ h => nomatch h
  noLink := fun front name h => absurd (List.prefix_nil.mp h) (by simp)

theorem Canonical.of_prefix {path' : List String} (h : tree.Canonical path)
    (hshort : path' <+: path) : tree.Canonical path' where
  proper := fun name hname => h.proper name (hshort.subset hname)
  noLink := fun front name hfront => h.noLink front name (hfront.trans hshort)

theorem Canonical.dropLast (h : tree.Canonical path) : tree.Canonical path.dropLast :=
  h.of_prefix (List.dropLast_prefix path)

theorem Canonical.concat {name : String} (h : tree.Canonical path) (hname : ProperName name)
    (hlink : tree.readlink (path ++ [name]) = none) : tree.Canonical (path ++ [name]) where
  proper := by
    intro name' hname'
    rcases List.mem_append.mp hname' with hold | hnew
    · exact h.proper name' hold
    · exact List.mem_singleton.mp hnew ▸ hname
  noLink := by
    intro front name' hfront
    rcases List.prefix_concat_iff.mp hfront with heq | hold
    · rw [heq]
      exact hlink
    · exact h.noLink front name' hold

theorem Canonical.base (h : tree.Canonical path) (text : String) :
    tree.Canonical (Data.base path text) := by
  unfold Data.base
  split
  · exact canonical_nil tree
  · exact h

/-- **Ends are canonical.** -/
theorem Resolves.canonical (h : Resolves tree path names last) (hpath : tree.Canonical path) :
    tree.Canonical last := by
  induction h with
  | done => exact hpath
  | stay _ _ ih => exact ih hpath
  | up _ ih => exact ih hpath.dropLast
  | enter hname hlink _ ih => exact ih (hpath.concat hname hlink)
  | @follow _ _ _ target _ _ _ _ _ _ ihtarget ih => exact ih (ihtarget (hpath.base target))

/-- A canonical path resolves to itself. -/
theorem Canonical.resolves (h : tree.Canonical (path ++ names)) :
    Resolves tree path names (path ++ names) := by
  induction names generalizing path with
  | nil =>
    rw [List.append_nil]
    exact .done path
  | cons name rest ih =>
    have hsplit : path ++ name :: rest = path ++ [name] ++ rest := by simp
    rw [hsplit] at h ⊢
    refine .enter (h.proper name (by simp)) (h.noLink path name ?_) (ih h)
    exact List.prefix_append _ _

/-! ## Resolving -/

/-- Go through the names; `follow` gives the end of the target of a link. -/
def walk (tree : FileTree) (follow : List String → String → Option (List String)) :
    List String → List String → Option (List String)
  | path, [] => some path
  | path, name :: rest =>
    if name = "" ∨ name = "." then tree.walk follow path rest
    else if name = ".." then tree.walk follow path.dropLast rest
    else
      match tree.readlink (path ++ [name]) with
      | none => tree.walk follow (path ++ [name]) rest
      | some target => (follow path target).bind fun mid => tree.walk follow mid rest

/-- Resolve a target from a path, links within links to a depth. -/
def followTo (tree : FileTree) : ℕ → List String → String → Option (List String)
  | 0, _, _ => none
  | depth + 1, path, target =>
    tree.walk (tree.followTo depth) (base path target) (components target)

/-- Resolve names from a path. -/
def resolve (tree : FileTree) (path names : List String) : Option (List String) :=
  tree.walk (tree.followTo tree.links.length) path names

theorem walk_sound {follow : List String → String → Option (List String)}
    (hfollow : ∀ path target last, follow path target = some last →
      Resolves tree (base path target) (components target) last)
    (h : tree.walk follow path names = some last) : Resolves tree path names last := by
  induction names generalizing path with
  | nil =>
    obtain rfl := Option.some.inj h
    exact .done path
  | cons name rest ih =>
    unfold walk at h
    split at h
    · rename_i hname
      exact .stay hname (ih h)
    rename_i hstay
    split at h
    · rename_i hname
      subst hname
      exact .up (ih h)
    rename_i hup
    have hname : ProperName name := ⟨fun h => hstay (.inl h), fun h => hstay (.inr h), hup⟩
    split at h
    · rename_i hlink
      exact .enter hname hlink (ih h)
    · rename_i target hlink
      obtain ⟨mid, hmid, hrest⟩ := Option.bind_eq_some_iff.mp h
      exact .follow hname hlink (hfollow path target mid hmid) (ih hrest)

theorem followTo_sound {depth : ℕ} {target : String}
    (h : tree.followTo depth path target = some last) :
    Resolves tree (base path target) (components target) last := by
  induction depth generalizing path target last with
  | zero => cases h
  | succ depth ih => exact walk_sound (fun _ _ _ => ih) h

/-- **What is resolved is where the names lead.** -/
theorem resolve_sound (h : tree.resolve path names = some last) : Resolves tree path names last :=
  walk_sound (fun _ _ _ => followTo_sound) h

/-! ## Links without cycles -/

/-- The links that names lead through, those within other links left out. -/
inductive Meets (tree : FileTree) : List String → List String → List String → Prop
  | here {path name rest target} (hname : ProperName name)
      (hlink : tree.readlink (path ++ [name]) = some target) :
      Meets tree path (name :: rest) (path ++ [name])
  | stay {path name rest link} (hname : name = "" ∨ name = ".")
      (hrest : Meets tree path rest link) : Meets tree path (name :: rest) link
  | up {path rest link} (hrest : Meets tree path.dropLast rest link) :
      Meets tree path (".." :: rest) link
  | enter {path name rest link} (hname : ProperName name)
      (hlink : tree.readlink (path ++ [name]) = none)
      (hrest : Meets tree (path ++ [name]) rest link) : Meets tree path (name :: rest) link
  | past {path name rest target mid link} (hname : ProperName name)
      (hlink : tree.readlink (path ++ [name]) = some target)
      (htarget : Resolves tree (base path target) (components target) mid)
      (hrest : Meets tree mid rest link) : Meets tree path (name :: rest) link

/-- To resolve the target of the one link, the other is followed. -/
def Needs (tree : FileTree) (link link' : List String) : Prop :=
  ∃ target, tree.readlink link = some target ∧
    Meets tree (base link.dropLast target) (components target) link'

/-- No link needs itself. -/
def Acyclic (tree : FileTree) : Prop := ∀ link, ¬ Relation.TransGen (Needs tree) link link

theorem Meets.readlink {link : List String} (h : Meets tree path names link) :
    ∃ target, tree.readlink link = some target := by
  induction h with
  | here _ hlink => exact ⟨_, hlink⟩
  | stay _ _ ih | up _ ih | enter _ _ _ ih | past _ _ _ _ ih => exact ih

theorem needs_mem {link link' : List String} (h : Relation.TransGen (Needs tree) link link') :
    link' ∈ tree.links := by
  have hlast : ∀ {link link'}, Needs tree link link' → link' ∈ tree.links := by
    rintro link link' ⟨target, -, hmeets⟩
    obtain ⟨target', hlink'⟩ := hmeets.readlink
    exact mem_links hlink'
  cases h with
  | single h => exact hlast h
  | tail _ h => exact hlast h

open Classical in
/-- How many links a link needs. -/
noncomputable def rank (tree : FileTree) (link : List String) : ℕ :=
  (tree.links.toFinset.filter fun link' => Relation.TransGen (Needs tree) link link').card

/-- A link that is needed needs fewer. -/
theorem rank_lt {link link' : List String} (hacyclic : tree.Acyclic)
    (h : Needs tree link link') : tree.rank link' < tree.rank link := by
  classical
  refine Finset.card_lt_card (Finset.ssubset_iff_of_subset ?_ |>.mpr ⟨link', ?_, ?_⟩)
  · intro other hother
    obtain ⟨hmem, hneeds⟩ := Finset.mem_filter.mp hother
    exact Finset.mem_filter.mpr ⟨hmem, .head h hneeds⟩
  · exact Finset.mem_filter.mpr
      ⟨List.mem_toFinset.mpr (needs_mem (.single h)), .single h⟩
  · intro hself
    exact hacyclic link' (Finset.mem_filter.mp hself).2

/-- It does not need itself. -/
theorem rank_lt_links {link : List String} (hacyclic : tree.Acyclic) (h : link ∈ tree.links) :
    tree.rank link < tree.links.length := by
  classical
  refine lt_of_lt_of_le (Finset.card_lt_card (Finset.filter_ssubset.mpr ⟨link, ?_, ?_⟩))
    (List.toFinset_card_le tree.links)
  · exact List.mem_toFinset.mpr h
  · exact hacyclic link

/-- Names are resolved where the links they lead through are. -/
theorem walk_complete {follow : List String → String → Option (List String)}
    (hsound : ∀ path target last, follow path target = some last →
      Resolves tree (base path target) (components target) last)
    (hfollow : ∀ link target, Meets tree path names link → tree.readlink link = some target →
      ∃ mid, follow link.dropLast target = some mid) :
    ∃ last, tree.walk follow path names = some last := by
  induction names generalizing path with
  | nil => exact ⟨path, rfl⟩
  | cons name rest ih =>
    unfold walk
    by_cases hstay : name = "" ∨ name = "."
    · rw [if_pos hstay]
      exact ih fun link target hmeets => hfollow link target (.stay hstay hmeets)
    rw [if_neg hstay]
    by_cases hup : name = ".."
    · subst hup
      rw [if_pos rfl]
      exact ih fun link target hmeets => hfollow link target (.up hmeets)
    rw [if_neg hup]
    have hname : ProperName name := ⟨fun h => hstay (.inl h), fun h => hstay (.inr h), hup⟩
    cases hlink : tree.readlink (path ++ [name]) with
    | none => exact ih fun link target hmeets => hfollow link target (.enter hname hlink hmeets)
    | some target =>
      obtain ⟨mid, hmid⟩ := hfollow _ target (.here hname hlink) hlink
      rw [List.dropLast_concat] at hmid
      dsimp only
      rw [hmid]
      exact ih fun link target' hmeets =>
        hfollow link target' (.past hname hlink (hsound _ _ _ hmid) hmeets)

theorem followTo_complete (hacyclic : tree.Acyclic) {depth : ℕ} {link : List String}
    {target : String} (hlink : tree.readlink link = some target) (hdepth : tree.rank link < depth) :
    ∃ last, tree.followTo depth link.dropLast target = some last := by
  induction depth generalizing link target with
  | zero => cases hdepth
  | succ depth ih =>
    refine walk_complete (fun _ _ _ => followTo_sound) fun link' target' hmeets hlink' => ?_
    have hlt := rank_lt hacyclic ⟨target, hlink, hmeets⟩
    exact ih hlink' (by omega)

/-- **Without cycles every path has an end**, and it is found. -/
theorem exists_resolve (hacyclic : tree.Acyclic) (path names : List String) :
    ∃ last, tree.resolve path names = some last :=
  walk_complete (fun _ _ _ => followTo_sound) fun _ _ _ hlink =>
    followTo_complete hacyclic hlink (rank_lt_links hacyclic (mem_links hlink))

/-- No link needs itself where there is a measure of what links need. -/
theorem acyclic_of_measure (measure : List String → ℕ)
    (h : ∀ link link', Needs tree link link' → measure link' < measure link) : tree.Acyclic := by
  intro link hcycle
  have hlt : ∀ {link'}, Relation.TransGen (Needs tree) link link' →
      measure link' < measure link := by
    intro link' hneeds
    induction hneeds with
    | single hneeds => exact h _ _ hneeds
    | tail _ hneeds ih => exact (h _ _ hneeds).trans ih
  exact Nat.lt_irrefl _ (hlt hcycle)

/-- A canonical path is gone through with no link to follow. -/
theorem Canonical.walk {follow : List String → String → Option (List String)}
    (h : tree.Canonical (path ++ names)) : tree.walk follow path names = some (path ++ names) := by
  induction names generalizing path with
  | nil =>
    rw [List.append_nil]
    rfl
  | cons name rest ih =>
    have hsplit : path ++ name :: rest = path ++ [name] ++ rest := by simp
    obtain ⟨hempty, hdot, hup⟩ := h.proper name (by simp)
    have hlink := h.noLink path name (hsplit ▸ List.prefix_append _ _)
    unfold FileTree.walk
    rw [if_neg (fun hor => hor.elim hempty hdot), if_neg hup, hlink, hsplit]
    exact ih (hsplit ▸ h)

theorem Canonical.resolve (h : tree.Canonical path) : tree.resolve [] path = some path := by
  have hfull : tree.Canonical ([] ++ path) := h
  exact hfull.walk

end FileTree

end Data
