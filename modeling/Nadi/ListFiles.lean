import Nadi.CellPairs
import Nadi.Data.PathLimits
import Nadi.Receipts
import Mathlib.Data.String.Basic

/-!
# What `list_files` lists

The path a tool call names is joined to the root of the sandbox and resolved, and
containment is judged by the components of where it ends (sandboxd.py:41–50). In
a tree without link cycles every path ends somewhere. Where that is outside the
root the call raises, and otherwise the tool lists the directory there, unless the
system does not take the path: `Path.resolve` raises of a text that has no
encoding, and `Path.is_dir` lets through that a name is too long
(`list_files_confined`).
-/

namespace Nadi

open Effect
open Data (FileTree PathLimits Drive components base)

/-- `root / rel`. -/
def joinPath (root : List String) (rel : String) : List String := base root rel ++ components rel

/-- From a canonical root a relative path is resolved where the root is. -/
theorem resolves_joinPath {tree : FileTree} {root target : List String}
    (hroot : tree.Canonical root) (rel : String) :
    tree.Resolves [] (joinPath root rel) target ↔
      tree.Resolves (base root rel) (components rel) target := by
  have hcanonical : tree.Canonical ([] ++ base root rel) := hroot.base rel
  have hbase : tree.Resolves [] (base root rel) (base root rel) := hcanonical.resolves
  unfold joinPath
  rw [FileTree.resolves_append]
  constructor
  · rintro ⟨mid, hmid, hlast⟩
    obtain rfl := hmid.unique hbase
    exact hlast
  · exact fun h => ⟨_, hbase, h⟩

/-- What Python sees of a drive: `resolve`, `is_dir` and `iterdir` of paths. Links are
looked for with `lstat`, whose failures `resolve` takes for the absence of a link;
on a drive all links are found. -/
def filesOf (drive : Drive) : Files where
  resolve root rel :=
    if '\x00' ∈ rel.toList then .error (.valueError "embedded null byte")
    else if drive.limits.Encodes rel then
      match drive.tree.resolve [] (joinPath root rel) with
      | none => .error (.runtimeError "Symlink loop")
      | some target => .ok target
    else .error (.valueError "'utf-8' codec can't encode: surrogates not allowed")
  isDir path :=
    match drive.tree.stat drive.limits path with
    | .ok (.dir _) => .ok true
    | .error .tooLong => .error (.osError "File name too long")
    | _ => .ok false
  iterdir path :=
    match drive.tree.stat drive.limits path with
    | .ok (.dir entries) => .ok (entries.map Prod.fst)
    | .ok _ | .error .notDirectory => .error (.osError "Not a directory")
    | .error .noEntry => .error (.osError "No such file or directory")
    | .error .loop => .error (.osError "Too many levels of symbolic links")
    | .error .tooLong => .error (.osError "File name too long")

/-- The names of the entries of the directory at a path, none where there is no
directory. -/
def entryNames (tree : FileTree) (path : List String) : List String :=
  match tree.lstat path with
  | some (.dir entries) => entries.map Prod.fst
  | _ => []

/-! ## The tool on a drive -/

section Tool

variable {drive : Drive} {root target : List String} {rel : String}

/-- A path that can be encoded is resolved to where it ends. -/
theorem filesOf_resolve (hnul : '\x00' ∉ rel.toList) (hencodes : drive.limits.Encodes rel)
    (htarget : drive.tree.Resolves [] (joinPath root rel) target) :
    (filesOf drive).resolve root rel = .ok target := by
  obtain ⟨last, hlast⟩ := FileTree.exists_resolve drive.acyclic [] (joinPath root rel)
  obtain rfl := (FileTree.resolve_sound hlast).unique htarget
  show (if '\x00' ∈ rel.toList then _ else _) = _
  rw [if_neg hnul, if_pos hencodes, hlast]

theorem canonical_target (htarget : drive.tree.Resolves [] (joinPath root rel) target) :
    drive.tree.Canonical target :=
  htarget.canonical (FileTree.canonical_nil drive.tree)

theorem listFiles_unencoded (hnul : '\x00' ∉ rel.toList)
    (hencodes : ¬ drive.limits.Encodes rel) : Sandboxd.listFiles (filesOf drive) root rel =
      .error (.valueError "'utf-8' codec can't encode: surrogates not allowed") := by
  have hresolve : (filesOf drive).resolve root rel =
      .error (.valueError "'utf-8' codec can't encode: surrogates not allowed") := by
    show (if '\x00' ∈ rel.toList then _ else _) = _
    rw [if_neg hnul, if_neg hencodes]
  unfold Sandboxd.listFiles
  rw [hresolve]

theorem listFiles_outside (hresolve : (filesOf drive).resolve root rel = .ok target)
    (hout : ¬ root <+: target) : Sandboxd.listFiles (filesOf drive) root rel =
      .error (.valueError "path escapes sandbox root") := by
  unfold Sandboxd.listFiles
  rw [hresolve]
  exact if_neg fun h => hout (List.isPrefixOf_iff_prefix.mp h)

theorem listFiles_tooLong (hresolve : (filesOf drive).resolve root rel = .ok target)
    (hcanonical : drive.tree.Canonical target) (hinside : root <+: target)
    (hlong : drive.tree.TooLong drive.limits target) :
    Sandboxd.listFiles (filesOf drive) root rel = .error (.osError "File name too long") := by
  have hisDir : (filesOf drive).isDir target = .error (.osError "File name too long") := by
    unfold filesOf
    dsimp only
    rw [hcanonical.stat_tooLong_iff.mpr hlong]
  unfold Sandboxd.listFiles
  rw [hresolve]
  dsimp only
  rw [if_pos (List.isPrefixOf_iff_prefix.mpr hinside), hisDir]

/-- **Inside the root the directory is listed**, if the system takes its path. -/
theorem listFiles_inside (hresolve : (filesOf drive).resolve root rel = .ok target)
    (hcanonical : drive.tree.Canonical target) (hinside : root <+: target)
    (hshort : ¬ drive.tree.TooLong drive.limits target) :
    Sandboxd.listFiles (filesOf drive) root rel = .ok (.obj [("files",
      .arr (((entryNames drive.tree target).insertionSort fun a b => a ≤ b).map .str))]) := by
  unfold Sandboxd.listFiles
  rw [hresolve]
  dsimp only
  rw [if_pos (List.isPrefixOf_iff_prefix.mpr hinside)]
  cases hstat : drive.tree.stat drive.limits target with
  | ok sub =>
    have hlstat := (drive.stat_ok_iff hcanonical).mp hstat
    unfold filesOf entryNames
    dsimp only
    rw [hstat, hlstat]
    cases sub <;> rfl
  | error e =>
    have hnames : entryNames drive.tree target = [] := by
      unfold entryNames
      cases hlstat : drive.tree.lstat target with
      | none => rfl
      | some sub => cases hstat.symm.trans ((drive.stat_ok_iff hcanonical).mpr hlstat)
    have hisDir : (filesOf drive).isDir target = .ok false := by
      unfold filesOf
      dsimp only
      rw [hstat]
      cases e with
      | tooLong => exact absurd (hcanonical.stat_tooLong_iff.mp hstat) hshort
      | _ => rfl
    rw [hisDir, hnames]
    rfl

end Tool

section Runs

variable {T : Type} [Field T] [LinearOrder T] [IsStrictOrderedRing T] [FloorRing T] (py : Py)
  (tm : Timing T) {s : Ticking T} (sandbox : Sandboxd) (sid token : String)

/-- The call of the tool, once the token is accepted. -/
theorem executeTool_listFiles (rel : String) :
    (sandbox.executeTool py sid token "list_files" (.obj [("path", .str rel)]) : Code T Json) =
      (sandbox.jwt.verify py token sid "tool").bind fun _ =>
        ((call .files).bind fun files =>
          Prog.ofExcept (Sandboxd.listFiles files sandbox.root rel)).bind fun result =>
            (call (.audit "sandboxd" "execute_tool" (some sid)
              (.obj [("tool", .str "list_files")]))).bind fun _ =>
              .pure (toolResult "list_files" result) := rfl

/-- What the tool comes to is what the call comes to; where the tool raises, the audit
log stays as it is. -/
theorem executeTool_listFiles_run {files : Files} (hfiles : ∀ n, tm.files n = files)
    (htoken : (sandbox.jwt.verify py token sid "tool").Returns (timed py tm) s) (rel : String) :
    let done := (sandbox.executeTool py sid token "list_files"
      (.obj [("path", .str rel)])).run (timed py tm) s
    (∀ e, Sandboxd.listFiles files sandbox.root rel = .error e →
      done.1 = .error e ∧ done.2.world.store.auditLog = s.world.store.auditLog) ∧
    ∀ result, Sandboxd.listFiles files sandbox.root rel = .ok result →
      done.1 = .ok (toolResult "list_files" result) := by
  intro done
  obtain ⟨data, s₁, hverify⟩ := htoken
  have haudit : s₁.world.store.auditLog = s.world.store.auditLog := by
    have hkept := run_auditLog py tm (s := s) (verify_unaudited py sid token sandbox.jwt "tool")
    rwa [hverify] at hkept
  have hcall : (call .files).run (timed py tm) s₁ =
      (.ok files, ⟨s₁.reading + 1, s₁.ready tm⟩) := by
    rw [← hfiles s₁.reading]
    rfl
  have hresult : ((call .files).bind fun files =>
      Prog.ofExcept (Sandboxd.listFiles files sandbox.root rel)).run (timed py tm) s₁ =
      (Sandboxd.listFiles files sandbox.root rel, ⟨s₁.reading + 1, s₁.ready tm⟩) := by
    rw [Prog.run_bind_ok _ hcall, Prog.run_ofExcept]
  have hdone : done = ((((call .files).bind fun files =>
      Prog.ofExcept (Sandboxd.listFiles files sandbox.root rel)).bind fun result =>
        (call (.audit "sandboxd" "execute_tool" (some sid)
          (.obj [("tool", .str "list_files")]))).bind fun _ =>
          .pure (toolResult "list_files" result) : Code T Json).run (timed py tm) s₁) := by
    show (sandbox.executeTool py sid token "list_files"
      (.obj [("path", .str rel)])).run (timed py tm) s = _
    rw [executeTool_listFiles]
    exact Prog.run_bind_ok _ hverify
  rw [hdone]
  refine ⟨fun e he => ?_, fun result hok => ?_⟩
  · rw [he] at hresult
    rw [Prog.run_bind_error _ hresult]
    exact ⟨rfl, haudit⟩
  · rw [hok] at hresult
    rw [Prog.run_bind_ok _ hresult]
    rfl

/-- **Confined and complete.** With a token that is accepted, on a drive, a path
without NUL ends at one place. If it has an encoding: where it ends outside the root
the call raises, and otherwise it returns the names of the directory there in order,
unless the place has a path, or a name in a directory that is there, too long for
the system. Whatever raises leaves the audit log as it is. -/
theorem list_files_confined {drive : Drive} (hfiles : ∀ n, tm.files n = filesOf drive)
    (htoken : (sandbox.jwt.verify py token sid "tool").Returns (timed py tm) s)
    {rel : String} (hnul : '\x00' ∉ rel.toList) :
    (∃ target, drive.tree.Resolves [] (joinPath sandbox.root rel) target) ∧
      ∀ target, drive.tree.Resolves [] (joinPath sandbox.root rel) target →
        let done := (sandbox.executeTool py sid token "list_files"
          (.obj [("path", .str rel)])).run (timed py tm) s
        (∀ e, done.1 = .error e → done.2.world.store.auditLog = s.world.store.auditLog) ∧
          (¬ drive.limits.Encodes rel → done.1 =
            .error (.valueError "'utf-8' codec can't encode: surrogates not allowed")) ∧
          (drive.limits.Encodes rel →
            (¬ sandbox.root <+: target →
              done.1 = .error (.valueError "path escapes sandbox root")) ∧
            (sandbox.root <+: target → drive.tree.TooLong drive.limits target →
              done.1 = .error (.osError "File name too long")) ∧
            (sandbox.root <+: target → ¬ drive.tree.TooLong drive.limits target →
              ∃ names : List String,
                names.Perm (entryNames drive.tree target) ∧ names.Pairwise (· ≤ ·) ∧
                done.1 = .ok (toolResult "list_files"
                  (.obj [("files", .arr (names.map .str))])))) := by
  obtain ⟨last, hlast⟩ :=
    FileTree.exists_resolve drive.acyclic [] (joinPath sandbox.root rel)
  refine ⟨⟨last, FileTree.resolve_sound hlast⟩, fun target htarget => ?_⟩
  intro done
  obtain ⟨hraises, hreturns⟩ :=
    executeTool_listFiles_run py tm sandbox sid token hfiles htoken rel
  have hcanonical := canonical_target htarget
  refine ⟨fun e he => ?_, fun hbad => (hraises _ (listFiles_unencoded hnul hbad)).1,
    fun hencodes => ?_⟩
  · cases htool : Sandboxd.listFiles (filesOf drive) sandbox.root rel with
    | error e' => exact (hraises e' htool).2
    | ok result => cases he.symm.trans (hreturns result htool)
  have hresolve := filesOf_resolve hnul hencodes htarget
  refine ⟨fun hout => (hraises _ (listFiles_outside hresolve hout)).1,
    fun hinside hlong => (hraises _ (listFiles_tooLong hresolve hcanonical hinside hlong)).1,
    fun hinside hshort => ?_⟩
  exact ⟨_, List.perm_insertionSort _ _, List.pairwise_insertionSort _ _,
    hreturns _ (listFiles_inside hresolve hcanonical hinside hshort)⟩

end Runs

/-! ## Samples -/

/-- The entries of a sandbox. -/
def boxEntries : List (String × FileTree) :=
  [("notes", .file), ("a", .file), ("up", .link "..")]

/-- A sandbox with a link out of it, beside a directory whose name begins like its own. -/
def boxTree : FileTree :=
  .dir [("srv", .dir [
    ("box", .dir boxEntries),
    ("box2", .dir [("b", .file)])])]

theorem acyclic_boxTree : boxTree.Acyclic := by
  refine FileTree.acyclic_of_measure (fun _ => 0) fun link link' hneeds => ?_
  obtain ⟨target, hlink, hmeets⟩ := hneeds
  have hmem := FileTree.mem_links hlink
  have hlinks : boxTree.links = [["srv", "box", "up"]] := rfl
  rw [hlinks, List.mem_singleton] at hmem
  subst hmem
  obtain rfl : ".." = target := Option.some.inj hlink
  have hcomponents : components ".." = [".."] := rfl
  rw [hcomponents] at hmeets
  cases hmeets with
  | here hname | enter hname | past hname => exact absurd rfl hname.2.2
  | stay hname => exact absurd hname (by decide)
  | up hrest => cases hrest

/-- UTF-8 with the usual limits. A noncharacter stands for a lone surrogate. -/
def boxLimits : PathLimits :=
  ⟨fun c => if c = '\uffff' then none else some c.utf8Size, 255, 4095⟩

theorem encodes_boxLimits {text : String} : boxLimits.Encodes text ↔ '\uffff' ∉ text.toList := by
  have hwidth : ∀ c, (boxLimits.width c).isSome = true ↔ c ≠ '\uffff' := by
    intro c
    show (if c = '\uffff' then _ else _ : Option ℕ).isSome = true ↔ _
    split <;> simp [*]
  unfold PathLimits.Encodes
  constructor
  · exact fun h hc => (hwidth _).mp (h _ hc) rfl
  · exact fun h c hc => (hwidth c).mpr fun heq => h (heq ▸ hc)

def boxDrive : Drive := ⟨boxTree, boxLimits, acyclic_boxTree, by decide +kernel⟩

/-- A `Celld` whose sandbox is there, and the token of one of its cells. -/
def boxCelld : Celld := localCelld ["srv", "box"]

def boxToken : String :=
  boxCelld.jwt.sign Py.sample (truncate (0 : ℚ)) "j" "s" "cell tool" 3600 boxCelld.hostId

/-- List a path there. -/
def listBox (rel : String) : Except PyErr Json × Ticking ℚ :=
  (boxCelld.sandboxd.executeTool Py.sample "s" boxToken "list_files"
    (.obj [("path", .str rel)])).run (timed Py.sample (.still 1 (filesOf boxDrive)))
      ⟨0, World.init (0 : ℚ) (filesOf boxDrive)⟩

theorem boxToken_accepted : (boxCelld.sandboxd.jwt.verify Py.sample boxToken "s" "tool").Returns
    (timed Py.sample (.still (1 : ℚ) (filesOf boxDrive)))
      ⟨0, World.init (0 : ℚ) (filesOf boxDrive)⟩ := by
  have htoken : Outlives Py.sample boxCelld (.still (1 : ℚ) (filesOf boxDrive)) "s" boxToken :=
    ⟨0, "j", by decide, rfl, fun _ => show (1 : ℚ) < 0 + 3600 by decide +kernel⟩
  obtain ⟨data, hrun⟩ :=
    run_verify (s := ⟨0, World.init (0 : ℚ) (filesOf boxDrive)⟩) rfl htoken rfl
  exact ⟨data, _, hrun⟩

theorem canonical_box : boxTree.Canonical ["srv", "box"] := by
  have hsrv : boxTree.Canonical ["srv"] := (FileTree.canonical_nil boxTree).concat (by decide) rfl
  exact hsrv.concat (by decide) rfl

/-- A path that comes back is listed; one that ends beside the sandbox, or leaves
it through a link, is not, and neither is one that has no encoding. -/
theorem list_files_confined_sample :
    (∃ names : List String, names.Perm ["notes", "a", "up"] ∧ names.Pairwise (· ≤ ·) ∧
        (listBox "../box/.").1 =
          .ok (toolResult "list_files" (.obj [("files", .arr (names.map .str))]))) ∧
      (listBox "../box2").1 = .error (.valueError "path escapes sandbox root") ∧
      (listBox "up").1 = .error (.valueError "path escapes sandbox root") ∧
      (listBox "a\uffff").1 =
        .error (.valueError "'utf-8' codec can't encode: surrogates not allowed") := by
  have hfiles : ∀ n, (Timing.still (1 : ℚ) (filesOf boxDrive)).files n = filesOf boxDrive :=
    fun _ => rfl
  have hdone := fun (rel : String) (hnul : '\x00' ∉ rel.toList) =>
    (list_files_confined Py.sample (.still (1 : ℚ) (filesOf boxDrive))
      (s := ⟨0, World.init (0 : ℚ) (filesOf boxDrive)⟩) boxCelld.sandboxd "s" boxToken
      hfiles boxToken_accepted hnul).2
  have hends : boxTree.Resolves [] (joinPath ["srv", "box"] "../box/.") ["srv", "box"] :=
    (resolves_joinPath canonical_box _).mpr
      (.up (.enter (by decide) rfl (.stay (.inr rfl) (.done _))))
  have hbeside : boxTree.Resolves [] (joinPath ["srv", "box"] "../box2") ["srv", "box2"] :=
    (resolves_joinPath canonical_box _).mpr (.up (.enter (by decide) rfl (.done _)))
  have hlink : boxTree.readlink (["srv", "box"] ++ ["up"]) = some ".." := rfl
  have hleaves : boxTree.Resolves [] (joinPath ["srv", "box"] "up") ["srv"] :=
    (resolves_joinPath canonical_box _).mpr (.follow (by decide) hlink (.up (.done _)) (.done _))
  have hlone : boxTree.Resolves [] (joinPath ["srv", "box"] "a\uffff") ["srv", "box", "a\uffff"] :=
    (resolves_joinPath canonical_box _).mpr (.enter (by decide) rfl (.done _))
  have hshort := boxDrive.not_tooLong canonical_box rfl
  have hnone : ¬ boxLimits.Encodes "a\uffff" := by
    rw [encodes_boxLimits]
    decide +kernel
  have hnul : ∀ rel ∈ ["../box/.", "../box2", "up", "a\uffff"], '\x00' ∉ rel.toList := by
    decide +kernel
  have hencodes : ∀ rel ∈ ["../box/.", "../box2", "up"], boxLimits.Encodes rel := by
    simp only [encodes_boxLimits]
    decide +kernel
  have hout : ¬ ["srv", "box"] <+: ["srv", "box2"] ∧ ¬ ["srv", "box"] <+: ["srv"] := by
    decide +kernel
  exact ⟨((hdone _ (hnul _ (by simp)) _ hends).2.2 (hencodes _ (by simp))).2.2
      (List.prefix_refl _) hshort,
    ((hdone _ (hnul _ (by simp)) _ hbeside).2.2 (hencodes _ (by simp))).1 hout.1,
    ((hdone _ (hnul _ (by simp)) _ hleaves).2.2 (hencodes _ (by simp))).1 hout.2,
    (hdone _ (hnul _ (by simp)) _ hlone).2.1 hnone⟩

/-- A name of 256 bytes. -/
def longName : String := String.ofList (List.replicate 256 'a')

theorem toList_longName : longName.toList = List.replicate 256 'a' := String.toList_ofList

theorem not_mem_longName {c : Char} (hc : c ≠ 'a') : c ∉ longName.toList := by
  rw [toList_longName]
  exact fun h => hc (List.eq_of_mem_replicate h)

theorem longName_ne {name : String} (hshort : name.toList.length < 256) : longName ≠ name := by
  rintro rfl
  rw [toList_longName, List.length_replicate] at hshort
  exact lt_irrefl _ hshort

theorem encodes_longName : boxLimits.Encodes longName :=
  encodes_boxLimits.mpr (not_mem_longName (by decide))

theorem bytes_longName : boxLimits.bytes longName = 256 := by
  unfold PathLimits.bytes
  rw [toList_longName, List.map_replicate, List.sum_replicate]
  rfl

theorem lstat_box (name : String) : boxTree.lstat ["srv", "box", name] =
    (boxEntries.lookup name).bind fun tree => tree.lstat [] := rfl

theorem lstat_longName : boxTree.lstat ["srv", "box", longName] = none := by
  have hshort : ∀ entry ∈ boxEntries, entry.1.toList.length < 256 := by decide
  have hmissing : boxEntries.lookup longName = none :=
    List.lookup_eq_none_iff.mpr fun entry hentry => bne_iff_ne.mpr (longName_ne (hshort _ hentry))
  rw [lstat_box, hmissing]
  rfl

/-- A name that is too long ends inside the root, where nothing is, and is not
answered by an empty list: `Path.is_dir` raises. -/
theorem long_name_raises :
    '\x00' ∉ longName.toList ∧ boxTree.Acyclic ∧
      boxTree.Resolves [] (joinPath ["srv", "box"] longName) ["srv", "box", longName] ∧
      ["srv", "box"] <+: ["srv", "box", longName] ∧
      entryNames boxTree ["srv", "box", longName] = [] ∧
      (listBox longName).1 = .error (.osError "File name too long") := by
  have hnul : '\x00' ∉ longName.toList := not_mem_longName (by decide)
  have hname : '/' ∉ longName.toList := not_mem_longName (by decide)
  have hproper : Data.ProperName longName :=
    ⟨longName_ne (by decide), longName_ne (by decide), longName_ne (by decide)⟩
  have hlink : boxTree.readlink (["srv", "box"] ++ [longName]) = none := by
    unfold FileTree.readlink
    rw [List.cons_append, List.cons_append, List.nil_append, lstat_longName]
  have hnames : entryNames boxTree ["srv", "box", longName] = [] := by
    unfold entryNames
    rw [lstat_longName]
  have hends : boxTree.Resolves [] (joinPath ["srv", "box"] longName)
      ["srv", "box", longName] := by
    rw [resolves_joinPath canonical_box, Data.base_of_name hname, Data.components_of_name hname]
    exact .enter hproper hlink (.done _)
  have hlong : boxTree.TooLong boxLimits ["srv", "box", longName] := by
    refine .inr ⟨["srv", "box"], longName, [], _, rfl, rfl, ?_⟩
    rw [bytes_longName]
    decide
  have hresolve : (filesOf boxDrive).resolve boxCelld.sandboxd.root longName =
      .ok ["srv", "box", longName] := filesOf_resolve hnul encodes_longName hends
  have hinside : boxCelld.sandboxd.root <+: ["srv", "box", longName] := ⟨[longName], rfl⟩
  have hraises : Sandboxd.listFiles (filesOf boxDrive) boxCelld.sandboxd.root longName =
      .error (.osError "File name too long") :=
    listFiles_tooLong hresolve (canonical_target hends) hinside hlong
  exact ⟨hnul, acyclic_boxTree, hends, hinside, hnames,
    ((executeTool_listFiles_run Py.sample (.still (1 : ℚ) (filesOf boxDrive)) boxCelld.sandboxd
      "s" boxToken (fun _ => rfl) boxToken_accepted longName).1 _ hraises).1⟩

end Nadi
