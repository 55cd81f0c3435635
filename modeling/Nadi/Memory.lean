import Nadi.Effect.Outcomes
import Nadi.Model.Encoding
import Nadi.Model.Statements

/-!
# The memory of a resource is a register

`get_resource_memory` gives what the last `set_resource_memory` of that resource
was given, whatever else is called in between and with what arguments; and `{}`
if there was none (`memory_register`). A call that raises leaves the memory as it
was: its value is not JSON, or over the limit, or an argument cannot be bound, or
the platform is None.
-/

namespace Nadi

open Effect Data.Sql

variable {T : Type} [Field T] [LinearOrder T]

/-! ## The register -/

/-- The key and the text that `set_resource_memory` writes, if it does not raise. -/
def Sqlite.memoryWritten (sq : Sqlite T) (resourceId memory platform : Arg T) :
    Option (Value T × String) :=
  match sq.bind resourceId, sq.bind platform, sq.json memory with
  | .ok v, .ok w, .ok blob =>
    if (sq.coerce .text w).isNull = false ∧ blob.utf8ByteSize ≤ Database.maxMemoryBytes then
      some (sq.coerce .text v, blob)
    else none
  | _, _, _ => none

/-- What a call writes as the memory of a resource. -/
def StoreMethod.remembered (sq : Sqlite T) (id : String) : StoreMethod T → Option String
  | .setResourceMemory resourceId memory platform =>
    (sq.memoryWritten resourceId memory platform).bind fun written =>
      if written.1 = .text id then some written.2 else none
  | _ => none

/-- What the last of some calls writes. -/
def lastRemembered (sq : Sqlite T) (id : String) (calls : List (Readings T × StoreMethod T)) :
    Option String :=
  calls.foldl (fun kept call => (call.2.remembered sq id).or kept) none

/-- The memory that was written, as it is read. -/
def Sqlite.recall (sq : Sqlite T) : Option String → Arg T
  | none => .dict
  | some blob =>
    match sq.loads blob with
    | .ok memory => memory
    | .error _ => .dict

/-! ## The table -/

section Table

variable {sq : Sqlite T} (k : sq.Codec) {id : String} {d : Db T}

variable (sq id) in
/-- The rows of a resource. -/
def resourceRows (d : Db T) : List (Row T) :=
  (d .resources).rows.filter (sq.engine.equals .resources "resource_id" (.text id))

variable (sq id) in
/-- The table holds what was written, once. -/
def Remembers (kept : Option String) (d : Db T) : Prop :=
  (resourceRows sq id d).map (fun row => row "memory") = kept.toList.map Value.text

theorem Remembers.congr {kept : Option String} (h : Remembers sq id kept d) {d' : Db T}
    (hsame : d' .resources = d .resources) : Remembers sq id kept d' := by
  unfold Remembers resourceRows at *
  rw [hsame]
  exact h

theorem same_text_iff {v : Value T} {s : String} :
    v.same (.text s) = true ↔ v = .text s := by
  cases v <;> simp [Value.same]

include k in
theorem equals_resource {row : Row T} :
    sq.engine.equals .resources "resource_id" (.text id) row = true ↔
      row "resource_id" = .text id := by
  unfold Engine.equals
  have hstored : sq.engine.stored .resources "resource_id" (.text id) = .text id := k.coerce_text id
  rw [hstored]
  exact same_text_iff

/-- The row that a call would write. -/
def memoryRow (sq : Sqlite T) (v w : Value T) (blob : String) (t : T) : Row T :=
  sq.engine.row .resources ["resource_id", "platform", "memory", "created_at", "updated_at"]
    fun n => [v, w, .text blob, .real t, .real t].getD n default

include k in
theorem memoryRow_memory (v w : Value T) (blob : String) (t : T) :
    memoryRow sq v w blob t "memory" = .text blob := k.coerce_text blob

include k in
/-- The platform is the only column that can be missing. -/
theorem filled_memoryRow {v w : Value T} {blob : String} {t : T} :
    sq.engine.Filled .resources (memoryRow sq v w blob t) ↔ (sq.coerce .text w).isNull = false := by
  have hreal : sq.coerce .real (.real t) ≠ .null := by rw [k.coerce_real]; exact nofun
  have htext : sq.coerce .text (.text blob) ≠ .null := by rw [k.coerce_text]; exact nofun
  rw [Bool.eq_false_iff, ne_eq, Value.isNull_iff]
  constructor
  · intro h
    exact h (required "platform" .text) (by simp [Sqlite.engine, TableName.schema]) rfl
  · intro h c hc hnotNull
    simp only [Sqlite.engine, TableName.schema, List.mem_cons, List.not_mem_nil, or_false] at hc
    rcases hc with rfl | rfl | rfl | rfl | rfl
    · cases hnotNull
    · exact h
    · exact htext
    · exact hreal
    · exact hreal

/-- What a row is changed to when its resource is written again. -/
def memorySets (row : Row T) : Engine.Changes T :=
  ["memory", "updated_at"].map fun c => (c, fun _ => row c)

include k in
theorem changed_memory (v w : Value T) (blob : String) (t : T) (old : Row T) :
    sq.engine.changed .resources (memorySets (memoryRow sq v w blob t)) old "memory" =
      .text blob := by
  show sq.coerce .text (memoryRow sq v w blob t "memory") = .text blob
  rw [memoryRow_memory k, k.coerce_text]

theorem clash_resource (row old : Row T) :
    Engine.clash ["resource_id"] row old = (row "resource_id").same (old "resource_id") :=
  Bool.and_true _

/-- A row is of the resource that is written if it is there, and not otherwise. -/
theorem clash_memoryRow {v w : Value T} {blob : String} {t : T} {old : Row T}
    (hold : old "resource_id" = .text id) :
    Engine.clash ["resource_id"] (memoryRow sq v w blob t) old = true ↔
      sq.coerce .text v = .text id := by
  have hrow : memoryRow sq v w blob t "resource_id" = sq.coerce .text v := rfl
  rw [clash_resource, hold, same_text_iff, hrow]

include k in
/-- No value that is written is missing. -/
theorem keeps_memorySets (v w : Value T) (blob : String) (t : T) (p : Row T → Bool) :
    sq.engine.Keeps .resources d (memorySets (memoryRow sq v w blob t)) p := by
  intro old _ _ c hc hnotNull hset
  simp only [Sqlite.engine, TableName.schema, List.mem_cons, List.not_mem_nil, or_false] at hc
  rcases hc with rfl | rfl | rfl | rfl | rfl
  · cases hnotNull
  · cases hset
  · show sq.engine.changed .resources (memorySets _) old "memory" ≠ .null
    rw [changed_memory k]
    exact nofun
  · cases hset
  · show sq.coerce .real (sq.coerce .real (.real t)) ≠ .null
    rw [k.coerce_real, k.coerce_real]
    exact nofun

include k in
/-- A resource that is there is overwritten. -/
theorem remembers_update {kept : Option String} (h : Remembers sq id kept d) {v w : Value T}
    {blob : String} {t : T}
    (hany : (d .resources).rows.any (fun old =>
      Engine.clash ["resource_id"] (memoryRow sq v w blob t) old) = true) :
    ∃ d', sq.engine.update .resources d (memorySets (memoryRow sq v w blob t))
        (fun old => Engine.clash ["resource_id"] (memoryRow sq v w blob t) old) = .ok d' ∧
      Remembers sq id (if sq.coerce .text v = .text id then some blob else kept) d' := by
  set row := memoryRow sq v w blob t with hrow
  rw [Engine.update_eq (keeps_memorySets k v w blob t _)]
  refine ⟨_, rfl, ?_⟩
  set change : Row T → Row T := fun old =>
    if Engine.clash ["resource_id"] row old then
      sq.engine.changed .resources (memorySets row) old else old with hchange
  have hsame : ∀ old, change old "resource_id" = old "resource_id" := by
    intro old
    rw [hchange]
    dsimp only
    split <;> rfl
  have hrows : resourceRows sq id (Function.update d .resources
      ⟨(d .resources).rows.map change, (d .resources).last⟩) =
        (resourceRows sq id d).map change := by
    unfold resourceRows
    rw [Function.update_self, List.filter_map]
    refine congrArg (List.map change) (List.filter_congr fun old _ => ?_)
    rw [Bool.eq_iff_iff]
    show sq.engine.equals _ _ _ (change old) = true ↔ _
    rw [equals_resource k, equals_resource k, hsame]
  have hmine : ∀ old ∈ resourceRows sq id d, old "resource_id" = .text id :=
    fun old hold => (equals_resource k).mp (List.mem_filter.mp hold).2
  unfold Remembers at h ⊢
  rw [hrows, List.map_map]
  split
  · rename_i hv
    -- the row that is there is one of this resource, and there is no other
    have hone : ∀ old ∈ resourceRows sq id d,
        ((fun row => row "memory") ∘ change) old = .text blob := by
      intro old hold
      show change old "memory" = _
      rw [hchange]
      dsimp only
      rw [if_pos ((clash_memoryRow (hmine old hold)).mpr hv), changed_memory k]
    obtain ⟨old, hold, hthere⟩ := List.any_eq_true.mp hany
    have hid : row "resource_id" = .text id := hv
    rw [clash_resource, Value.same_comm, hid, same_text_iff] at hthere
    have hmem : old ∈ resourceRows sq id d :=
      List.mem_filter.mpr ⟨hold, (equals_resource k).mpr hthere⟩
    have hlength := congrArg List.length h
    rw [List.length_map, List.length_map] at hlength
    rw [List.map_congr_left hone]
    cases kept with
    | none => exact absurd (List.length_eq_zero_iff.mp hlength ▸ hmem) List.not_mem_nil
    | some text =>
      obtain ⟨only, honly⟩ := List.length_eq_one_iff.mp hlength
      rw [honly]
      rfl
  · -- the rows of this resource are not among those that change
    rename_i hv
    rw [← h]
    refine List.map_congr_left fun old hold => ?_
    show change old "memory" = _
    rw [hchange]
    dsimp only
    rw [if_neg fun hc => hv ((clash_memoryRow (hmine old hold)).mp hc)]

include k in
/-- A resource that is not there is added. -/
theorem remembers_insert {kept : Option String} (h : Remembers sq id kept d) {v w : Value T}
    {blob : String} {t : T} (hw : (sq.coerce .text w).isNull = false)
    (hany : ¬ (d .resources).rows.any (fun old =>
      Engine.clash ["resource_id"] (memoryRow sq v w blob t) old) = true) :
    ∃ d', sq.engine.insert .resources (memoryRow sq v w blob t) d = .ok d' ∧
      Remembers sq id (if sq.coerce .text v = .text id then some blob else kept) d' := by
  set row := memoryRow sq v w blob t with hrow
  have hfree : sq.engine.Free .resources row (d .resources).rows := by
    intro key hkey old hold
    obtain rfl : key = ["resource_id"] := List.mem_singleton.mp hkey
    exact Bool.eq_false_iff.mpr fun hc => hany (List.any_eq_true.mpr ⟨old, hold, hc⟩)
  have hrefers : sq.engine.Refers .resources row d := fun f hf => nomatch hf
  rw [Engine.insert_eq ((filled_memoryRow k).mpr hw) hfree, Engine.putReferring_eq hrefers]
  refine ⟨_, rfl, ?_⟩
  have hput : (sq.engine.put .resources row d .resources).rows = (d .resources).rows ++ [row] := by
    show (Function.update d _ _ TableName.resources).rows = _
    rw [Function.update_self]
    rfl
  unfold Remembers resourceRows at h ⊢
  rw [hput, List.filter_append, List.map_append, h]
  split
  · rename_i hv
    have hnone : kept = none := by
      cases kept with
      | none => rfl
      | some text =>
        have hne : (d .resources).rows.filter
            (sq.engine.equals .resources "resource_id" (.text id)) ≠ [] := by
          intro hnil
          rw [hnil] at h
          cases h
        obtain ⟨old, hold⟩ := List.exists_mem_of_ne_nil _ hne
        obtain ⟨hmem, hmine⟩ := List.mem_filter.mp hold
        exact absurd (List.any_eq_true.mpr
          ⟨old, hmem, (clash_memoryRow ((equals_resource k).mp hmine)).mpr hv⟩) hany
    rw [hnone, List.filter_cons_of_pos ((equals_resource k).mpr hv)]
    show [row "memory"] = [_]
    rw [hrow, memoryRow_memory k]
  · rename_i hv
    rw [List.filter_cons_of_neg fun hc => hv ((equals_resource k).mp hc)]
    exact List.append_nil _

include k in
/-- **The upsert** writes its resource, and leaves the others as they were. -/
theorem remembers_upsert {kept : Option String} (h : Remembers sq id kept d) {w : Value T}
    (hw : (sq.coerce .text w).isNull = false) (v : Value T) (blob : String) (t : T) :
    ∃ d', sq.engine.upsert .resources (memoryRow sq v w blob t) d ["resource_id"]
        (memorySets (memoryRow sq v w blob t)) = .ok d' ∧
      Remembers sq id (if sq.coerce .text v = .text id then some blob else kept) d' := by
  unfold Engine.upsert
  rw [(sq.engine.missing_eq_none .resources).mpr ((filled_memoryRow k).mpr hw)]
  dsimp only
  split
  · rename_i hany
    exact remembers_update k h hany
  · rename_i hany
    exact remembers_insert k h hw hany

end Table

/-! ## Calls -/

section Calls

variable {sq : Sqlite T} (k : sq.Codec) {id : String}

omit [Field T] [LinearOrder T] in
/-- No other method writes to the table. -/
theorem StoreMethod.Issues.table_ne {m : Readings T} {method : StoreMethod T}
    {statement : Statement T} (h : method.Issues m statement)
    (hother : ∀ resourceId memory platform, method ≠ .setResourceMemory resourceId memory platform) :
    statement.table ≠ .resources := by
  cases method with
  | createSession | audit | enqueueCommand | getOrCreateChannel =>
    obtain ⟨_, rfl⟩ := h
    exact nofun
  | appendEvent =>
    obtain ⟨_, _, rfl⟩ := h
    exact nofun
  | updateSessionStatus | claimPendingCommands | completeCommand | revokeToken | isTokenRevoked =>
    obtain rfl := h
    exact nofun
  | upsertCellHost | upsertSandboxHost =>
    obtain ⟨_, rfl | rfl⟩ := h
    · exact nofun
    · exact nofun
  | heartbeatHost =>
    obtain ⟨tab, htab, rfl⟩ := h
    rcases Database.hostTable_cases htab with rfl | rfl
    · exact nofun
    · exact nofun
  | createLease =>
    obtain ⟨_, rfl⟩ | rfl := h
    · exact nofun
    · exact nofun
  | setResourceMemory => exact absurd rfl (hother _ _ _)
  | getSession | getEvents | chooseCellHost | getRoute | auditEntries | getChannel
  | getResourceMemory => exact h.elim

/-- Other methods leave what is remembered. -/
theorem Remembers.call {kept : Option String} {c : Connection (Db T)}
    (h : Remembers sq id kept c.seen) (m : Readings T) (method : StoreMethod T)
    (hother : ∀ resourceId memory platform, method ≠ .setResourceMemory resourceId memory platform) :
    Remembers sq id kept ((method.code sq m).run (SqlCall.exec sq.bind) c).2.seen := by
  refine SqlCall.sustained_seen (method.whole sq m).within ?_ h
  rintro params change ⟨statement, hissues, -, rfl⟩ p d n d' hchange hd
  exact hd.congr (sq.change_of_ne hchange (hissues.table_ne hother).symm)

include k in
/-- The parameters of the upsert. -/
theorem bound_upsertMemory {resourceId platform : Arg T} {v w : Value T}
    (hv : sq.bind resourceId = .ok v) (hw : sq.bind platform = .ok w) (blob : String) (t : T) :
    SqlCall.bound sq.bind [resourceId, platform, .str blob, .float t, .float t] =
      .ok fun n => [v, w, .text blob, .real t, .real t].getD n default :=
  SqlCall.bound_eq sq.bind
    (.cons hv (.cons hw (.cons (k.bind_plain rfl) (.cons rfl (.cons rfl .nil)))))

/-- A program that writes the memory, with its limit. -/
theorem setResourceMemory_eq (m : Readings T) {resourceId memory platform : Arg T} {blob : String}
    (hjson : sq.json memory = .ok blob) (hsize : blob.utf8ByteSize ≤ Database.maxMemoryBytes) :
    Database.setResourceMemory sq m resourceId memory platform =
      (sq.execute (Database.upsertMemory m resourceId platform blob)).bind fun _ =>
        SqlCall.issue .commit := by
  unfold Database.setResourceMemory
  simp only [Prog.bind_eq]
  rw [hjson]
  exact if_neg (Nat.not_lt.mpr hsize)

include k in
/-- A call that raises, before it executes its statement or in it, writes nothing. -/
theorem setResourceMemory_error (m : Readings T) {resourceId memory platform : Arg T}
    (h : sq.memoryWritten resourceId memory platform = none) (c : Connection (Db T)) :
    ∃ e, SqlCall.Ends sq.bind (Database.setResourceMemory sq m resourceId memory platform) c
      (.error e) c.seen := by
  unfold Sqlite.memoryWritten at h
  cases hjson : sq.json memory with
  | error e =>
    refine ⟨e, ?_⟩
    unfold Database.setResourceMemory
    simp only [Prog.bind_eq]
    rw [hjson]
    exact SqlCall.ends_throw
  | ok blob =>
    by_cases hsize : Database.maxMemoryBytes < blob.utf8ByteSize
    · refine ⟨.valueError ("memory blob exceeds " ++ toString Database.maxMemoryBytes ++ " bytes"), ?_⟩
      unfold Database.setResourceMemory
      simp only [Prog.bind_eq]
      rw [hjson]
      refine SqlCall.ends_value rfl ?_
      rw [if_pos hsize]
      exact SqlCall.ends_throw
    rw [setResourceMemory_eq m hjson (Nat.not_lt.mp hsize)]
    -- the statement is not executed, or it is refused
    cases hv : sq.bind resourceId with
    | error e =>
      refine ⟨e, SqlCall.ends_unbound ?_⟩
      show ([resourceId, _, _, _, _].mapM sq.bind).map _ = _
      rw [List.mapM_cons, hv]
      rfl
    | ok v =>
      cases hw : sq.bind platform with
      | error e =>
        refine ⟨e, SqlCall.ends_unbound ?_⟩
        show ([resourceId, platform, _, _, _].mapM sq.bind).map _ = _
        rw [List.mapM_cons, hv, List.mapM_cons, hw]
        rfl
      | ok w =>
        rw [hv, hw, hjson] at h
        have hnull : ¬ (sq.coerce .text w).isNull = false := by
          intro hw
          dsimp only at h
          rw [if_pos ⟨hw, Nat.not_lt.mp hsize⟩] at h
          cases h
        cases hmissing : sq.engine.missing .resources (memoryRow sq v w blob (m.now 0)) with
        | none =>
          exact absurd ((filled_memoryRow k).mp ((sq.engine.missing_eq_none _).mp hmissing)) hnull
        | some column =>
          refine ⟨integrityError .resources (.notNull column.name),
            SqlCall.ends_modify_error (bound_upsertMemory k hv hw blob (m.now 0)) ?_⟩
          show outcome .resources (sq.engine.upsert .resources (memoryRow sq v w blob (m.now 0)) c.seen
            ["resource_id"] (memorySets _)) = _
          unfold Engine.upsert
          rw [hmissing]
          rfl

include k in
/-- The memory of a resource is written. -/
theorem setResourceMemory_ok (m : Readings T) {resourceId memory platform : Arg T} {key : Value T}
    {blob : String} (h : sq.memoryWritten resourceId memory platform = some (key, blob))
    {kept : Option String} {c : Connection (Db T)} (hc : Remembers sq id kept c.seen) :
    ∃ d', SqlCall.Ends sq.bind (Database.setResourceMemory sq m resourceId memory platform) c
        (.ok ()) d' ∧
      Remembers sq id (if key = .text id then some blob else kept) d' := by
  unfold Sqlite.memoryWritten at h
  split at h
  · rename_i v w text hv hw hjson
    split at h
    · rename_i hok
      obtain ⟨rfl, rfl⟩ := Prod.mk.inj (Option.some.inj h)
      obtain ⟨d', hupsert, hd'⟩ := remembers_upsert k hc hok.1 v text (m.now 0)
      refine ⟨d', ?_, hd'⟩
      rw [setResourceMemory_eq m hjson hok.2]
      have hlast : (SqlCall.issue .commit : DbCode T Unit) = (SqlCall.issue .commit).bind .pure :=
        (Prog.bind_pure _).symm
      rw [hlast]
      have hchange : sq.change
          (fun n => [v, w, .text text, .real (m.now 0), .real (m.now 0)].getD n default) c.seen
            (Database.upsertMemory m resourceId platform text) = .ok ((d' .resources).last, d') := by
        show outcome .resources (sq.engine.upsert .resources (memoryRow sq v w text (m.now 0)) c.seen
          ["resource_id"] (memorySets (memoryRow sq v w text (m.now 0)))) = _
        rw [hupsert]
        rfl
      exact SqlCall.ends_save (f := fun _ => .pure ()) (bound_upsertMemory k hv hw text (m.now 0))
        hchange SqlCall.ends_pure
    · cases h
  · cases h

include k in
/-- **One call** writes what it remembers. -/
theorem Remembers.step {kept : Option String} {c : Connection (Db T)}
    (h : Remembers sq id kept c.seen) (m : Readings T) (method : StoreMethod T) :
    Remembers sq id ((method.remembered sq id).or kept)
      ((method.code sq m).run (SqlCall.exec sq.bind) c).2.seen := by
  by_cases hset : ∃ resourceId memory platform,
      method = .setResourceMemory resourceId memory platform
  · obtain ⟨resourceId, memory, platform, rfl⟩ := hset
    show Remembers sq id (((sq.memoryWritten resourceId memory platform).bind _).or kept)
      ((Database.setResourceMemory sq m resourceId memory platform).run _ c).2.seen
    cases hwritten : sq.memoryWritten resourceId memory platform with
    | none =>
      obtain ⟨e, hends⟩ := setResourceMemory_error k m hwritten c
      rw [hends.leaves]
      exact h
    | some written =>
      obtain ⟨d', hends, hd'⟩ := setResourceMemory_ok k m hwritten h
      rw [hends.leaves, Option.bind_some]
      by_cases hkey : written.1 = .text id
      · rw [if_pos hkey] at hd' ⊢
        exact hd'
      · rw [if_neg hkey] at hd' ⊢
        exact hd'
  · have hother : ∀ resourceId memory platform,
        method ≠ .setResourceMemory resourceId memory platform :=
      fun resourceId memory platform heq => hset ⟨resourceId, memory, platform, heq⟩
    have hnone : method.remembered sq id = none := by
      cases method <;> first | rfl | exact absurd rfl (hother _ _ _)
    rw [hnone]
    exact h.call m method hother

include k in
/-- **A read** gives what is remembered. -/
theorem Remembers.get {kept : Option String} {c : Connection (Db T)}
    (h : Remembers sq id kept c.seen) :
    ((Database.getResourceMemory sq (.str id)).run (SqlCall.exec sq.bind) c).1 =
      .ok (sq.recall kept) := by
  have hselect : sq.rowsWhere .resources [("resource_id", .param 0)]
      (fun n => [Value.text id].getD n default) c.seen = resourceRows sq id c.seen := by
    refine List.filter_congr fun row _ => ?_
    exact Bool.and_true _
  unfold Database.getResourceMemory
  refine SqlCall.Ends.gives (d := c.seen)
    (SqlCall.ends_select (k.bound_eq (.cons rfl .nil)) hselect ?_)
  unfold Remembers at h
  cases hrows : resourceRows sq id c.seen with
  | nil =>
    rw [hrows] at h
    cases kept with
    | none => exact SqlCall.ends_pure
    | some blob => cases h
  | cons row rest =>
    rw [hrows] at h
    cases kept with
    | none => cases h
    | some blob =>
      have hmemory : row "memory" = .text blob := (List.cons.inj h).1
      unfold Sqlite.recall
      dsimp only
      rw [hmemory]
      dsimp only
      cases sq.loads blob with
      | ok memory => exact SqlCall.ends_pure
      | error e => exact SqlCall.ends_pure

end Calls

/-- **The memory of a resource is a register.** After any calls, with arguments of any
type, reading it gives what the last of them wrote there, as JSON reads it back; and an
empty dict if none did. -/
theorem memory_register {sq : Sqlite T} (k : sq.Codec) (calls : List (Readings T × StoreMethod T))
    (id : String) :
    ((Database.getResourceMemory sq (.str id)).run (SqlCall.exec sq.bind)
      (SqlCall.runAll sq.bind (fun call => call.2.code sq call.1) calls
        ⟨Database.empty, none⟩)).1 = .ok (sq.recall (lastRemembered sq id calls)) := by
  have hrun : ∀ (calls : List (Readings T × StoreMethod T)) (kept : Option String)
      (c : Connection (Db T)), Remembers sq id kept c.seen →
        Remembers sq id
          (calls.foldl (fun kept call => (call.2.remembered sq id).or kept) kept)
          (SqlCall.runAll sq.bind (fun call => call.2.code sq call.1) calls c).seen := by
    intro calls
    induction calls with
    | nil => exact fun _ _ h => h
    | cons call rest ih => exact fun kept c h => ih _ _ (h.step k call.1 call.2)
  exact (hrun calls none ⟨Database.empty, none⟩ rfl).get k

/-- Writes to two resources; the last one is refused, for its platform is `None`. -/
def memoryCalls : List (Readings ℚ × StoreMethod ℚ) :=
  [(.sample, .setResourceMemory (.str "r") (.object true "one") (.str "slack")),
    (.sample, .setResourceMemory (.str "q") (.object true "other") (.str "slack")),
    (.sample, .setResourceMemory (.str "r") (.object true "two") (.str "discord")),
    (.sample, .isTokenRevoked (.str "token")),
    (.sample, .setResourceMemory (.str "r") (.object true "three") .none)]

/-- What the third call wrote is read. -/
theorem memory_register_sample :
    ((Database.getResourceMemory Sqlite.flags (.str "r")).run (SqlCall.exec Sqlite.flags.bind)
      (SqlCall.runAll Sqlite.flags.bind (fun call => call.2.code Sqlite.flags call.1) memoryCalls
        ⟨Database.empty, none⟩)).1 = .ok (.object true "two") := by
  have hlast : Sqlite.flags.recall (lastRemembered Sqlite.flags "r" memoryCalls) =
      .object true "two" := by decide +kernel
  rw [memory_register .flags memoryCalls "r", hlast]

end Nadi
