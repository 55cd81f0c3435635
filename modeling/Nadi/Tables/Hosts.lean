import Nadi.Model.StoreSpec
import Nadi.Tables.Sessions

/-!
# Hosts, leases and routes in their tables

What the methods of `Store` for hosts and for leases give and leave on a
connection. A host is chosen by two sorts in the database, one after the other,
and by one comparison of both columns in the store.
-/

namespace Nadi

namespace Sqlite.Codec

open Effect Data.Sql SqlCall

variable {T : Type} [Field T] [LinearOrder T] {sq : Sqlite T} (k : sq.Codec) {memories : Table T}
  {st : Store T} {m : Readings T} {c : Connection (Db T)}

/-! ## Hosts that register -/

section Register

/-- A table of hosts: its rows differ in their ids and in their `host_id`. -/
structure HostLayout {tab : TableName} {ρ : Type} (L : Layout sq.engine tab ρ)
    (id host : ρ → String) : Prop where
  keys : (TableName.schema (T := T) tab).keys = [["id"], ["host_id"]]
  foreign : (TableName.schema (T := T) tab).foreign = []
  serial : (TableName.schema (T := T) tab).serial = none
  id_cell : ∀ r, L.cells r "id" = .text (id r)
  host_cell : ∀ r, L.cells r "host_id" = .text (host r)
  stored : ∀ s, sq.engine.stored tab "host_id" (.text s) = .text s

variable {tab : TableName} {ρ : Type} {L : Layout sq.engine tab ρ} {id host : ρ → String}
  {rows : List ρ} {new : ρ} {d : Db T}

/-- A host whose `host_id` is new can only clash in its id. -/
theorem HostLayout.insert (hosts : HostLayout L id host)
    (hrows : (d tab).rows = rows.map L.cells) (hnew : ∀ old ∈ rows, host old ≠ host new) :
    outcome tab (sq.engine.insert tab (L.cells new) d) =
      if ∃ old ∈ rows, id old = id new then .error (uniqueFailed (tab.name ++ "." ++ "id"))
      else .ok ((d tab).last,
        Function.update d tab ⟨rows.map L.cells ++ [L.cells new], (d tab).last⟩) := by
  have hclashId : ∀ old, Engine.clash ["id"] (L.cells new) (L.cells old) = (id new == id old) := by
    intro old
    show ((L.cells new "id").same (L.cells old "id") && true) = _
    rw [hosts.id_cell, hosts.id_cell, Bool.and_true, same_text]
  have hclashHost : ∀ old ∈ rows, Engine.clash ["host_id"] (L.cells new) (L.cells old) = false := by
    intro old hold
    show ((L.cells new "host_id").same (L.cells old "host_id") && true) = _
    rw [hosts.host_cell, hosts.host_cell, Bool.and_true, same_text, beq_eq_false_iff_ne]
    exact (hnew old hold).symm
  split
  · rename_i h
    obtain ⟨old, hold, heq⟩ := h
    have hkey : sq.engine.taken tab (L.cells new) (d tab).rows = some ["id"] := by
      show (TableName.schema (T := T) tab).keys.find? _ = _
      rw [hosts.keys, hrows]
      refine List.find?_cons_of_pos (List.any_eq_true.mpr ⟨_, List.mem_map_of_mem hold, ?_⟩)
      rw [hclashId, beq_iff_eq]
      exact heq.symm
    rw [Engine.insert_eq_unique (L.filled _) hkey]
    rfl
  · rename_i h
    have hfree : sq.engine.Free tab (L.cells new) (d tab).rows := by
      refine (L.free_iff hrows).mpr ?_
      show ∀ key ∈ (TableName.schema (T := T) tab).keys, _
      rw [hosts.keys]
      refine List.forall_mem_cons.mpr ⟨fun old hold => ?_, List.forall_mem_singleton.mpr hclashHost⟩
      rw [hclashId, beq_eq_false_iff_ne]
      exact fun heq => h ⟨old, hold, heq.symm⟩
    have hrefers : sq.engine.Refers tab (L.cells new) d := by
      show ∀ f ∈ (TableName.schema (T := T) tab).foreign, _
      rw [hosts.foreign]
      exact nofun
    rw [L.insert_eq hfree hrefers, outcome_put hosts.serial, hrows]

/-- What is found by its `host_id`. -/
theorem HostLayout.rowsWhere (hosts : HostLayout L id host)
    (hrows : (d tab).rows = rows.map L.cells) (hostId : String) :
    sq.rowsWhere tab [("host_id", .param 0)] (fun n => [Value.text hostId].getD n default) d =
      (rows.filter fun r => host r == hostId).map L.cells := by
  refine L.filter_eq hrows fun r _ => ?_
  show ((L.cells r "host_id").same (sq.engine.stored tab "host_id" (.text hostId)) && true) = _
  rw [hosts.stored, hosts.host_cell, Bool.and_true, same_text]

/-- What an upsert of a host gives, and the store it leaves. `put` is the store with
another table of hosts. -/
def upserted (table : Data.Table ρ id) (put : Data.Table ρ id → Store T) (tab : TableName)
    (host : ρ → String) (hostId : String) (refresh : ρ → ρ) (hrefresh : ∀ r, id (refresh r) = id r)
    (new : ρ) : Except PyErr (String × Store T) :=
  match table.rows.find? fun r => host r == hostId with
  | some existing =>
    .ok (id existing, put (table.update (fun r => host r == hostId) refresh hrefresh))
  | none =>
    match table.insert? new with
    | none => .error (uniqueFailed (tab.name ++ "." ++ "id"))
    | some table => .ok (id new, put table)

/-- **A host that registers** is changed in its table or added to it. -/
theorem upsertHost_ends (hosts : HostLayout L id host) {table : Data.Table ρ id}
    (put : Data.Table ρ id → Store T) (refresh : ρ → ρ) (new : ρ)
    (update insert : String → Statement T)
    (hput : ∀ table', k.encode memories (put table') =
      Function.update (k.encode memories st) tab ⟨table'.rows.map L.cells, 0⟩)
    (hseen : c.seen = k.encode memories st)
    (htable : k.encode memories st tab = ⟨table.rows.map L.cells, 0⟩)
    {hostId : String} {metadata : Json} (hrefresh : ∀ r, id (refresh r) = id r) (hid : id new = m.uuid4)
    (hhost : host new = hostId) {p p' : ℕ → Value T}
    (hbound : bound sq.bind (update (k.text metadata.orEmpty)).values = .ok p)
    (hupdate : sq.change p (k.encode memories st) (update (k.text metadata.orEmpty)) =
      .ok ((k.encode memories st tab).last, Function.update (k.encode memories st) tab
        ⟨(table.rows.map fun r => if host r == hostId then refresh r else r).map L.cells,
          (k.encode memories st tab).last⟩))
    (hbound' : bound sq.bind (insert (k.text metadata.orEmpty)).values = .ok p')
    (hinsert : sq.change p' (k.encode memories st) (insert (k.text metadata.orEmpty)) =
      outcome tab (sq.engine.insert tab (L.cells new) (k.encode memories st))) :
    let r := upserted table put tab host hostId refresh hrefresh new
    Ends sq.bind (Database.upsertHost sq m tab (.str hostId) (k.arg metadata) update insert) c
      (r.map fun x => .str x.1) (k.encode memories (st.kept r)) := by
  have hrows : (k.encode memories st tab).rows = table.rows.map L.cells := by rw [htable]
  have hlast : (k.encode memories st tab).last = 0 := by rw [htable]
  unfold Database.upsertHost
  simp only [Prog.bind_eq, Prog.pure_eq]
  refine ends_select (a := (table.rows.filter fun r => host r == hostId).map L.cells)
    (k.bound_eq (.cons rfl .nil)) ?_ ?_
  · rw [hseen]
    exact hosts.rowsWhere hrows hostId
  have hfind : (table.rows.filter fun r => host r == hostId).head? =
      table.rows.find? fun r => host r == hostId := List.head?_filter
  unfold upserted
  rw [← hfind]
  cases hfound : table.rows.filter fun r => host r == hostId with
  | cons existing rest =>
    -- the host is known: its row is changed
    refine ends_value (k.json_arg metadata) ?_
    refine k.ends_saved (n := 0) Arg.str hseen hbound ?_ ?_
    · rw [hupdate, hlast]
      exact congrArg (fun d => Except.ok (_, d)) (hput (table.update _ refresh hrefresh)).symm
    · rintro x hx
      cases hx
      show Arg.ofValue (L.cells existing "id") = _
      rw [hosts.id_cell]
      rfl
  | nil =>
    -- the host is new: its row is added, unless the id that is drawn is there
    refine ends_value (k.json_arg metadata) ?_
    have hnew : ∀ old ∈ table.rows, host old ≠ host new := by
      intro old hold heq
      exact List.filter_eq_nil_iff.mp hfound old hold (beq_iff_eq.mpr (heq.trans hhost))
    refine k.ends_saved (n := 0) Arg.str hseen hbound' ?_ ?_
    · refine (hinsert.trans (hosts.insert hrows hnew)).trans ?_
      rw [hlast]
      cases htaken : table.insert? new with
      | none =>
        obtain ⟨old, hold, heq⟩ := Data.Table.insert?_eq_none.mp htaken
        exact if_pos ⟨old, hold, heq⟩
      | some table' =>
        obtain ⟨hfree, hrows'⟩ := Data.Table.insert?_eq_some.mp htaken
        rw [if_neg fun ⟨old, hold, heq⟩ => hfree old hold heq]
        refine congrArg (fun d => Except.ok (0, d)) (Eq.trans ?_ (hput table').symm)
        rw [hrows', List.map_append]
        rfl
    · rintro ⟨x, st'⟩ hx
      dsimp only [List.head?_nil] at hx
      split at hx
      · cases hx
      · cases hx
        rw [hid]

end Register

/-! ## The two kinds of hosts -/

section Kinds

variable (hostId zone address : String) (capacityTotal : Int) (metadata : Json)

include k in
theorem cellHosts_layout : HostLayout k.hosts CellHostRow.id CellHostRow.hostId :=
  ⟨rfl, rfl, rfl, fun _ => rfl, fun _ => rfl, fun s => k.coerce_text s⟩

include k in
theorem sandboxHosts_layout : HostLayout k.sandboxes SandboxHostRow.id SandboxHostRow.hostId :=
  ⟨rfl, rfl, rfl, fun _ => rfl, fun _ => rfl, fun s => k.coerce_text s⟩

omit [Field T] [LinearOrder T] in
theorem upsertCellHost_eq (t : T) (cid : String) :
    st.upsertCellHost t cid hostId zone address capacityTotal metadata =
      upserted st.cellHosts (fun cellHosts => { st with cellHosts }) .cellHosts
        CellHostRow.hostId hostId (Store.refreshCellHost t zone address capacityTotal metadata)
        (fun _ => rfl) (Store.newCellHost t cid hostId zone address capacityTotal metadata) := by
  unfold Store.upsertCellHost upserted
  cases st.cellHosts.rows.find? fun h => h.hostId == hostId with
  | some existing => rfl
  | none =>
    dsimp only
    cases st.cellHosts.insert? _ <;> rfl

/-- A sandbox host as it registers, and as it registers again. -/
def newSandboxHost (t : T) (sid : String) : SandboxHostRow T :=
  { id := sid, hostId, zone, address, status := .ready, lastHeartbeatAt := some t,
    metadata := metadata.orEmpty, createdAt := t, updatedAt := t }

def refreshSandboxHost (t : T) (h : SandboxHostRow T) : SandboxHostRow T :=
  { h with
    zone, address, status := .ready, lastHeartbeatAt := some t, metadata := metadata.orEmpty,
    updatedAt := t }

omit [Field T] [LinearOrder T] in
theorem upsertSandboxHost_eq (t : T) (sid : String) :
    st.upsertSandboxHost t sid hostId zone address metadata =
      upserted st.sandboxHosts (fun sandboxHosts => { st with sandboxHosts }) .sandboxHosts
        SandboxHostRow.hostId hostId (refreshSandboxHost zone address metadata t) (fun _ => rfl)
        (newSandboxHost hostId zone address metadata t sid) := by
  unfold Store.upsertSandboxHost upserted
  cases st.sandboxHosts.rows.find? fun h => h.hostId == hostId with
  | some existing => rfl
  | none =>
    unfold newSandboxHost
    dsimp only
    cases st.sandboxHosts.insert? _ <;> rfl

theorem upsertCellHost_ends (hseen : c.seen = k.encode memories st)
    (hcapacity : Fits64 capacityTotal) :
    let r := st.upsertCellHost (m.now 0) m.uuid4 hostId zone address capacityTotal metadata
    Ends sq.bind (Database.upsertCellHost sq m (.str hostId) (.str zone) (.str address)
      (.int capacityTotal) (k.arg metadata)) c (r.map fun x => .str x.1)
      (k.encode memories (st.kept r)) := by
  rw [upsertCellHost_eq]
  refine k.upsertHost_ends k.cellHosts_layout (fun cellHosts => { st with cellHosts })
    (Store.refreshCellHost (m.now 0) zone address capacityTotal metadata)
    (Store.newCellHost (m.now 0) m.uuid4 hostId zone address capacityTotal metadata)
    (Database.updateCellHost m (.str hostId) (.str zone) (.str address) (.int capacityTotal))
    (Database.insertCellHost m (.str hostId) (.str zone) (.str address) (.int capacityTotal))
    k.encode_cellHosts hseen rfl (fun _ => rfl) rfl rfl
    (k.bound_eq (.cons rfl (.cons rfl (.cons (Arg.plain_int hcapacity) (.cons rfl (.cons rfl (.cons
      rfl (.cons rfl .nil)))))))) ?_
    (k.bound_eq (.cons rfl (.cons rfl (.cons rfl (.cons rfl (.cons (Arg.plain_int hcapacity) (.cons
      rfl (.cons rfl (.cons rfl (.cons rfl (.cons rfl (.cons rfl .nil)))))))))))) ?_
  · refine change_update k.hosts _ _ rfl (fun h _ => ?_) fun h _ _ => ?_
    · show (Value.same _ (sq.coerce .text (.text hostId)) && true) = _
      rw [k.coerce_text, Bool.and_true]
      rfl
    · exact ⟨rfl, rfl, k.coerce_text _, k.coerce_text _, k.coerce_integer _ hcapacity, rfl,
        k.coerce_text _, k.coerce_real _, k.coerce_text _, rfl, k.coerce_real _⟩
  · refine change_insert k.hosts ?_
    exact ⟨k.coerce_text _, k.coerce_text _, k.coerce_text _, k.coerce_text _,
      k.coerce_integer _ hcapacity, k.coerce_integer 0 (by decide), k.coerce_text _,
      k.coerce_real _, k.coerce_text _, k.coerce_real _, k.coerce_real _⟩

theorem upsertSandboxHost_ends (hseen : c.seen = k.encode memories st) :
    let r := st.upsertSandboxHost (m.now 0) m.uuid4 hostId zone address metadata
    Ends sq.bind (Database.upsertSandboxHost sq m (.str hostId) (.str zone) (.str address)
      (k.arg metadata)) c (r.map fun x => .str x.1) (k.encode memories (st.kept r)) := by
  rw [upsertSandboxHost_eq]
  refine k.upsertHost_ends k.sandboxHosts_layout (fun sandboxHosts => { st with sandboxHosts })
    (refreshSandboxHost zone address metadata (m.now 0))
    (newSandboxHost hostId zone address metadata (m.now 0) m.uuid4)
    (Database.updateSandboxHost m (.str hostId) (.str zone) (.str address))
    (Database.insertSandboxHost m (.str hostId) (.str zone) (.str address))
    k.encode_sandboxHosts hseen rfl (fun _ => rfl) rfl rfl
    (k.bound_eq (.cons rfl (.cons rfl (.cons rfl (.cons rfl (.cons rfl (.cons rfl .nil))))))) ?_
    (k.bound_eq (.cons rfl (.cons rfl (.cons rfl (.cons rfl (.cons rfl (.cons rfl (.cons rfl
      (.cons rfl (.cons rfl .nil)))))))))) ?_
  · refine change_update k.sandboxes _ _ rfl (fun h _ => ?_) fun h _ _ => ?_
    · show (Value.same _ (sq.coerce .text (.text hostId)) && true) = _
      rw [k.coerce_text, Bool.and_true]
      rfl
    · exact ⟨rfl, rfl, k.coerce_text _, k.coerce_text _, k.coerce_text _, k.coerce_real _,
        k.coerce_text _, rfl, k.coerce_real _⟩
  · refine change_insert k.sandboxes ?_
    exact ⟨k.coerce_text _, k.coerce_text _, k.coerce_text _, k.coerce_text _,
      k.coerce_text _, k.coerce_real _, k.coerce_text _, k.coerce_real _, k.coerce_real _⟩

end Kinds

/-! ## The choice of a host -/

section Choice

/-- The hosts with a free slot, by the time of their registration and then by the
slots that are used. -/
theorem ordered_hosts :
    orderBy "capacity_used" (orderBy "created_at"
        ((k.encode memories st .cellHosts).rows.filter fun row =>
          sq.engine.equals .cellHosts "status" (.text "ready") row &&
            (row "capacity_used").less (row "capacity_total"))) =
      (((st.cellHosts.select Store.hasCapacity).insertionSort fun a b =>
        a.createdAt ≤ b.createdAt).insertionSort fun a b =>
          a.capacityUsed ≤ b.capacityUsed).map k.hosts.cells := by
  have hready : (k.encode memories st .cellHosts).rows.filter (fun row =>
      sq.engine.equals .cellHosts "status" (.text "ready") row &&
        (row "capacity_used").less (row "capacity_total")) =
      (st.cellHosts.select Store.hasCapacity).map k.hosts.cells := by
    refine k.hosts.filter_eq rfl fun h _ => ?_
    show ((Value.text h.status.text).same (sq.coerce .text (.text HostStatus.ready.text)) && _) = _
    rw [k.coerce_text, same_text]
    refine congrArg₂ (· && ·) ?_ rfl
    rw [Bool.eq_iff_iff, beq_iff_eq, beq_iff_eq, HostStatus.text_inj]
  have hcreated : ∀ hosts : List (CellHostRow T),
      orderBy "created_at" (hosts.map k.hosts.cells) =
        (hosts.insertionSort fun a b => a.createdAt ≤ b.createdAt).map k.hosts.cells := by
    refine orderBy_eq k.hosts (f := CellHostRow.createdAt) ?_
    exact fun a b => upTo_real _ _
  rw [hready, hcreated]
  refine orderBy_eq k.hosts (f := CellHostRow.capacityUsed) ?_ _
  exact fun a b => upTo_int _ _

theorem chooseCellHost_ends (hseen : c.seen = k.encode memories st) :
    Ends sq.bind (Database.chooseCellHost sq) c (st.chooseCellHost.map k.hostRecord)
      (k.encode memories st) := by
  unfold Database.chooseCellHost
  simp only [Prog.bind_eq]
  set sorted := ((st.cellHosts.select Store.hasCapacity).insertionSort fun a b =>
    a.createdAt ≤ b.createdAt).insertionSort fun a b => a.capacityUsed ≤ b.capacityUsed with hsorted
  have hfirst : sorted.head? =
      ((st.cellHosts.select Store.hasCapacity).insertionSort Store.hostLe).head? :=
    Data.Sorting.head?_insertionSort_lex _
  refine ends_select (a := sorted.map k.hosts.cells) (k.bound_eq .nil) ?_ ?_
  · rw [hseen]
    exact k.ordered_hosts
  unfold Store.chooseCellHost
  rw [← hfirst, ← hseen]
  cases sorted with
  | nil => exact ends_throw
  | cons h rest =>
    show Ends sq.bind (Prog.ofExcept (sq.record (h.cells k.text))) c _ _
    rw [k.record_host]
    exact ends_ofExcept

end Choice

/-! ## Leases -/

section Leases

variable (memories) in
theorem exists_host (id : String) :
    (∃ parent ∈ (k.encode memories st .cellHosts).rows,
      (Value.text id : Value T).same (parent "id") = true) ↔ (st.cellHosts.find? id).isSome := by
  have hrows : (k.encode memories st .cellHosts).rows = st.cellHosts.rows.map k.hosts.cells := rfl
  rw [Data.Table.find?_isSome, hrows]
  constructor
  · rintro ⟨_, hparent, hsame⟩
    obtain ⟨h, hh, rfl⟩ := List.mem_map.mp hparent
    exact ⟨h, hh, (beq_iff_eq.mp hsame).symm⟩
  · rintro ⟨h, hh, hid⟩
    exact ⟨_, List.mem_map_of_mem hh, beq_iff_eq.mpr hid.symm⟩

variable (sessionId cellHostId : String) (ttlSeconds : Int)

/-- The lease of a session is removed before another is added. -/
theorem without_lease (l : LeaseRow T) :
    sq.engine.without .sessionLeases (k.leases.cells l) (k.encode memories st) =
      Function.update (k.encode memories st) .sessionLeases
        ⟨(st.sessionLeases.rows.filter fun old => old.sessionId ≠ l.sessionId).map k.leases.cells,
          0⟩ := by
  refine congrArg (fun rows => Function.update (k.encode memories st) .sessionLeases
    (⟨rows, 0⟩ : Table T)) ?_
  refine k.leases.filter_eq rfl fun old _ => ?_
  show (!(((Value.text l.sessionId).same (.text old.sessionId) && true) || false)) = _
  rw [Bool.and_true, Bool.or_false, same_text, Bool.eq_iff_iff]
  simp only [Bool.not_eq_true', beq_eq_false_iff_ne, decide_eq_true_eq]
  exact ne_comm

theorem insertOrReplace_lease (l : LeaseRow T) :
    outcome .sessionLeases (sq.engine.insertOrReplace .sessionLeases (k.leases.cells l)
        (k.encode memories st)) =
      if st.hasSession l.sessionId ∧ (st.cellHosts.find? l.cellHostId).isSome then
        .ok (0, k.encode memories { st with sessionLeases := st.sessionLeases.replace l })
      else .error foreignKeyFailed := by
  set d := Function.update (k.encode memories st) .sessionLeases
    ⟨(st.sessionLeases.rows.filter fun old => old.sessionId ≠ l.sessionId).map k.leases.cells, 0⟩
    with hd
  have hrefers : sq.engine.Refers .sessionLeases (k.leases.cells l) d ↔
      st.hasSession l.sessionId = true ∧ (st.cellHosts.find? l.cellHostId).isSome = true := by
    rw [← k.exists_session memories, ← k.exists_host memories]
    exact ⟨fun h => ⟨h _ List.mem_cons_self nofun, h _ (List.mem_cons_of_mem _ List.mem_cons_self)
      nofun⟩, fun h => List.forall_mem_cons.mpr ⟨fun _ => h.1, List.forall_mem_singleton.mpr
        fun _ => h.2⟩⟩
  rw [Engine.insertOrReplace_eq (k.leases.filled l), k.without_lease l]
  split
  · rename_i h
    rw [Engine.putReferring_eq (hrefers.mpr h), outcome_put rfl]
    refine congrArg (fun d => Except.ok (0, d)) (Eq.trans ?_ (k.encode_sessionLeases _).symm)
    have hrows : (st.sessionLeases.replace l).rows.map k.leases.cells =
        (d .sessionLeases).rows ++ [k.leases.cells l] := List.map_append
    rw [hrows, hd, Function.update_idem]
    rfl
  · rename_i h
    rw [Engine.putReferring_eq_error fun hr => h (hrefers.mp hr)]
    rfl

theorem change_replaceLease :
    sq.change
        (fun n => [Value.text sessionId, .text cellHostId, .text m.uuid4, .text "active",
          .real (m.now 0 + (ttlSeconds : T)), .real (m.now 0), .real (m.now 0)].getD n default)
        (k.encode memories st) (Database.replaceLease m (.str sessionId) (.str cellHostId)
          (.float (m.now 0 + (ttlSeconds : T)))) =
      if st.hasSession sessionId ∧ (st.cellHosts.find? cellHostId).isSome then
        .ok (0, k.encode memories { st with
          sessionLeases := st.sessionLeases.replace
            (Store.newLease (m.now 0) m.uuid4 sessionId cellHostId ttlSeconds) })
      else .error foreignKeyFailed := by
  refine (change_insertOrReplace k.leases ?_).trans (k.insertOrReplace_lease
    (Store.newLease (m.now 0) m.uuid4 sessionId cellHostId ttlSeconds))
  exact ⟨k.coerce_text _, k.coerce_text _, k.coerce_text _, k.coerce_text _, k.coerce_real _,
    k.coerce_real _, k.coerce_real _⟩

theorem change_takeSlot (hused : ∀ h ∈ st.cellHosts, Fits64 (h.capacityUsed + 1)) :
    sq.change (fun n => [Value.real (m.now 0), .text cellHostId].getD n default)
        (k.encode memories st) (Database.takeSlot m (.str cellHostId)) =
      .ok (0, k.encode memories { st with
        cellHosts := st.cellHosts.update (fun h => h.id == cellHostId) (Store.takeSlot (m.now 0))
          fun _ => rfl }) := by
  refine (change_update k.hosts (fun h => h.id == cellHostId) (Store.takeSlot (m.now 0)) rfl
    (fun h _ => ?_) fun h hh _ => ?_).trans ?_
  · show (Value.same _ (sq.coerce .text (.text cellHostId)) && true) = _
    rw [k.coerce_text, Bool.and_true]
    rfl
  · refine ⟨rfl, rfl, rfl, rfl, rfl, ?_, rfl, rfl, rfl, rfl, k.coerce_real _⟩
    show sq.coerce .integer (sq.increment (.int h.capacityUsed)) = .int (h.capacityUsed + 1 : ℕ)
    rw [k.increment_int _ (hused h hh), k.coerce_integer _ (hused h hh)]
    rfl
  · exact congrArg (fun d => Except.ok (0, d)) (k.encode_cellHosts (st.cellHosts.update
      (fun h => h.id == cellHostId) (Store.takeSlot (m.now 0)) fun _ => rfl)).symm

theorem createLease_ends (hseen : c.seen = k.encode memories st)
    (httl : ttlSeconds.natAbs < floatLimit)
    (hused : ∀ h ∈ st.cellHosts, Fits64 (h.capacityUsed + 1)) :
    let r := st.createLease (m.now 0) m.uuid4 sessionId cellHostId ttlSeconds
    Ends sq.bind (Database.createLease sq m (.str sessionId) (.str cellHostId)
      (.int ttlSeconds)) c (r.map Prod.fst) (k.encode memories (st.kept r)) := by
  unfold Database.createLease
  simp only [Prog.bind_eq, Prog.pure_eq]
  have hplus : sq.plus (m.now 0) (.int ttlSeconds) =
      .ok (.float (m.now 0 + (ttlSeconds : T))) := by
    simp only [Sqlite.plus, if_pos httl]
  refine ends_value hplus ?_
  have hbound : bound sq.bind (Database.replaceLease m (.str sessionId) (.str cellHostId)
      (.float (m.now 0 + (ttlSeconds : T)))).values =
      .ok fun n => [Value.text sessionId, .text cellHostId, .text m.uuid4, .text "active",
        .real (m.now 0 + (ttlSeconds : T)), .real (m.now 0), .real (m.now 0)].getD n default :=
    k.bound_eq (.cons rfl (.cons rfl (.cons rfl (.cons rfl (.cons rfl (.cons rfl (.cons rfl
      .nil)))))))
  have hreplace := @change_replaceLease T _ _ sq k memories st m sessionId cellHostId ttlSeconds
  rw [← hseen] at hreplace
  unfold Store.createLease
  split
  · rename_i h
    rw [if_pos h] at hreplace
    refine ends_modify hbound hreplace ?_
    refine ends_save (k.bound_eq (.cons rfl (.cons rfl .nil)))
      (k.change_takeSlot cellHostId hused) ?_
    exact ends_pure
  · rename_i h
    rw [if_neg h] at hreplace
    show Ends _ _ _ _ (k.encode memories st)
    rw [← hseen]
    exact ends_modify_error hbound hreplace

end Leases

/-! ## Routes -/

section Routes

theorem record_route (l : LeaseRow T) (h : CellHostRow T) :
    sq.record (Database.routeRow (k.leases.cells l) (k.hosts.cells h)) =
      .ok (Route.record ⟨l, h.hostId, h.address, h.zone⟩) := by
  rw [record_eq (a := .none) (b := .none) rfl rfl]
  refine congrArg Except.ok (funext fun name => ?_)
  unfold recordOf Route.record Database.routeRow
  by_cases hmetadata : name = "metadata"
  · subst hmetadata
    rfl
  by_cases hpayload : name = "payload"
  · subst hpayload
    rfl
  rw [if_neg hmetadata, if_neg hpayload]
  refine congrArg Arg.ofValue ?_
  split
  · rename_i hname
    simp only [List.mem_cons, List.not_mem_nil, or_false] at hname
    obtain rfl | rfl | rfl := hname <;> rfl
  · rfl

/-- The hosts of a lease, while it lasts. -/
theorem hosts_of_lease (l : LeaseRow T) :
    (k.encode memories st .cellHosts).rows.filter (fun host =>
      (host "id").same (k.leases.cells l "cell_host_id") &&
        sq.engine.equals .sessionLeases "status" (.text "active") (k.leases.cells l) &&
        (sq.engine.stored .sessionLeases "expires_at" (.real (m.now 0))).less
          (k.leases.cells l "expires_at")) =
      if m.now 0 < l.expiresAt then (st.cellHosts.find? l.cellHostId).toList.map k.hosts.cells
      else [] := by
  have hactive : sq.engine.equals .sessionLeases "status" (.text "active") (k.leases.cells l) =
      true := by
    show (Value.text l.status.text).same (sq.coerce .text (.text "active")) = true
    rw [k.coerce_text]
    rfl
  have hlasts : (sq.engine.stored .sessionLeases "expires_at" (.real (m.now 0))).less
      (k.leases.cells l "expires_at") = decide (m.now 0 < l.expiresAt) := by
    show (sq.coerce .real (.real (m.now 0))).less (.real l.expiresAt) = _
    rw [k.coerce_real]
    rfl
  rw [hactive, hlasts, ← Data.Table.filter_key]
  split
  · rename_i h
    refine k.hosts.filter_eq rfl fun host _ => ?_
    rw [decide_eq_true h, Bool.and_true, Bool.and_true]
    rfl
  · rename_i h
    simp [h]

theorem route_encode (sessionId : String) :
    ((Database.ofSession sq .sessionLeases (.text sessionId) (k.encode memories st)).flatMap
      fun lease => ((k.encode memories st .cellHosts).rows.filter fun host =>
        (host "id").same (lease "cell_host_id") &&
          sq.engine.equals .sessionLeases "status" (.text "active") lease &&
          (sq.engine.stored .sessionLeases "expires_at" (.real (m.now 0))).less
            (lease "expires_at")).map (Database.routeRow lease)) =
      (st.sessionLeases.find? sessionId).toList.flatMap fun l =>
        (if m.now 0 < l.expiresAt then (st.cellHosts.find? l.cellHostId).toList.map k.hosts.cells
        else []).map (Database.routeRow (k.leases.cells l)) := by
  have hleases : Database.ofSession sq .sessionLeases (.text sessionId) (k.encode memories st) =
      (st.sessionLeases.find? sessionId).toList.map k.leases.cells := by
    rw [← Data.Table.filter_key]
    refine k.leases.filter_eq rfl fun l _ => ?_
    show Value.same _ (sq.coerce .text (.text sessionId)) = _
    rw [k.coerce_text]
    rfl
  rw [hleases, List.flatMap_map]
  refine List.flatMap_congr fun l _ => ?_
  rw [hosts_of_lease]

theorem getRoute_ends (hseen : c.seen = k.encode memories st) (sessionId : String) :
    Ends sq.bind (Database.getRoute sq m (.str sessionId)) c
      (.ok ((st.getRoute (m.now 0) sessionId).map Route.record)) (k.encode memories st) := by
  have hroute := @route_encode T _ _ sq k memories st m sessionId
  rw [← hseen] at hroute ⊢
  refine ends_select (k.bound_eq (.cons rfl (.cons rfl .nil))) hroute ?_
  have hfetched : sq.fetched ((st.sessionLeases.find? sessionId).toList.flatMap fun l =>
      (if m.now 0 < l.expiresAt then (st.cellHosts.find? l.cellHostId).toList.map k.hosts.cells
      else []).map (Database.routeRow (k.leases.cells l))) =
      .ok ((st.getRoute (m.now 0) sessionId).map Route.record) := by
    unfold Store.getRoute
    cases st.sessionLeases.find? sessionId with
    | none => rfl
    | some l =>
      rw [Option.toList_some, List.flatMap_singleton]
      by_cases h : m.now 0 < l.expiresAt
      · rw [if_pos h]
        dsimp only
        rw [if_pos ⟨LeaseStatus.casesOn l.status rfl, h⟩]
        cases st.cellHosts.find? l.cellHostId with
        | none => rfl
        | some host =>
          have hrecord := k.record_route l host
          show (sq.record (Database.routeRow (k.leases.cells l) (k.hosts.cells host))).map some = _
          rw [hrecord]
          rfl
      · rw [if_neg h]
        dsimp only
        rw [if_neg fun hactive => h hactive.2]
        rfl
  rw [← hfetched]
  exact ends_ofExcept

end Routes

end Sqlite.Codec

end Nadi
