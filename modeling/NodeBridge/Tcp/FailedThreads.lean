import NodeBridge.Tcp.ClientTable

/-!
# Handlers that cannot be started

Only a handler takes the entry of its connection out of the table, and the result of
`pthread_create` is not looked at.  An entry whose handler was never created is therefore lost: no
action of any thread removes it again.
-/

open Reasoning

namespace NodeBridge

-- The entry's connection is open, has no handler and is not in hand.
structure Lost (s : TcpServer) (fd c : Nat) : Prop where
  listed : fd ∈ s.registered
  isOpen : s.fds fd = some (.connection c)
  noHandler : s.handlers c = none
  notInHand : s.thread.inHand ≠ some (fd, c)

/-- Between two accepts each entry belongs to a connection whose handler was created and has its
    removal still to come. -/
def EntriesHandled (s : TcpServer) : Prop :=
  (∀ fd c, s.thread ≠ .registered fd c) →
    ∀ fd ∈ s.registered, ∃ c, s.fds fd = some (.connection c) ∧
      s.handlers c = some ⟨fd, .receiving⟩

-- The table is, up to its order, what it is without the entry, and the descriptor is closed.
def Undone (s t : TcpServer) (fd : Nat) : Prop :=
  (fd :: t.registered).Perm s.registered ∧ t.fds fd = none

-- However things stand, the slot of each entry can become free.
def SlotsFreeable (s : TcpServer) : Prop :=
  ∀ fd ∈ s.registered, ∃ as t, run serverStep s as = some t ∧ fd ∉ t.registered

/-- What failures of `pthread_create` may not do to the slots in any state of a run. -/
structure SlotsKept (isOpen : Nat → Bool) (as : List ServerAction) : Prop where
  handled : Throughout serverStep EntriesHandled (.initial isOpen) as
  undone : ∀ bs s t fd c, bs ++ [.createHandler false] <+: as →
    run serverStep (.initial isOpen) bs = some s → s.thread = .registered fd c →
    serverStep s (.createHandler false) = some t → Undone s t fd
  freeable : Throughout serverStep SlotsFreeable (.initial isOpen) as

/-! ## A lost entry stays -/

theorem lost_createFails {s : TcpServer} (hs : ServerInv s) {fd c : Nat}
    (hpc : s.thread = .registered fd c) : Lost { s with thread := .accepting } fd c := by
  have hhand : s.thread.inHand = some (fd, c) := by rw [hpc]; rfl
  rcases hs.inHand_open fd c hhand with ⟨hopen, hnone⟩
  exact ⟨(hs.inHand_listed fd c hhand).mpr hpc, hopen, hnone, by simp [ServerPc.inHand]⟩

theorem lost_step {s t : TcpServer} {a : ServerAction} {fd c : Nat} (hs : ServerInv s)
    (hlost : Lost s fd c) (h : serverStep s a = some t) : Lost t fd c := by
  rcases hlost with ⟨hlisted, hopen, hnone, hhand⟩
  have hlt := hs.conn_lt fd c hopen
  cases serverStep_inv h with
  | accept hpc hfree =>
      refine ⟨hlisted, ?_, hnone, ?_⟩
      · grind [Function.update_apply]
      · grind [ServerPc.inHand]
  | @register fd' c' hpc hlen =>
      have hpush := s.clientFds.contents_push fd' hlen
      refine ⟨?_, hopen, hnone, by grind [ServerPc.inHand]⟩
      grind [TcpServer.registered]
  | refuse hpc _ => exact ⟨hlisted, hopen, hnone, by grind [ServerPc.inHand]⟩
  | @create fd' c' hpc =>
      have hopen' := (hs.inHand_open fd' c' (by rw [hpc]; rfl)).1
      refine ⟨hlisted, hopen, ?_, by simp [ServerPc.inHand]⟩
      grind [Function.update_apply, ServerPc.inHand]
  | createFails _ => exact ⟨hlisted, hopen, hnone, by simp [ServerPc.inHand]⟩
  | @closeRefused fd' c' hpc =>
      have hopen' := hs.inHand_open fd' c' (by rw [hpc]; rfl)
      refine ⟨hlisted, ?_, hnone, by simp [ServerPc.inHand]⟩
      grind [Function.update_apply, ServerPc.inHand]
  | @remove fd' c' hrecv =>
      have hopen' := hs.handler_open c' fd' _ hrecv
      refine ⟨(mem_removeClient hs.nodup).mpr ⟨hlisted, ?_⟩, hopen, ?_, hhand⟩
      · rintro rfl
        grind
      · grind [Function.update_apply]
  | @close fd' c' hclosing =>
      have hopen' := hs.handler_open c' fd' _ hclosing
      refine ⟨hlisted, ?_, ?_, hhand⟩ <;> grind [Function.update_apply]
  | send received _ => exact ⟨hlisted, hopen, hnone, hhand⟩
  | openOther hfree => exact ⟨hlisted, by grind [Function.update_apply], hnone, hhand⟩
  | closeOther hother => exact ⟨hlisted, by grind [Function.update_apply], hnone, hhand⟩

theorem lost_run {s t : TcpServer} {as : List ServerAction} {fd c : Nat} (hs : ServerInv s)
    (hlost : Lost s fd c) (h : run serverStep s as = some t) : Lost t fd c := by
  have hstep : ∀ u a v, ServerInv u ∧ Lost u fd c → serverStep u a = some v →
      ServerInv v ∧ Lost v fd c := fun u a v hu hstep =>
    ⟨serverInv_step hu.1 hstep, lost_step hu.1 hu.2 hstep⟩
  exact (run_invariant hstep ⟨hs, hlost⟩ h).2

/-- Once `pthread_create` has failed for a connection, its entry is there in every later state. -/
theorem createFails_run {s t u : TcpServer} {as : List ServerAction} {fd c : Nat}
    (hs : ServerInv s) (hpc : s.thread = .registered fd c)
    (hstep : serverStep s (.createHandler false) = some t) (h : run serverStep t as = some u) :
    fd ∈ u.registered := by
  have ht := serverInv_step hs hstep
  cases serverStep_inv hstep with
  | @createFails fd' c' hpc' =>
      cases hpc.symm.trans hpc'
      exact (lost_run ht (lost_createFails hs hpc) h).listed

/-! ## Without failures every slot can become free -/

theorem entriesHandled_of_handled {s : TcpServer} (hs : ServerInv s) (hh : Handled s) :
    EntriesHandled s := by
  intro hpc fd hfd
  rcases hs.listed_open fd hfd with ⟨c, hopen⟩
  exact ⟨c, hopen, (hh fd c hfd hopen).resolve_right (hpc fd c)⟩

theorem removeClient_frees {s : TcpServer} (hs : ServerInv s) {fd c : Nat}
    (hrecv : s.handlers c = some ⟨fd, .receiving⟩) :
    ∃ t, serverStep s (.removeClient c) = some t ∧ fd ∉ t.registered := by
  rw [serverStep, hrecv]
  exact ⟨_, rfl, fun hin => ((mem_removeClient hs.nodup).mp hin).2 rfl⟩

theorem createHandler_succeeds {s : TcpServer} {fd c : Nat} (hpc : s.thread = .registered fd c) :
    ∃ t, serverStep s (.createHandler true) = some t ∧
      t.handlers c = some ⟨fd, .receiving⟩ := by
  rw [serverStep, hpc]
  exact ⟨_, rfl, Function.update_self ..⟩

theorem slotsFreeable_of_handled {s : TcpServer} (hs : ServerInv s) (hh : Handled s) :
    SlotsFreeable s := by
  intro fd hfd
  rcases hs.listed_open fd hfd with ⟨c, hopen⟩
  rcases hh fd c hfd hopen with hrecv | hpc
  · rcases removeClient_frees hs hrecv with ⟨t, hremove, hfree⟩
    exact ⟨[.removeClient c], t, run_cons_eq_some.mpr ⟨t, hremove, rfl⟩, hfree⟩
  · -- the handler is created first
    rcases createHandler_succeeds hpc with ⟨u, hcreate, hrecv⟩
    rcases removeClient_frees (serverInv_step hs hcreate) hrecv with ⟨t, hremove, hfree⟩
    refine ⟨[.createHandler true, .removeClient c], t, ?_, hfree⟩
    exact run_cons_eq_some.mpr ⟨u, hcreate, run_cons_eq_some.mpr ⟨t, hremove, rfl⟩⟩

theorem not_entriesHandled_of_lost {s : TcpServer} {fd c : Nat} (hlost : Lost s fd c)
    (hpc : ∀ fd' c', s.thread ≠ .registered fd' c') : ¬ EntriesHandled s := by
  intro h
  rcases h hpc fd hlost.listed with ⟨c', hopen, hrecv⟩
  cases hlost.isOpen.symm.trans hopen
  cases hlost.noHandler.symm.trans hrecv

-- The step at which `pthread_create` fails leaves an entry without a handler.
theorem createFails_breaks {s t : TcpServer} (hs : ServerInv s)
    (h : serverStep s (.createHandler false) = some t) : ¬ EntriesHandled t := by
  cases serverStep_inv h with
  | createFails hpc =>
      exact not_entriesHandled_of_lost (lost_createFails hs hpc) (by simp)

theorem entriesHandled_throughout_iff {isOpen : Nat → Bool} {as : List ServerAction}
    {s : TcpServer} (h : run serverStep (.initial isOpen) as = some s) :
    Throughout serverStep EntriesHandled (.initial isOpen) as ↔
      Along serverStep (fun _ a => a ≠ .createHandler false) (.initial isOpen) as := by
  have hstart : Handled (.initial isOpen) := fun fd c hfd => absurd hfd List.not_mem_nil
  refine @throughout_iff_along _ _ _ _ (fun s => ServerInv s ∧ Handled s) _ ?_ ?_ ?_ _ _ _
    ⟨serverInv_initial isOpen, hstart⟩ h
  · exact fun s hs => entriesHandled_of_handled hs.1 hs.2
  · exact fun s a t hs ha hstep =>
      ⟨serverInv_step hs.1 hstep, handled_step hs.1 hs.2 ha hstep⟩
  · intro s a t hs ha hstep
    rw [not_ne_iff.mp ha] at hstep
    exact createFails_breaks hs.1 hstep

/-- **The slots.**  The entries are handled, a failed creation is undone and every slot can become
    free, in every state of a run, exactly when `pthread_create` fails in none of its steps. -/
theorem slotsKept_iff {isOpen : Nat → Bool} {as : List ServerAction} {s : TcpServer}
    (hrun : run serverStep (.initial isOpen) as = some s) :
    SlotsKept isOpen as ↔ .createHandler false ∉ as := by
  constructor
  · intro h hfails
    have halong := (entriesHandled_throughout_iff hrun).mp h.handled
    exact forall_of_along hrun halong _ hfails rfl
  · intro hno
    refine ⟨?_, fun bs t u fd c hpre => ?_, ?_⟩
    · refine (entriesHandled_throughout_iff hrun).mpr (along_of_forall (fun _ a ha => ?_) _)
      rintro rfl
      exact hno ha
    · exact absurd (hpre.subset (List.mem_append_right bs (List.mem_singleton_self _))) hno
    · refine throughout_iff_prefix.mpr fun bs t hpre ht => ?_
      have hno' : .createHandler false ∉ bs := fun hin => hno (hpre.subset hin)
      exact slotsFreeable_of_handled (serverInv_run ht) (handled_run hno' ht)

theorem slotsKept_iff_reuse :
    SlotsKept (fun fd => decide (fd < 4)) reuseRun ↔ .createHandler false ∉ reuseRun :=
  @slotsKept_iff (fun fd => decide (fd < 4)) reuseRun _ rfl

-- A client is accepted and registered, and its handler cannot be created.
def failedRun : List ServerAction := [.accept 4, .register, .createHandler false]

/-- The slot of the client is used up for good. -/
theorem slot_lost :
    ¬ SlotsKept (fun fd => decide (fd < 4)) failedRun ∧
      ∃ s, run serverStep (.initial fun fd => decide (fd < 4)) failedRun = some s ∧
        ∀ as t, run serverStep s as = some t → 4 ∈ t.registered := by
  have hinv : ∀ s, run serverStep (.initial fun fd => decide (fd < 4)) [.accept 4, .register] =
      some s → ServerInv s := fun s => serverInv_run
  refine ⟨fun h => ?_, _, rfl, fun as t ht => ?_⟩
  · have hundone := h.undone [.accept 4, .register] _ _ 4 0 (List.prefix_refl _) rfl rfl rfl
    cases hundone.2
  · exact createFails_run (hinv _ rfl) rfl rfl ht

end NodeBridge
