import NodeBridge.Tcp.Server

/-!
# The client table

`ServerInv` ties the table, the kernel's descriptors, every handler and the accepting thread
together.  It is kept by every action, so it holds in every state of every interleaving, also when
`pthread_create` fails.  When it never fails, each entry has its handler.
-/

open Reasoning

namespace NodeBridge

-- The descriptor and the connection `tcp_server_thread` has in hand.
def ServerPc.inHand : ServerPc → Option (Nat × Nat)
  | .accepting => none
  | .accepted fd c => some (fd, c)
  | .registered fd c => some (fd, c)
  | .refused fd c => some (fd, c)

@[grind cases]
structure ServerInv (s : TcpServer) : Prop where
  nodup : s.registered.Nodup
  listed_open : ∀ fd ∈ s.registered, ∃ c, s.fds fd = some (.connection c)
  handler_open : ∀ c fd pc, s.handlers c = some ⟨fd, pc⟩ → s.fds fd = some (.connection c)
  receiving_listed : ∀ c fd, s.handlers c = some ⟨fd, .receiving⟩ → fd ∈ s.registered
  closing_unlisted : ∀ c fd, s.handlers c = some ⟨fd, .closing⟩ → fd ∉ s.registered
  inHand_open : ∀ fd c, s.thread.inHand = some (fd, c) →
    s.fds fd = some (.connection c) ∧ s.handlers c = none
  inHand_listed : ∀ fd c, s.thread.inHand = some (fd, c) →
    (fd ∈ s.registered ↔ s.thread = .registered fd c)
  conn_lt : ∀ fd c, s.fds fd = some (.connection c) → c < s.conns
  unique : ∀ fd fd' c, s.fds fd = some (.connection c) → s.fds fd' = some (.connection c) → fd = fd'

theorem serverInv_initial (isOpen : Nat → Bool) : ServerInv (.initial isOpen) := by
  have hfds : ∀ fd c, (TcpServer.initial isOpen).fds fd ≠ some (.connection c) := by
    intro fd c
    simp only [TcpServer.initial]
    split <;> simp
  constructor <;> intros <;> simp_all [TcpServer.initial, TcpServer.registered, ServerPc.inHand]

/-- The next connection number is not in use. -/
theorem ServerInv.conns_fresh {s : TcpServer} (hs : ServerInv s) :
    s.handlers s.conns = none ∧ ∀ fd, s.fds fd ≠ some (.connection s.conns) := by
  have hfds : ∀ fd, s.fds fd ≠ some (.connection s.conns) := fun fd hfd =>
    Nat.lt_irrefl _ (hs.conn_lt fd _ hfd)
  refine ⟨?_, hfds⟩
  cases hh : s.handlers s.conns with
  | none => rfl
  | some h => exact absurd (hs.handler_open _ h.fd h.pc hh) (hfds h.fd)

theorem ServerInv.accept {s : TcpServer} (hs : ServerInv s) {fd : Nat}
    (hfree : s.fds fd = none) :
    ServerInv { s with
      thread := .accepted fd s.conns
      fds := Function.update s.fds fd (some (.connection s.conns))
      conns := s.conns + 1 } := by
  have hfresh := hs.conns_fresh
  constructor <;> grind [TcpServer.registered, ServerPc.inHand, Function.update_apply]

theorem ServerInv.register {s : TcpServer} (hs : ServerInv s) {fd c : Nat}
    (hpc : s.thread = .accepted fd c) (h : s.clientFds.len < maxClients) :
    ServerInv { s with
      clientFds := s.clientFds.push fd h
      thread := .registered fd c
      log := s.log ++ [.registered c] } := by
  have hopen := hs.inHand_open fd c (by rw [hpc]; rfl)
  have hpush := s.clientFds.contents_push fd h
  constructor <;> grind [TcpServer.registered, ServerPc.inHand, Function.update_apply]

theorem ServerInv.refuse {s : TcpServer} (hs : ServerInv s) {fd c : Nat}
    (hpc : s.thread = .accepted fd c) :
    ServerInv { s with thread := .refused fd c, log := s.log ++ [.refused c] } := by
  constructor <;> grind [TcpServer.registered, ServerPc.inHand, Function.update_apply]

theorem ServerInv.create {s : TcpServer} (hs : ServerInv s) {fd c : Nat}
    (hpc : s.thread = .registered fd c) :
    ServerInv { s with
      thread := .accepting
      handlers := Function.update s.handlers c (some ⟨fd, .receiving⟩) } := by
  constructor <;> grind [TcpServer.registered, ServerPc.inHand, Function.update_apply]

theorem ServerInv.createFails {s : TcpServer} (hs : ServerInv s) :
    ServerInv { s with thread := .accepting } := by
  constructor <;> grind [TcpServer.registered, ServerPc.inHand, Function.update_apply]

theorem ServerInv.closeRefused {s : TcpServer} (hs : ServerInv s) {fd c : Nat}
    (hpc : s.thread = .refused fd c) :
    ServerInv { s with thread := .accepting, fds := Function.update s.fds fd none } := by
  constructor <;> grind [TcpServer.registered, ServerPc.inHand, Function.update_apply]

theorem ServerInv.remove {s : TcpServer} (hs : ServerInv s) {fd c : Nat}
    (hh : s.handlers c = some ⟨fd, .receiving⟩) :
    ServerInv { s with
      clientFds := removeClient s.clientFds fd
      handlers := Function.update s.handlers c (some ⟨fd, .closing⟩)
      log := s.log ++ [.removed c] } := by
  have hmem : ∀ x, x ∈ (removeClient s.clientFds fd).contents ↔
      x ∈ s.registered ∧ x ≠ fd := fun x => mem_removeClient hs.nodup
  have hnodup : (removeClient s.clientFds fd).contents.Nodup := nodup_removeClient hs.nodup
  constructor <;> grind [TcpServer.registered, ServerPc.inHand, Function.update_apply]

theorem ServerInv.close {s : TcpServer} (hs : ServerInv s) {fd c : Nat}
    (hh : s.handlers c = some ⟨fd, .closing⟩) :
    ServerInv { s with
      handlers := Function.update s.handlers c none
      fds := Function.update s.fds fd none } := by
  constructor <;> grind [TcpServer.registered, ServerPc.inHand, Function.update_apply]

theorem ServerInv.setOther {s : TcpServer} (hs : ServerInv s) {fd : Nat} {v : Option Descriptor}
    (hold : ∀ c, s.fds fd ≠ some (.connection c)) (hnew : ∀ c, v ≠ some (.connection c)) :
    ServerInv { s with fds := Function.update s.fds fd v } := by
  constructor <;> grind [TcpServer.registered, ServerPc.inHand, Function.update_apply]

theorem serverInv_step {s t : TcpServer} {a : ServerAction} (hs : ServerInv s)
    (h : serverStep s a = some t) : ServerInv t := by
  cases serverStep_inv h with
  | accept _ hfree => exact hs.accept hfree
  | register hpc hlen => exact hs.register hpc hlen
  | refuse hpc _ => exact hs.refuse hpc
  | create hpc => exact hs.create hpc
  | createFails _ => exact hs.createFails
  | closeRefused hpc => exact hs.closeRefused hpc
  | remove hh => exact hs.remove hh
  | close hh => exact hs.close hh
  | send received _ => exact ⟨hs.nodup, hs.listed_open, hs.handler_open, hs.receiving_listed,
      hs.closing_unlisted, hs.inHand_open, hs.inHand_listed, hs.conn_lt, hs.unique⟩
  | openOther hfree => exact hs.setOther (by simp [hfree]) (by simp)
  | closeOther hother => exact hs.setOther (by simp [hother]) (by simp)

theorem serverInv_run {isOpen : Nat → Bool} {as : List ServerAction} {s : TcpServer}
    (h : run serverStep (.initial isOpen) as = some s) : ServerInv s :=
  run_invariant (fun _ _ _ => serverInv_step) (serverInv_initial isOpen) h

/-! ## Every entry has its handler -/

-- `c`'s handler has not executed its removal; `tcp_server_thread` may still have to create it.
def TcpServer.Handles (s : TcpServer) (c fd : Nat) : Prop :=
  s.handlers c = some ⟨fd, .receiving⟩ ∨ s.thread = .registered fd c

def Handled (s : TcpServer) : Prop :=
  ∀ fd c, fd ∈ s.registered → s.fds fd = some (.connection c) → s.Handles c fd

theorem handled_step {s t : TcpServer} {a : ServerAction} (hs : ServerInv s) (hh : Handled s)
    (ha : a ≠ .createHandler false) (h : serverStep s a = some t) : Handled t := by
  unfold Handled TcpServer.Handles at *
  cases serverStep_inv h with
  | accept _ hfree => grind [TcpServer.registered, Function.update_apply]
  | @register fd c hpc hlen =>
      have hopen := hs.inHand_open fd c (by rw [hpc]; rfl)
      have hpush := s.clientFds.contents_push fd hlen
      grind [TcpServer.registered]
  | refuse hpc _ => grind [TcpServer.registered]
  | @create fd c hpc =>
      have hopen := hs.inHand_open fd c (by rw [hpc]; rfl)
      grind [TcpServer.registered, Function.update_apply]
  | createFails _ => exact absurd rfl ha
  | closeRefused hpc => grind [TcpServer.registered, Function.update_apply]
  | @remove fd c hrecv =>
      have hmem : ∀ x, x ∈ (removeClient s.clientFds fd).contents ↔
          x ∈ s.registered ∧ x ≠ fd := fun x => mem_removeClient hs.nodup
      grind [TcpServer.registered, Function.update_apply]
  | close hclosing => grind [TcpServer.registered, Function.update_apply]
  | send received _ => exact hh
  | openOther hfree => grind [TcpServer.registered, Function.update_apply]
  | closeOther hother => grind [TcpServer.registered, Function.update_apply]

theorem handled_run {isOpen : Nat → Bool} {as : List ServerAction} {s : TcpServer}
    (hcreate : ServerAction.createHandler false ∉ as)
    (h : run serverStep (.initial isOpen) as = some s) : Handled s := by
  have hok : Along serverStep (fun _ a => a ≠ .createHandler false) (.initial isOpen) as :=
    along_of_forall (fun _ a ha => by rintro rfl; exact hcreate ha) _
  have hstep : ∀ u a v, ServerInv u ∧ Handled u → a ≠ .createHandler false →
      serverStep u a = some v → ServerInv v ∧ Handled v := fun u a v hu ha hstep =>
    ⟨serverInv_step hu.1 hstep, handled_step hu.1 hu.2 ha hstep⟩
  have hstart : Handled (.initial isOpen) := fun fd c hfd => absurd hfd List.not_mem_nil
  exact (along_invariant hstep ⟨serverInv_initial isOpen, hstart⟩ hok h).2

/-- **The client table.**  In every state of every interleaving in which `pthread_create`
    succeeds: the table is bounded and without repetitions; each entry names an open accepted
    connection, which has the only handler with its removal still to come (between registration and
    `pthread_create` the accepting thread holds it); each such handler's descriptor is listed; and
    a removal takes out the entry of the handler's own connection and no other. -/
theorem clientTable_invariant {isOpen : Nat → Bool} {as : List ServerAction} {s : TcpServer}
    (hcreate : ServerAction.createHandler false ∉ as)
    (hrun : run serverStep (.initial isOpen) as = some s) :
    s.clientFds.len ≤ maxClients ∧ s.registered.Nodup ∧
      (∀ fd ∈ s.registered, ∃ c, s.fds fd = some (.connection c) ∧ s.Handles c fd ∧
        ∀ c', s.Handles c' fd → c' = c) ∧
      ((∀ fd c, s.thread ≠ .registered fd c) →
        ∀ fd ∈ s.registered, ∃! c, s.handlers c = some ⟨fd, .receiving⟩) ∧
      (∀ c fd, s.handlers c = some ⟨fd, .receiving⟩ → fd ∈ s.registered) ∧
      ∀ c t, serverStep s (.removeClient c) = some t →
        ∃ fd, s.handlers c = some ⟨fd, .receiving⟩ ∧ s.fds fd = some (.connection c) ∧
          (fd :: t.registered).Perm s.registered := by
  have hs := serverInv_run hrun
  have hh := handled_run hcreate hrun
  -- whoever handles `fd` handles the connection `fd` is open for
  have howner : ∀ c fd, s.Handles c fd → s.fds fd = some (.connection c) := by
    rintro c fd (hrecv | hpc)
    · exact hs.handler_open c fd _ hrecv
    · exact (hs.inHand_open fd c (by rw [hpc]; rfl)).1
  have hsame : ∀ c c' fd, s.fds fd = some (.connection c) → s.Handles c' fd → c' = c := by
    intro c c' fd hc hc'
    have he := hc.symm.trans (howner c' fd hc')
    simp only [Option.some.injEq, Descriptor.connection.injEq] at he
    exact he.symm
  refine ⟨s.clientFds.len_le, hs.nodup, fun fd hfd => ?_, fun hpc fd hfd => ?_,
    hs.receiving_listed, fun c t ht => ?_⟩
  · rcases hs.listed_open fd hfd with ⟨c, hc⟩
    exact ⟨c, hc, hh fd c hfd hc, fun c' hc' => hsame c c' fd hc hc'⟩
  · rcases hs.listed_open fd hfd with ⟨c, hc⟩
    have hrecv := (hh fd c hfd hc).resolve_right (hpc fd c)
    exact ⟨c, hrecv, fun c' hc' => hsame c c' fd hc (.inl hc')⟩
  · cases serverStep_inv ht with
    | @remove fd c hrecv =>
        exact ⟨fd, hrecv, hs.handler_open c fd _ hrecv,
          removeClient_perm (hs.receiving_listed c fd hrecv)⟩

-- The number of the first connection is reused after its handler has closed it.
def reuseRun : List ServerAction :=
  [.accept 4, .register, .createHandler true, .removeClient 0, .closeClient 0, .accept 4,
    .register, .createHandler true]

theorem clientTable_invariant_reuse :
    ∃ s, run serverStep (.initial fun fd => decide (fd < 4)) reuseRun = some s ∧
      s.registered = [4] ∧ ∃! c, s.handlers c = some ⟨4, .receiving⟩ := by
  refine ⟨_, rfl, rfl, ?_⟩
  have htable := @clientTable_invariant (fun fd => decide (fd < 4)) reuseRun _
    (by simp [reuseRun]) rfl
  exact htable.2.2.2.1 (by simp) 4 (by decide)

end NodeBridge
