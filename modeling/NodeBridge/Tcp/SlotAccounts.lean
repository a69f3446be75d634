import Mathlib.Data.Finset.Card
import Mathlib.Data.Finset.Range
import Mathlib.Data.Set.Card
import NodeBridge.Tcp.FailedThreads

/-!
# The accounts of the slots

Each entry of the table is its handler's, the accepting thread's, or nobody's.  The entries of the
last kind are as many as there were failures of `pthread_create`, so that each failure takes one of
the slots out of use, and one descriptor out of the process, for good.
-/

open Reasoning

namespace NodeBridge

def ServerAction.fails : ServerAction → Bool
  | .createHandler false => true
  | _ => false

-- How often `pthread_create` failed.
def failures (as : List ServerAction) : Nat := as.countP ServerAction.fails

-- Open, without a handler, and not in hand.
def Orphaned (s : TcpServer) (fd c : Nat) : Prop :=
  s.fds fd = some (.connection c) ∧ s.handlers c = none ∧ s.thread.inHand ≠ some (fd, c)

namespace TcpServer

def isLost (s : TcpServer) (fd : Nat) : Bool :=
  match s.fds fd with
  | some (.connection c) => (s.handlers c).isNone && decide (s.thread.inHand ≠ some (fd, c))
  | _ => false

-- The entries that are nobody's.
def lostCount (s : TcpServer) : Nat := s.registered.countP s.isLost

theorem isLost_iff {s : TcpServer} {fd : Nat} : s.isLost fd = true ↔ ∃ c, Orphaned s fd c := by
  unfold isLost
  split
  · rename_i c hopen
    rw [Bool.and_eq_true, Option.isNone_iff_eq_none, decide_eq_true_iff]
    refine ⟨fun h => ⟨c, hopen, h⟩, fun ⟨c', hopen', h⟩ => ?_⟩
    cases hopen.symm.trans hopen'
    exact h
  · rename_i hno
    exact ⟨fun h => absurd h Bool.false_ne_true, fun ⟨c, hopen, _⟩ => absurd hopen (hno c)⟩

end TcpServer

/-! ## One step -/

theorem countP_isLost_congr {s t : TcpServer} {fds : List Nat}
    (h : ∀ fd ∈ fds, ∀ c, Orphaned t fd c ↔ Orphaned s fd c) :
    fds.countP t.isLost = fds.countP s.isLost := by
  refine List.countP_congr fun fd hfd => ?_
  rw [TcpServer.isLost_iff, TcpServer.isLost_iff]
  exact exists_congr (h fd hfd)

theorem not_isLost {s : TcpServer} {fd : Nat} (h : ∀ c, ¬ Orphaned s fd c) : s.isLost fd = false :=
  Bool.eq_false_iff.mpr fun hlost => by
    rcases TcpServer.isLost_iff.mp hlost with ⟨c, hc⟩
    exact h c hc

theorem lostCount_of_perm {s : TcpServer} {fd : Nat} {rest : List Nat}
    (h : s.registered.Perm (fd :: rest)) :
    s.lostCount = rest.countP s.isLost + if s.isLost fd then 1 else 0 := by
  rw [TcpServer.lostCount, h.countP_eq, List.countP_cons]

/-- A failed creation leaves one more entry that is nobody's; nothing else changes their number. -/
theorem lostCount_step {s t : TcpServer} {a : ServerAction} (hs : ServerInv s)
    (h : serverStep s a = some t) : t.lostCount = s.lostCount + if a.fails then 1 else 0 := by
  cases serverStep_inv h with
  | @accept fd hpc hfree =>
      apply countP_isLost_congr
      grind [Orphaned, Function.update_apply, ServerPc.inHand]
  | @register fd c hpc hlen =>
      have hopen := hs.inHand_open fd c (by rw [hpc]; rfl)
      have hpush := s.clientFds.contents_push fd hlen
      rw [TcpServer.lostCount, TcpServer.registered, hpush, List.countP_append,
        List.countP_singleton, not_isLost (by grind [Orphaned, ServerPc.inHand])]
      apply countP_isLost_congr
      grind [Orphaned, ServerPc.inHand]
  | @refuse fd c hpc hlen =>
      apply countP_isLost_congr
      grind [Orphaned, ServerPc.inHand]
  | @create fd c hpc =>
      have hopen := hs.inHand_open fd c (by rw [hpc]; rfl)
      apply countP_isLost_congr
      grind [Orphaned, Function.update_apply, ServerPc.inHand]
  | @createFails fd c hpc =>
      have hhand : s.thread.inHand = some (fd, c) := by rw [hpc]; rfl
      have hopen := hs.inHand_open fd c hhand
      have hmem := (hs.inHand_listed fd c hhand).mpr hpc
      have hperm := List.perm_cons_erase hmem
      have hnodup := hperm.nodup_iff.mp hs.nodup
      have hlost : ({ s with thread := .accepting } : TcpServer).isLost fd = true :=
        TcpServer.isLost_iff.mpr ⟨c, hopen.1, hopen.2, by simp [ServerPc.inHand]⟩
      have hhad : s.isLost fd = false := not_isLost (by grind [Orphaned])
      have hrest : (s.registered.erase fd).countP
          ({ s with thread := .accepting } : TcpServer).isLost =
          (s.registered.erase fd).countP s.isLost := by
        apply countP_isLost_congr
        grind [Orphaned, ServerPc.inHand]
      rw [lostCount_of_perm hperm, lostCount_of_perm (s := { s with thread := .accepting }) hperm,
        hlost, hhad, hrest]
      rfl
  | @closeRefused fd c hpc =>
      have hlisted := hs.inHand_listed fd c (by rw [hpc]; rfl)
      apply countP_isLost_congr
      grind [Orphaned, Function.update_apply, ServerPc.inHand]
  | @remove fd c hrecv =>
      have hmem := hs.receiving_listed c fd hrecv
      have hperm := removeClient_perm hmem
      have hnodup := hperm.nodup_iff.mpr hs.nodup
      have hhad : s.isLost fd = false := not_isLost (by grind [Orphaned])
      rw [lostCount_of_perm (s := s) hperm.symm, hhad]
      apply countP_isLost_congr
      grind [Orphaned, Function.update_apply, TcpServer.registered]
  | @close fd c hclosing =>
      apply countP_isLost_congr
      grind [Orphaned, Function.update_apply]
  | send received _ => rfl
  | @openOther fd hfree =>
      apply countP_isLost_congr
      grind [Orphaned, Function.update_apply]
  | @closeOther fd hother =>
      apply countP_isLost_congr
      grind [Orphaned, Function.update_apply]

theorem failures_concat (as : List ServerAction) (a : ServerAction) :
    failures (as ++ [a]) = failures as + if a.fails then 1 else 0 := by
  rw [failures, List.countP_append, List.countP_singleton]
  rfl

theorem lostCount_run {isOpen : Nat → Bool} {as : List ServerAction} {s : TcpServer}
    (h : run serverStep (.initial isOpen) as = some s) : s.lostCount = failures as := by
  have hstep : ∀ bs u a v, ServerInv u ∧ u.lostCount = failures bs → True →
      serverStep u a = some v → ServerInv v ∧ v.lostCount = failures (bs ++ [a]) :=
    fun bs u a v hu _ hv =>
      ⟨serverInv_step hu.1 hv, by rw [lostCount_step hu.1 hv, hu.2, failures_concat]⟩
  have hok : Along serverStep (fun _ _ => True) (.initial isOpen) as :=
    along_of_forall (fun _ _ _ => trivial) _
  have hstart : ServerInv (.initial isOpen) ∧ (TcpServer.initial isOpen).lostCount = failures [] :=
    ⟨serverInv_initial isOpen, rfl⟩
  exact (along_history hstep hstart hok h).2

/-! ## Where the open connections are -/

/-- Each open connection is in hand, has a handler, or is in the table. -/
def Accounted (s : TcpServer) : Prop :=
  ∀ fd c, s.fds fd = some (.connection c) →
    s.thread.inHand = some (fd, c) ∨ (∃ pc, s.handlers c = some ⟨fd, pc⟩) ∨ fd ∈ s.registered

theorem accounted_step {s t : TcpServer} {a : ServerAction} (hs : ServerInv s) (hacc : Accounted s)
    (h : serverStep s a = some t) : Accounted t := by
  unfold Accounted at hacc ⊢
  cases serverStep_inv h with
  | @accept fd hpc hfree => grind [Function.update_apply, ServerPc.inHand, TcpServer.registered]
  | @register fd c hpc hlen =>
      have hpush := s.clientFds.contents_push fd hlen
      grind [ServerPc.inHand, TcpServer.registered]
  | @refuse fd c hpc hlen => grind [ServerPc.inHand, TcpServer.registered]
  | @create fd c hpc =>
      have hopen := hs.inHand_open fd c (by rw [hpc]; rfl)
      grind [Function.update_apply, ServerPc.inHand, TcpServer.registered]
  | @createFails fd c hpc =>
      have hlisted := hs.inHand_listed fd c (by rw [hpc]; rfl)
      grind [ServerPc.inHand, TcpServer.registered]
  | @closeRefused fd c hpc =>
      grind [Function.update_apply, ServerPc.inHand, TcpServer.registered]
  | @remove fd c hrecv =>
      have hmem : ∀ x, x ∈ (removeClient s.clientFds fd).contents ↔
          x ∈ s.registered ∧ x ≠ fd := fun x => mem_removeClient hs.nodup
      grind [Function.update_apply, TcpServer.registered]
  | @close fd c hclosing => grind [Function.update_apply, TcpServer.registered]
  | send received _ => exact hacc
  | @openOther fd hfree => grind [Function.update_apply, TcpServer.registered]
  | @closeOther fd hother => grind [Function.update_apply, TcpServer.registered]

theorem accounted_run {isOpen : Nat → Bool} {as : List ServerAction} {s : TcpServer}
    (h : run serverStep (.initial isOpen) as = some s) : ServerInv s ∧ Accounted s := by
  have hstart : Accounted (.initial isOpen) := by
    intro fd c hopen
    simp only [TcpServer.initial] at hopen
    split at hopen <;> cases hopen
  have hstep : ∀ u a v, ServerInv u ∧ Accounted u → serverStep u a = some v →
      ServerInv v ∧ Accounted v := fun u a v hu hv =>
    ⟨serverInv_step hu.1 hv, accounted_step hu.1 hu.2 hv⟩
  exact run_invariant hstep ⟨serverInv_initial isOpen, hstart⟩ h

namespace TcpServer

-- The connections that have a handler in its `recv` loop.
def serving (s : TcpServer) : Finset Nat :=
  (Finset.range s.conns).filter fun c => (s.handlers c).any fun h => h.pc = .receiving

-- The entry that waits for its handler to be created.
def waiting (s : TcpServer) : Finset Nat :=
  match s.thread with
  | .registered fd _ => {fd}
  | _ => ∅

def handlerFd (s : TcpServer) (c : Nat) : Nat := ((s.handlers c).map Handler.fd).getD 0

theorem mem_serving {s : TcpServer} (hs : ServerInv s) {c : Nat} :
    c ∈ s.serving ↔ ∃ fd, s.handlers c = some ⟨fd, .receiving⟩ := by
  rw [serving, Finset.mem_filter, Finset.mem_range]
  constructor
  · rintro ⟨-, hany⟩
    cases hh : s.handlers c with
    | none => simp [hh] at hany
    | some h =>
        have hpc : h.pc = .receiving := by simpa [hh] using hany
        exact ⟨h.fd, by rw [← hpc]⟩
  · rintro ⟨fd, hh⟩
    refine ⟨hs.conn_lt fd c (hs.handler_open c fd _ hh), by simp [hh]⟩

theorem mem_waiting {s : TcpServer} {fd : Nat} :
    fd ∈ s.waiting ↔ ∃ c, s.thread = .registered fd c := by
  unfold waiting
  split
  · rename_i fd' c hpc
    simp [hpc, eq_comm]
  · rename_i hno
    exact ⟨fun h => absurd h (Finset.notMem_empty fd), fun ⟨c, hpc⟩ => absurd hpc (hno fd c)⟩

theorem handlerFd_of_handler {s : TcpServer} {c fd : Nat} {pc : HandlerPc}
    (h : s.handlers c = some ⟨fd, pc⟩) : s.handlerFd c = fd := by
  rw [handlerFd, h]
  rfl

end TcpServer

/-- An entry that is not lost has a handler in its `recv` loop or waits for one. -/
theorem owned_eq {s : TcpServer} (hs : ServerInv s) :
    (s.registered.filter fun fd => !s.isLost fd).toFinset =
      s.serving.image s.handlerFd ∪ s.waiting := by
  ext fd
  rw [List.mem_toFinset, List.mem_filter, Finset.mem_union, Finset.mem_image,
    TcpServer.mem_waiting, Bool.not_eq_true']
  constructor
  · rintro ⟨hfd, hnot⟩
    rcases hs.listed_open fd hfd with ⟨c, hopen⟩
    have howned : s.handlers c ≠ none ∨ s.thread.inHand = some (fd, c) := by
      by_contra hno
      rw [not_or, not_not] at hno
      rw [TcpServer.isLost_iff.mpr ⟨c, hopen, hno⟩] at hnot
      cases hnot
    rcases howned with hsome | hhand
    · rcases Option.ne_none_iff_exists'.mp hsome with ⟨⟨fd', pc⟩, hh⟩
      obtain rfl : fd' = fd := hs.unique _ _ c (hs.handler_open c fd' pc hh) hopen
      cases pc with
      | receiving =>
          left
          exact ⟨c, (TcpServer.mem_serving hs).mpr ⟨fd', hh⟩, TcpServer.handlerFd_of_handler hh⟩
      | closing => exact absurd hfd (hs.closing_unlisted c fd' hh)
    · right
      exact ⟨c, (hs.inHand_listed fd c hhand).mp hfd⟩
  · rintro (⟨c, hc, rfl⟩ | ⟨c, hpc⟩)
    · rcases (TcpServer.mem_serving hs).mp hc with ⟨fd, hh⟩
      rw [TcpServer.handlerFd_of_handler hh]
      refine ⟨hs.receiving_listed c fd hh, not_isLost fun c' hlost => ?_⟩
      cases (hs.handler_open c fd _ hh).symm.trans hlost.1
      cases hh.symm.trans hlost.2.1
    · have hhand : s.thread.inHand = some (fd, c) := by rw [hpc]; rfl
      refine ⟨(hs.inHand_listed fd c hhand).mpr hpc, not_isLost fun c' hlost => ?_⟩
      cases (hs.inHand_open fd c hhand).1.symm.trans hlost.1
      exact hlost.2.2 hhand

theorem handlerFd_injOn {s : TcpServer} (hs : ServerInv s) :
    Set.InjOn s.handlerFd s.serving := by
  intro c hc c' hc' heq
  rcases (TcpServer.mem_serving hs).mp hc with ⟨fd, hh⟩
  rcases (TcpServer.mem_serving hs).mp hc' with ⟨fd', hh'⟩
  rw [TcpServer.handlerFd_of_handler hh, TcpServer.handlerFd_of_handler hh'] at heq
  subst heq
  cases (hs.handler_open c fd _ hh).symm.trans (hs.handler_open c' fd _ hh')
  rfl

theorem waiting_disjoint {s : TcpServer} (hs : ServerInv s) :
    Disjoint (s.serving.image s.handlerFd) s.waiting := by
  rw [Finset.disjoint_left]
  intro fd hfd hwait
  rcases Finset.mem_image.mp hfd with ⟨c, hc, rfl⟩
  rcases (TcpServer.mem_serving hs).mp hc with ⟨fd, hh⟩
  rw [TcpServer.handlerFd_of_handler hh] at hwait
  rcases TcpServer.mem_waiting.mp hwait with ⟨c', hpc⟩
  rcases hs.inHand_open fd c' (by rw [hpc]; rfl) with ⟨hopen, hnone⟩
  cases (hs.handler_open c fd _ hh).symm.trans hopen
  cases hh.symm.trans hnone

/-- The table's length, by what its entries are. -/
theorem clientFds_len_eq {s : TcpServer} (hs : ServerInv s) :
    s.clientFds.len = s.serving.card + s.waiting.card + s.lostCount := by
  have howned : (s.registered.filter fun fd => !s.isLost fd).length =
      s.serving.card + s.waiting.card := by
    rw [← List.toFinset_card_of_nodup (hs.nodup.filter _), owned_eq hs,
      Finset.card_union_of_disjoint (waiting_disjoint hs),
      Finset.card_image_of_injOn (handlerFd_injOn hs)]
  have hsplit := @List.length_eq_countP_add_countP _ s.isLost s.registered
  have hrest : s.registered.countP (fun fd => decide ¬(s.isLost fd = true)) =
      (s.registered.filter fun fd => !s.isLost fd).length := by
    rw [List.countP_eq_length_filter]
    congr 1
    exact List.filter_congr fun fd _ => by cases s.isLost fd <;> rfl
  rw [hrest, howned, TcpServer.registered, FixedBuffer.length_contents] at hsplit
  rw [hsplit, TcpServer.lostCount, TcpServer.registered, Nat.add_comm]

theorem isLost_iff_lost {s : TcpServer} {fd : Nat} (hfd : fd ∈ s.registered) :
    s.isLost fd = true ↔ ∃ c, Lost s fd c := by
  rw [TcpServer.isLost_iff]
  exact ⟨fun ⟨c, hopen, hnone, hhand⟩ => ⟨c, hfd, hopen, hnone, hhand⟩,
    fun ⟨c, hlost⟩ => ⟨c, hlost.isOpen, hlost.noHandler, hlost.notInHand⟩⟩

theorem ncard_lost {s : TcpServer} (hs : ServerInv s) :
    {fd | ∃ c, Lost s fd c}.ncard = s.lostCount := by
  have hset : {fd | ∃ c, Lost s fd c} = ((s.registered.filter s.isLost).toFinset : Set Nat) := by
    ext fd
    rw [Set.mem_ofPred_eq, Finset.mem_coe, List.mem_toFinset, List.mem_filter]
    constructor
    · rintro ⟨c, hlost⟩
      exact ⟨hlost.listed, (isLost_iff_lost hlost.listed).mpr ⟨c, hlost⟩⟩
    · rintro ⟨hfd, hlost⟩
      exact (isLost_iff_lost hfd).mp hlost
  rw [hset, Set.ncard_coe_finset, List.toFinset_card_of_nodup (hs.nodup.filter _),
    ← List.countP_eq_length_filter, TcpServer.lostCount]

/-- **The accounts.**  In every state of every interleaving the entries are those of the handlers
    in their `recv` loop, the one that waits for its handler, and one for each failure of
    `pthread_create`; and each open connection is in hand, has a handler, or is one of these last,
    which are the only descriptors that are leaked. -/
theorem slots_accounted {isOpen : Nat → Bool} {as : List ServerAction} {s : TcpServer}
    (hrun : run serverStep (.initial isOpen) as = some s) :
    s.clientFds.len = s.serving.card + s.waiting.card + failures as ∧
      {fd | ∃ c, Lost s fd c}.ncard = failures as ∧
      ∀ fd c, s.fds fd = some (.connection c) ↔
        s.thread.inHand = some (fd, c) ∨ (∃ pc, s.handlers c = some ⟨fd, pc⟩) ∨ Lost s fd c := by
  rcases accounted_run hrun with ⟨hs, hacc⟩
  rw [← lostCount_run hrun]
  refine ⟨clientFds_len_eq hs, ncard_lost hs, fun fd c => ⟨fun hopen => ?_, ?_⟩⟩
  · by_cases hhand : s.thread.inHand = some (fd, c)
    · exact .inl hhand
    · rcases hacc fd c hopen with h | h | hlisted
      · exact absurd h hhand
      · exact .inr (.inl h)
      · cases hh : s.handlers c with
        | none => exact .inr (.inr ⟨hlisted, hopen, hh, hhand⟩)
        | some h =>
            obtain rfl : h.fd = fd := hs.unique _ _ c (hs.handler_open c h.fd h.pc hh) hopen
            exact .inr (.inl ⟨h.pc, rfl⟩)
  · rintro (hhand | ⟨pc, hh⟩ | hlost)
    · exact (hs.inHand_open fd c hhand).1
    · exact hs.handler_open c fd pc hh
    · exact hlost.isOpen

theorem slots_accounted_failed :
    ∃ s, run serverStep (.initial fun fd => decide (fd < 4)) failedRun = some s ∧
      s.clientFds.len = s.serving.card + s.waiting.card + 1 ∧
      {fd | ∃ c, Lost s fd c}.ncard = 1 := by
  have hall := @slots_accounted (fun fd => decide (fd < 4)) failedRun _ rfl
  exact ⟨_, rfl, hall.1, hall.2.1⟩

/-- **Slots do not come back.**  `pthread_create` can fail ten times in all.  After `k` failures no
    more than `10 - k` clients are served at a time, and after ten every further one is refused. -/
theorem slots_lost_forever {isOpen : Nat → Bool} {as : List ServerAction} {s : TcpServer}
    (hrun : run serverStep (.initial isOpen) as = some s) :
    failures as ≤ maxClients ∧
      ∀ bs t, run serverStep s bs = some t →
        t.serving.card + t.waiting.card ≤ maxClients - failures as ∧
        (failures as = maxClients → ∀ u, serverStep t .register = some u →
          u.registered = t.registered ∧ ∃ fd c, u.thread = .refused fd c) := by
  have hall : ∀ bs t, run serverStep s bs = some t →
      t.clientFds.len = t.serving.card + t.waiting.card + (failures as + failures bs) := by
    intro bs t ht
    have hlater : run serverStep (.initial isOpen) (as ++ bs) = some t := by
      rw [run_append, hrun]
      exact ht
    rw [(slots_accounted hlater).1, failures, List.countP_append]
    rfl
  refine ⟨?_, fun bs t ht => ⟨?_, fun hten u hu => ?_⟩⟩
  · have hnow := hall [] s rfl
    have hlen : s.clientFds.len ≤ maxClients := s.clientFds.len_le
    omega
  · have hlater := hall bs t ht
    have hlen : t.clientFds.len ≤ maxClients := t.clientFds.len_le
    omega
  · have hlater := hall bs t ht
    cases serverStep_inv hu with
    | register hpc hlt => omega
    | @refuse fd c hpc _ => exact ⟨rfl, fd, c, rfl⟩

theorem slots_lost_forever_failed :
    ∃ s, run serverStep (.initial fun fd => decide (fd < 4)) failedRun = some s ∧
      ∀ bs t, run serverStep s bs = some t → t.serving.card + t.waiting.card ≤ 9 := by
  have hall := @slots_lost_forever (fun fd => decide (fd < 4)) failedRun _ rfl
  exact ⟨_, rfl, fun bs t ht => (hall.2 bs t ht).1⟩

end NodeBridge
