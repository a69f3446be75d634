import NodeBridge.Tcp.ClientTable

/-!
# What each connection receives

With every `send` taking its whole block, a connection has received exactly the blocks sent between
its registration and its removal.
-/

open Reasoning

namespace NodeBridge

-- Connection `c` has an entry in the table.
def TcpServer.Listed (s : TcpServer) (c : Nat) : Prop :=
  ∃ fd ∈ s.registered, s.fds fd = some (.connection c)

instance (s : TcpServer) (c : Nat) : Decidable (s.Listed c) :=
  inferInstanceAs (Decidable (∃ fd ∈ s.registered, s.fds fd = some (.connection c)))

/-! ## One call of `tcp_server_send` -/

-- The connections in `dest` have received `data`.
def TcpServer.deliver (s : TcpServer) (data : List UInt8) (dest : Nat → Prop) [DecidablePred dest] :
    TcpServer :=
  { s with received := fun c => s.received c ++ if dest c then data else [] }

theorem TcpServer.deliver_none (s : TcpServer) (data : List UInt8) (dest : Nat → Prop)
    [DecidablePred dest] (h : ∀ c, ¬ dest c) : s.deliver data dest = s := by
  simp [deliver, h]

section

variable {data : List UInt8} {results : Nat → SendResult} {intact : Nat → Bool}

theorem sendTo_intact (s : TcpServer) (fd : Nat)
    (hresults : ∀ c, s.fds fd = some (.connection c) →
      results c = if intact c then .taken data.length else .failed) :
    sendTo data results s fd =
      some (s.deliver data fun c => s.fds fd = some (.connection c) ∧ intact c = true) := by
  unfold sendTo
  split
  · rename_i c₀ hfd
    rw [hresults c₀ hfd]
    cases hintact : intact c₀ with
    | true =>
        simp only [if_true, List.take_length, TcpServer.deliver]
        congr 2
        funext c
        by_cases hc : c = c₀
        · simp [hc, hfd, hintact]
        · have hne : ¬ c₀ = c := fun he => hc he.symm
          simp [hc, hne, hfd]
    | false =>
        simp only [Bool.false_eq_true, if_false]
        rw [TcpServer.deliver_none]
        rintro c ⟨hc, hc'⟩
        rw [hfd] at hc
        cases hc
        rw [hintact] at hc'
        cases hc'
  · rename_i hno
    rw [TcpServer.deliver_none _ _ _ fun c hc => hno c hc.1]

/-- A block goes once to every connection named in a list without repetitions whose `send` does
    not fail. -/
theorem sendAll_intact {fds : List Nat} (s : TcpServer) (hnodup : fds.Nodup)
    (huniq : ∀ fd fd' c, s.fds fd = some (.connection c) → s.fds fd' = some (.connection c) →
      fd = fd')
    (hresults : ∀ c, (∃ fd ∈ fds, s.fds fd = some (.connection c)) →
      results c = if intact c then .taken data.length else .failed) :
    fds.foldlM (sendTo data results) s = some (s.deliver data fun c =>
      (∃ fd ∈ fds, s.fds fd = some (.connection c)) ∧ intact c = true) := by
  induction fds generalizing s with
  | nil =>
      rw [TcpServer.deliver_none _ _ _ (by simp)]
      rfl
  | cons fd fds ih =>
      rw [List.nodup_cons] at hnodup
      have hrest := ih (s.deliver data fun c => s.fds fd = some (.connection c) ∧ intact c = true)
        hnodup.2 huniq fun c ⟨fd', hmem, hc⟩ =>
          hresults c ⟨fd', List.mem_cons_of_mem fd hmem, hc⟩
      have hone := sendTo_intact s fd fun c hc => hresults c ⟨fd, List.mem_cons_self, hc⟩
      rw [List.foldlM_cons, hone, Option.bind_eq_bind, Option.bind_some, hrest]
      simp only [TcpServer.deliver]
      congr 2
      funext c
      by_cases hfd : s.fds fd = some (.connection c)
      · -- no later entry names `c` again
        have hlast : ¬ ∃ fd' ∈ fds, s.fds fd' = some (.connection c) := fun ⟨fd', hmem, he⟩ =>
          hnodup.1 (huniq fd fd' c hfd he ▸ hmem)
        simp [hfd, hlast]
      · by_cases hlater : ∃ fd' ∈ fds, s.fds fd' = some (.connection c)
        · simp [hfd, hlater]
        · simp [hfd, hlater]

theorem tcpServerSend_intact {s : TcpServer} (hs : ServerInv s)
    (hresults : ∀ c, s.Listed c →
      results c = if intact c then .taken data.length else .failed) :
    tcpServerSend s data results =
      some (({ s with log := s.log ++ [.sent data] } : TcpServer).deliver data
        fun c => s.Listed c ∧ intact c = true) :=
  sendAll_intact { s with log := s.log ++ [.sent data] } hs.nodup hs.unique hresults

theorem tcpServerSend_whole {s : TcpServer} (hs : ServerInv s)
    (hwhole : ∀ c, results c = .taken data.length) :
    tcpServerSend s data results =
      some (({ s with log := s.log ++ [.sent data] } : TcpServer).deliver data s.Listed) := by
  rw [@tcpServerSend_intact data results (fun _ => true) s hs fun c _ => by simpa using hwhole c]
  simp [TcpServer.deliver]

end

/-! ## The blocks due to a connection -/

-- Whether `c` is registered, and the blocks sent while it was.
def track (c : Nat) (w : Bool × List (List UInt8)) : ServerEvent → Bool × List (List UInt8)
  | .registered d => if d = c then (true, w.2) else w
  | .removed d => if d = c then (false, w.2) else w
  | .refused _ => w
  | .sent data => if w.1 then (true, w.2 ++ [data]) else w

/-- The blocks of the `tcp_server_send` calls between the registration of `c` and its removal, in
    call order. -/
def blocksSentTo (c : Nat) (log : List ServerEvent) : List (List UInt8) :=
  (log.foldl (track c) (false, [])).2

-- After `log`, connection `c` is registered.
def registeredAfter (c : Nat) (log : List ServerEvent) : Bool :=
  (log.foldl (track c) (false, [])).1

theorem tracked_append (c : Nat) (log : List ServerEvent) (e : ServerEvent) :
    (registeredAfter c (log ++ [e]), blocksSentTo c (log ++ [e])) =
      track c (registeredAfter c log, blocksSentTo c log) e := by
  simp only [registeredAfter, blocksSentTo, List.foldl_append, List.foldl_cons, List.foldl_nil]

structure Exact (s : TcpServer) : Prop where
  listed : ∀ c, registeredAfter c s.log = true ↔ s.Listed c
  received : ∀ c, s.received c = (blocksSentTo c s.log).flatten

-- How often connection `c` was registered or refused.
def decisions (c : Nat) (log : List ServerEvent) : Nat :=
  log.count (.registered c) + log.count (.refused c)

def ServerEvent.decides (c : Nat) : ServerEvent → Nat
  | .registered d => if d = c then 1 else 0
  | .refused d => if d = c then 1 else 0
  | _ => 0

theorem decisions_append (c : Nat) (log : List ServerEvent) (e : ServerEvent) :
    decisions c (log ++ [e]) = decisions c log + e.decides c := by
  cases e <;> simp [decisions, ServerEvent.decides, List.count_singleton] <;> omega

structure DecidedOnce (s : TcpServer) : Prop where
  once : ∀ c, decisions c s.log ≤ 1
  undecided : ∀ c, s.conns ≤ c ∨ (∃ fd, s.thread = .accepted fd c) → decisions c s.log = 0

def WholeSends : ServerAction → Prop
  | .send data results => ∀ c, results c = .taken data.length
  | _ => True

theorem Exact.of_same {s t : TcpServer} (h : Exact s) (hlog : t.log = s.log)
    (hreceived : t.received = s.received) (hlisted : ∀ c, t.Listed c ↔ s.Listed c) : Exact t :=
  ⟨fun c => by rw [hlog, hlisted c]; exact h.listed c,
    fun c => by rw [hlog, hreceived]; exact h.received c⟩

-- An event that is not a send adds no block.
theorem Exact.of_event {s t : TcpServer} (h : Exact s) {e : ServerEvent}
    (hlog : t.log = s.log ++ [e]) (hreceived : t.received = s.received)
    (hblocks : ∀ c w, (track c w e).2 = w.2)
    (hlisted : ∀ c, (track c (registeredAfter c s.log, blocksSentTo c s.log) e).1 = true ↔
      t.Listed c) : Exact t := by
  constructor
  · intro c
    rw [← hlisted c, ← tracked_append, hlog]
  · intro c
    have hstep := congrArg Prod.snd (tracked_append c s.log e)
    rw [hblocks] at hstep
    rw [hreceived, h.received c, hlog]
    exact congrArg List.flatten hstep.symm

-- Only the entries' own descriptors count.
theorem listed_update {s t : TcpServer} {fd : Nat} {v : Option Descriptor}
    (hout : fd ∉ s.registered) (htable : t.clientFds = s.clientFds)
    (hfds : t.fds = Function.update s.fds fd v) (c : Nat) : t.Listed c ↔ s.Listed c := by
  have hsame : ∀ x ∈ s.registered, t.fds x = s.fds x := by
    intro x hx
    have hne : x ≠ fd := fun he => hout (he ▸ hx)
    rw [hfds, Function.update_of_ne hne]
  show (∃ x ∈ t.clientFds.contents, t.fds x = some (.connection c)) ↔ s.Listed c
  rw [htable]
  refine exists_congr fun x => and_congr_right fun hx => ?_
  rw [hsame x hx]

theorem ServerInv.unlisted {s : TcpServer} (hs : ServerInv s) {fd : Nat}
    (hno : ∀ c, s.fds fd ≠ some (.connection c)) : fd ∉ s.registered := by
  intro hmem
  rcases hs.listed_open fd hmem with ⟨c, hc⟩
  exact hno c hc

theorem Exact.register {s : TcpServer} (hs : ServerInv s) (h : Exact s) {fd c : Nat}
    (hpc : s.thread = .accepted fd c) (hlen : s.clientFds.len < maxClients) :
    Exact { s with
      clientFds := s.clientFds.push fd hlen
      thread := .registered fd c
      log := s.log ++ [.registered c] } := by
  have hopen := hs.inHand_open fd c (by rw [hpc]; rfl)
  have hpush := s.clientFds.contents_push fd hlen
  refine h.of_event rfl rfl (fun d w => by simp only [track]; split <;> rfl) fun d => ?_
  have hl := h.listed d
  grind [TcpServer.Listed, TcpServer.registered, track]

theorem Exact.remove {s : TcpServer} (hs : ServerInv s) (h : Exact s) {fd c : Nat}
    (hh : s.handlers c = some ⟨fd, .receiving⟩) :
    Exact { s with
      clientFds := removeClient s.clientFds fd
      handlers := Function.update s.handlers c (some ⟨fd, .closing⟩)
      log := s.log ++ [.removed c] } := by
  have hopen := hs.handler_open c fd _ hh
  have hmem : ∀ x, x ∈ (removeClient s.clientFds fd).contents ↔
      x ∈ s.registered ∧ x ≠ fd := fun x => mem_removeClient hs.nodup
  refine h.of_event rfl rfl (fun d w => by simp only [track]; split <;> rfl) fun d => ?_
  have hl := h.listed d
  grind [TcpServer.Listed, TcpServer.registered, track]

-- A block goes to the connections that the log has as registered.
theorem Exact.send {s : TcpServer} (h : Exact s) {data : List UInt8}
    {received : Nat → List UInt8}
    (hreceived : ∀ c, received c = s.received c ++ if s.Listed c then data else []) :
    Exact { s with received := received, log := s.log ++ [.sent data] } := by
  constructor
  · intro c
    have htrack : registeredAfter c (s.log ++ [.sent data]) = _ :=
      congrArg Prod.fst (tracked_append c s.log (.sent data))
    show registeredAfter c (s.log ++ [.sent data]) = true ↔ s.Listed c
    rw [htrack, ← h.listed c, track]
    by_cases hbefore : registeredAfter c s.log = true
    · simp [hbefore]
    · simp [hbefore]
  · intro c
    have hl := h.listed c
    have htrack : blocksSentTo c (s.log ++ [.sent data]) = _ :=
      congrArg Prod.snd (tracked_append c s.log (.sent data))
    show received c = (blocksSentTo c (s.log ++ [.sent data])).flatten
    rw [hreceived c, h.received c, htrack, track]
    by_cases hlisted : s.Listed c
    · simp [hl.mpr hlisted, hlisted]
    · simp [mt hl.mp hlisted, hlisted]

theorem exact_step {s t : TcpServer} {a : ServerAction} (hs : ServerInv s) (h : Exact s)
    (ha : WholeSends a) (hstep : serverStep s a = some t) : Exact t := by
  cases serverStep_inv hstep with
  | @accept fd _ hfree =>
      have hout : fd ∉ s.registered := hs.unlisted fun c => by simp [hfree]
      exact h.of_same rfl rfl (listed_update hout rfl rfl)
  | register hpc hlen => exact h.register hs hpc hlen
  | refuse _ _ => exact h.of_event rfl rfl (fun _ _ => rfl) h.listed
  | create _ => exact h.of_same rfl rfl fun c => Iff.rfl
  | createFails _ => exact h.of_same rfl rfl fun c => Iff.rfl
  | @closeRefused fd c hpc =>
      have hout : fd ∉ s.registered := fun hmem => by
        have hregistered := (hs.inHand_listed fd c (by rw [hpc]; rfl)).mp hmem
        simp [hpc] at hregistered
      exact h.of_same rfl rfl (listed_update hout rfl rfl)
  | remove hh => exact h.remove hs hh
  | @close fd c hh =>
      have hout := hs.closing_unlisted c fd hh
      exact h.of_same rfl rfl (listed_update hout rfl rfl)
  | send received hsend =>
      rw [tcpServerSend_whole hs ha] at hsend
      have hreceived := congrArg TcpServer.received (Option.some.inj hsend)
      exact h.send fun c => (congrFun hreceived c).symm
  | @openOther fd hfree =>
      have hout : fd ∉ s.registered := hs.unlisted fun c => by simp [hfree]
      exact h.of_same rfl rfl (listed_update hout rfl rfl)
  | @closeOther fd hother =>
      have hout : fd ∉ s.registered := hs.unlisted fun c => by simp [hother]
      exact h.of_same rfl rfl (listed_update hout rfl rfl)

-- A decision on the connection in hand is its first.
theorem DecidedOnce.decide {s t : TcpServer} (hs : ServerInv s) (h : DecidedOnce s) {fd c₀ : Nat}
    (hpc : s.thread = .accepted fd c₀) {e : ServerEvent}
    (he : ∀ c, e.decides c = if c₀ = c then 1 else 0) (hlog : t.log = s.log ++ [e])
    (hconns : t.conns = s.conns) (hthread : ∀ fd' c, t.thread ≠ .accepted fd' c) :
    DecidedOnce t := by
  have hzero := h.undecided c₀ (.inr ⟨fd, hpc⟩)
  have hlt := hs.conn_lt fd c₀ (hs.inHand_open fd c₀ (by rw [hpc]; rfl)).1
  constructor
  · intro c
    have hc := h.once c
    rw [hlog, decisions_append, he c]
    split
    · rename_i heq
      subst heq
      omega
    · exact hc
  · intro c hc
    have hle : s.conns ≤ c := by
      rcases hc with hle | ⟨fd', hacc⟩
      · rwa [hconns] at hle
      · exact absurd hacc (hthread fd' c)
    rw [hlog, decisions_append, he c, if_neg (by omega), h.undecided c (.inl hle)]

theorem DecidedOnce.of_same {s t : TcpServer} (h : DecidedOnce s)
    (hlog : ∀ c, decisions c t.log = decisions c s.log) (hconns : t.conns = s.conns)
    (hthread : ∀ fd c, t.thread = .accepted fd c → s.thread = .accepted fd c) :
    DecidedOnce t := by
  refine ⟨fun c => by rw [hlog c]; exact h.once c, fun c hc => ?_⟩
  rw [hlog c, h.undecided c]
  rcases hc with hle | ⟨fd, hacc⟩
  · exact .inl (hconns ▸ hle)
  · exact .inr ⟨fd, hthread fd c hacc⟩

theorem decidedOnce_step {s t : TcpServer} {a : ServerAction} (hs : ServerInv s)
    (h : DecidedOnce s) (hstep : serverStep s a = some t) : DecidedOnce t := by
  cases serverStep_inv hstep with
  | accept _ _ =>
      refine ⟨h.once, fun c hc => h.undecided c (.inl ?_)⟩
      rcases hc with hlt | ⟨fd, hthread⟩
      · exact Nat.le_of_succ_le hlt
      · cases hthread
        exact Nat.le_refl _
  | register hpc _ => exact h.decide hs hpc (fun _ => rfl) rfl rfl (by simp)
  | refuse hpc _ => exact h.decide hs hpc (fun _ => rfl) rfl rfl (by simp)
  | create _ => exact h.of_same (fun _ => rfl) rfl (by simp)
  | createFails _ => exact h.of_same (fun _ => rfl) rfl (by simp)
  | closeRefused _ => exact h.of_same (fun _ => rfl) rfl (by simp)
  | remove _ => exact h.of_same (fun _ => decisions_append _ _ _) rfl fun _ _ => id
  | close _ => exact ⟨h.once, h.undecided⟩
  | send received _ => exact h.of_same (fun _ => decisions_append _ _ _) rfl fun _ _ => id
  | openOther _ => exact ⟨h.once, h.undecided⟩
  | closeOther _ => exact ⟨h.once, h.undecided⟩

theorem blocksSentTo_of_notMem {c : Nat} {log : List ServerEvent}
    (h : .registered c ∉ log) : blocksSentTo c log = [] := by
  suffices hfold : log.foldl (track c) (false, []) = (false, []) by rw [blocksSentTo, hfold]
  induction log with
  | nil => rfl
  | cons e log ih =>
      rw [List.mem_cons, not_or] at h
      have hstay : track c (false, []) e = (false, []) := by
        cases e with
        | registered d =>
            have hne : d ≠ c := fun he => h.1 (he ▸ rfl)
            simp [track, hne]
        | removed d => simp [track]
        | refused d => rfl
        | sent data => rfl
      rw [List.foldl_cons, hstay, ih h.2]

theorem broadcastInv_run {isOpen : Nat → Bool} {as : List ServerAction} {s : TcpServer}
    (hwhole : ∀ a ∈ as, WholeSends a) (hrun : run serverStep (.initial isOpen) as = some s) :
    Exact s ∧ DecidedOnce s := by
  have hok : Along serverStep (fun _ a => WholeSends a) (.initial isOpen) as :=
    along_of_forall (fun _ a ha => hwhole a ha) _
  have hstep : ∀ u a v, ServerInv u ∧ Exact u ∧ DecidedOnce u → WholeSends a →
      serverStep u a = some v → ServerInv v ∧ Exact v ∧ DecidedOnce v :=
    fun u a v hu ha hv => ⟨serverInv_step hu.1 hv, exact_step hu.1 hu.2.1 ha hv,
      decidedOnce_step hu.1 hu.2.2 hv⟩
  have hexact : Exact (.initial isOpen) := by
    refine ⟨fun c => ⟨fun h => ?_, fun ⟨fd, hfd, _⟩ => ?_⟩, fun c => rfl⟩
    · cases h
    · exact absurd hfd List.not_mem_nil
  have hdecided : DecidedOnce (.initial isOpen) := ⟨fun c => Nat.zero_le 1, fun c _ => rfl⟩
  exact (along_invariant hstep ⟨serverInv_initial isOpen, hexact, hdecided⟩ hok hrun).2

/-- **Broadcast exactness.**  In every interleaving of accepts, removals and sends that take their
    whole block, each connection has received exactly the blocks sent between its registration,
    which happens once at most, and its removal; a refused connection has received nothing. -/
theorem broadcast_exact {isOpen : Nat → Bool} {as : List ServerAction} {s : TcpServer}
    (hwhole : ∀ a ∈ as, WholeSends a) (hrun : run serverStep (.initial isOpen) as = some s)
    (c : Nat) :
    s.received c = (blocksSentTo c s.log).flatten ∧ s.log.count (.registered c) ≤ 1 ∧
      (.refused c ∈ s.log → s.received c = []) := by
  rcases broadcastInv_run hwhole hrun with ⟨hexact, hdecided⟩
  have honce := hdecided.once c
  unfold decisions at honce
  refine ⟨hexact.received c, by omega, fun hrefused => ?_⟩
  have hpos := List.count_pos_iff.mpr hrefused
  have hnot : .registered c ∉ s.log := List.count_eq_zero.mp (by omega)
  rw [hexact.received c, blocksSentTo_of_notMem hnot]
  rfl

-- Two clients, the first removed between two sends.
def twoClientsRun : List ServerAction :=
  [.accept 4, .register, .createHandler true, .accept 5, .register, .createHandler true,
    .send [1] fun _ => .taken 1, .removeClient 0, .closeClient 0, .send [2] fun _ => .taken 1]

theorem broadcast_exact_two_clients :
    ∃ s, run serverStep (.initial fun fd => decide (fd < 4)) twoClientsRun = some s ∧
      s.received 0 = [1] ∧ s.received 1 = (blocksSentTo 1 s.log).flatten := by
  refine ⟨_, rfl, rfl, ?_⟩
  exact (@broadcast_exact (fun fd => decide (fd < 4)) twoClientsRun _
    (by simp [twoClientsRun, WholeSends]) rfl 1).1

end NodeBridge
