import NodeBridge.EndToEnd.Threads

/-!
# The runs of the threads

The steps of the threads come to runs of the program, and each run of the program can be taken step
by step.  What is delivered is therefore the same, also when it is looked at in the middle of a
call.
-/

open Reasoning

namespace NodeBridge

section

variable {charSigned : Bool} {t : Threads} {s : TcpServer}

/-! ## The actions of the program, step by step -/

theorem threadStep_server {b : LockedAction} (hmode : t.fwd.forwardMode = .forwardServer)
    (hlock : ∀ data, b ≠ .lockSend data) (hunlock : b ≠ .unlockSend) :
    threadStep charSigned t (.server b) =
      (lockedStep t.server b).map fun server => { t with server := server } := by
  cases b with
  | lockSend data => exact absurd rfl (hlock data)
  | unlockSend => exact absurd rfl hunlock
  | _ => exact if_pos hmode

theorem run_locked {bs : List LockedAction} {f g : LockedServer}
    (hmode : t.fwd.forwardMode = .forwardServer) (hf : t.server = f)
    (hbs : ∀ b ∈ bs, (∀ data, b ≠ .lockSend data) ∧ b ≠ .unlockSend)
    (h : run lockedStep f bs = some g) :
    run (threadStep charSigned) t (bs.map .server) = some { t with server := g } := by
  induction bs generalizing t f with
  | nil =>
      cases h
      subst hf
      rfl
  | cons b bs ih =>
      rw [List.forall_mem_cons] at hbs
      rcases run_cons_eq_some.mp h with ⟨u, hu, hrest⟩
      refine run_cons_eq_some.mpr ⟨{ t with server := u }, ?_,
        @ih { t with server := u } u hmode rfl hbs.2 hrest⟩
      rw [threadStep_server hmode hbs.1.1 hbs.1.2, hf, hu]
      rfl

/-- A call of `tcp_server_send`, by whichever thread makes it. -/
theorem exists_sendSteps {data : List UInt8} {results : Nat → SendResult} {server : TcpServer}
    (hmode : t.fwd.forwardMode = .forwardServer) (hfree : t.server = ⟨s, .free⟩)
    (hcall : t.sendCall = some data) (h : tcpServerSend s data results = some server) :
    ∃ bs, run (threadStep charSigned) t bs = some
      (if t.buffer = .sending then { t with server := ⟨server, .free⟩, buffer := .sent }
        else { t with server := ⟨server, .free⟩, called := t.called + 1 }) := by
  rcases exists_send h with ⟨bs, g, hbs, hrun, hunlock⟩
  have hlock : threadStep charSigned t .lockSend =
      some { t with server := ⟨s, .sending data 0⟩ } := by
    rw [threadStep, hcall, hfree]
    rfl
  have hloop := @run_locked charSigned { t with server := ⟨s, .sending data 0⟩ } bs _ g hmode rfl
    (fun b hb => by rcases hbs b hb with ⟨result, rfl⟩; simp) hrun
  refine ⟨.lockSend :: (bs.map .server ++ [.unlockSend]),
    run_cons_eq_some.mpr ⟨_, hlock, ?_⟩⟩
  rw [run_append, hloop]
  refine run_cons_eq_some.mpr ⟨_, ?_, rfl⟩
  exact Option.map_eq_some_iff.mpr ⟨_, hunlock, rfl⟩

-- What the TCP side does with a block when the server is not concerned.
theorem clientHandover_of_handover {p q : Program} {sends : Receiver → List UInt8 → SendResult}
    {fwd : Forwarder} {data : List UInt8} (hmode : p.fwd.forwardMode ≠ .forwardServer)
    (h : p.handover sends fwd (p.fwd.handOver data) = some q) :
    ∃ client, clientHandover p.client (sends .host data) (p.fwd.handOver data) = some client ∧
      q = { p with fwd := fwd, client := client } := by
  rcases Option.bind_eq_some_iff.mp h with ⟨server, hserver, h'⟩
  rcases Option.map_eq_some_iff.mp h' with ⟨client, hclient, rfl⟩
  unfold Forwarder.handOver at hserver hclient ⊢
  split at hserver
  · rename_i hm
    exact absurd hm hmode
  · rename_i hm
    rw [hm] at hclient
    cases hserver
    exact ⟨client, hclient, rfl⟩
  · rename_i hm
    rw [hm] at hclient
    cases hserver
    exact ⟨client, hclient, rfl⟩

theorem tcpServerSend_of_handover {p q : Program} {sends : Receiver → List UInt8 → SendResult}
    {fwd : Forwarder} {data : List UInt8} (hmode : p.fwd.forwardMode = .forwardServer)
    (h : p.handover sends fwd (p.fwd.handOver data) = some q) :
    ∃ results server, tcpServerSend p.server data results = some server ∧
      q = { p with fwd := fwd, server := server } := by
  rw [Forwarder.handOver, hmode] at h
  rcases Option.bind_eq_some_iff.mp h with ⟨server, hserver, h'⟩
  rcases Option.map_eq_some_iff.mp h' with ⟨client, hclient, rfl⟩
  cases hclient
  exact ⟨_, server, hserver, rfl⟩

theorem exists_callSteps {p q : Program} {sends : Receiver → List UInt8 → SendResult}
    (h : programStep charSigned p (.forwarderSend sends) = some q) :
    ∃ bs, run (threadStep charSigned) (.start p) bs = some (.start q) := by
  rw [programStep] at h
  split at h
  · cases h
  · rename_i data hdata
    by_cases huse : p.fwd.useInterval = 0
    · rw [forwarderSend_immediate huse] at h
      by_cases hmode : p.fwd.forwardMode = .forwardServer
      · rcases @tcpServerSend_of_handover { p with called := p.called + 1 } q sends p.fwd data
          hmode h with ⟨results, server, hsend, rfl⟩
        have hcall : (Threads.start p).sendCall = some data := by
          rw [sendCall_of_ne (t := .start p) BufferMutex.noConfusion]
          exact (if_pos ⟨huse, hmode⟩).trans hdata
        exact @exists_sendSteps charSigned (.start p) p.server data results server hmode rfl hcall
          hsend
      · rcases @clientHandover_of_handover { p with called := p.called + 1 } q sends p.fwd data
          hmode h with ⟨client, hclient, rfl⟩
        refine ⟨[.callNow (sends .host data)], run_cons_eq_some.mpr ⟨_, ?_, rfl⟩⟩
        have hdata' : (Threads.start p).reader.sent[(Threads.start p).called]? = some data := hdata
        rw [threadStep, hdata']
        exact (if_pos ⟨huse, hmode⟩).trans (Option.map_eq_some_iff.mpr ⟨client, hclient, rfl⟩)
    · rw [(forwarderSend_contents huse data).2] at h
      rw [Program.handover_none h]
      have hlt : p.called < p.reader.sent.length := (List.getElem?_eq_some_iff.mp hdata).1
      have hlock : threadStep charSigned (.start p) .lockBuffer = some (.idle p .buffering) := by
        rw [threadStep]
        exact if_pos ⟨huse, rfl, hlt⟩
      have hcopy : threadStep charSigned (.idle p .buffering) .copy =
          some (.idle { p with called := p.called + 1, fwd := (forwarderSend p.fwd data).1 }
            .buffered) := by
        have hdata' : (Threads.idle p .buffering).reader.sent[p.called]? = some data := hdata
        simp only [threadStep, Threads.idle] at hdata' ⊢
        rw [hdata']
      exact ⟨[.lockBuffer, .copy, .unlockBuffer], run_cons_eq_some.mpr
        ⟨_, hlock, run_cons_eq_some.mpr ⟨_, hcopy, rfl⟩⟩⟩

theorem exists_flushSteps {p q : Program} {sends : Receiver → List UInt8 → SendResult}
    (h : programStep charSigned p (.flush sends) = some q) :
    ∃ bs, run (threadStep charSigned) (.start p) bs = some (.start q) := by
  have hlock : threadStep charSigned (.start p) .lockFlush = some (.idle p .flushing) := by
    rw [threadStep]
    exact if_pos rfl
  rw [programStep] at h
  by_cases hflush : p.fwd.useInterval ≠ 0 ∧ p.fwd.tcpBuffer.len > 0
  · rw [flushRound, if_pos hflush] at h
    by_cases hmode : p.fwd.forwardMode = .forwardServer
    · rcases tcpServerSend_of_handover hmode h with ⟨results, server, hsend, rfl⟩
      have htest : threadStep charSigned (.idle p .flushing) (.test .failed) =
          some (.idle p .sending) := by
        rw [threadStep]
        exact (if_pos rfl).trans ((if_pos hflush).trans (if_pos hmode))
      rcases @exists_sendSteps charSigned (.idle p .sending) p.server p.fwd.tcpBuffer.contents
        results server hmode rfl (if_pos rfl) hsend with ⟨bs, hbs⟩
      refine ⟨.lockFlush :: .test .failed :: (bs ++ [.reset, .unlockFlush]),
        run_cons_eq_some.mpr ⟨_, hlock, run_cons_eq_some.mpr ⟨_, htest, ?_⟩⟩⟩
      rw [run_append, hbs]
      rfl
    · rcases clientHandover_of_handover hmode h with ⟨client, hclient, rfl⟩
      have htest : threadStep charSigned (.idle p .flushing)
          (.test (sends .host p.fwd.tcpBuffer.contents)) =
          some (.idle { p with client := client } .sent) := by
        rw [threadStep]
        exact (if_pos rfl).trans ((if_pos hflush).trans ((if_neg hmode).trans
          (Option.map_eq_some_iff.mpr ⟨client, hclient, rfl⟩)))
      exact ⟨[.lockFlush, .test _, .reset, .unlockFlush],
        run_cons_eq_some.mpr ⟨_, hlock, run_cons_eq_some.mpr ⟨_, htest, rfl⟩⟩⟩
  · rw [flushRound, if_neg hflush] at h
    rw [Program.handover_none h]
    have htest : threadStep charSigned (.idle p .flushing) (.test .failed) =
        some (.idle p .flushed) := by
      rw [threadStep]
      exact (if_pos rfl).trans (if_neg hflush)
    exact ⟨[.lockFlush, .test .failed, .unlockFlush],
      run_cons_eq_some.mpr ⟨_, hlock, run_cons_eq_some.mpr ⟨_, htest, rfl⟩⟩⟩

theorem exists_threadSteps {p q : Program} (hp : ServerInv p.server) {a : ProgramAction}
    (h : programStep charSigned p a = some q) :
    ∃ bs, run (threadStep charSigned) (.start p) bs = some (.start q) := by
  cases a with
  | hidRead data =>
      refine ⟨[.hidRead data], run_cons_eq_some.mpr ⟨_, ?_, rfl⟩⟩
      rw [programStep] at h
      split at h
      · rename_i r hreader
        rw [Option.ite_none_right_eq_some] at h
        rcases h with ⟨hcalled, h⟩
        rcases Option.map_eq_some_iff.mp h with ⟨r', hr, rfl⟩
        have hreader' : (Threads.start p).reader = .hid r := hreader
        rw [threadStep, hreader']
        exact (if_pos ⟨hcalled, BufferMutex.noConfusion⟩).trans
          (Option.map_eq_some_iff.mpr ⟨r', hr, rfl⟩)
      · cases h
  | comRead result =>
      refine ⟨[.comRead result], run_cons_eq_some.mpr ⟨_, ?_, rfl⟩⟩
      rw [programStep] at h
      split at h
      · rename_i r hreader
        rw [Option.ite_none_right_eq_some] at h
        rcases h with ⟨hcalled, h⟩
        cases h
        have hreader' : (Threads.start p).reader = .com r := hreader
        rw [threadStep, hreader']
        exact if_pos ⟨hcalled, BufferMutex.noConfusion⟩
      · cases h
  | forwarderSend sends => exact exists_callSteps h
  | flush sends => exact exists_flushSteps h
  | server a =>
      rcases programStep_server h with ⟨hsend, server, hserver, rfl⟩
      have hmode : p.fwd.forwardMode = .forwardServer := by
        by_contra hno
        cases a <;> simp [programStep, hno] at h
      rcases exists_ownSteps hp hsend hserver with ⟨bs, hbs, hrun⟩
      refine ⟨bs.map .server, @run_locked charSigned (.start p) bs _ _ hmode rfl ?_ hrun⟩
      intro b hb
      have hown := hbs b hb
      constructor
      · rintro data rfl
        cases hown
      · rintro rfl
        cases hown
  | client a =>
      rcases programStep_client h with ⟨hsend, client, hclient, rfl⟩
      have hmode : p.fwd.forwardMode = .forwardClient := by
        by_contra hno
        cases a <;> simp [programStep, hno] at h
      refine ⟨[.client a], run_cons_eq_some.mpr ⟨{ Threads.start p with client := client }, ?_,
        rfl⟩⟩
      cases a with
      | send data result => exact absurd rfl (hsend data result)
      | stop => cases h
      | _ => exact (if_pos hmode).trans (Option.map_eq_some_iff.mpr ⟨client, hclient, rfl⟩)

variable {parse : CString → Option Json} {file : Option (List UInt8)} {locals : Locals}
  {isOpen : Nat → Bool}

theorem serverInv_mainStart {p : Program} (hmain : mainStart parse file locals isOpen = .ok p) :
    ServerInv p.server :=
  (feed_start hmain .host).1.server

theorem abreast_run {p : Program} (hmain : mainStart parse file locals isOpen = .ok p)
    {bs : List ThreadAction} {t : Threads}
    (hrun : run (threadStep charSigned) (.start p) bs = some t) :
    ∃ parts s, List.Forall₂ ThreadAction.Performs bs parts ∧
      run (programStep charSigned) p parts.flatten = some (t.program s) ∧ Abreast t s := by
  have hstart : ∃ s, p = (Threads.start p).program s ∧ Abreast (.start p) s :=
    ⟨p.server, rfl, abreast_start (serverInv_mainStart hmain)⟩
  rcases threadStep_simulates.run hstart hrun with ⟨parts, q, hparts, hq, s, rfl, h⟩
  exact ⟨parts, s, hparts, hq, h⟩

theorem threadSteps_simulate : Simulates (programStep charSigned) (threadStep charSigned)
    (fun _ _ => True) fun p t => ProgramInv p ∧ t = .start p := by
  rintro p t a q ⟨hp, rfl⟩ h
  rcases exists_threadSteps hp.server h with ⟨bs, hbs⟩
  exact ⟨bs, .start q, trivial, hbs, (programStep_feed hp h).1, rfl⟩

/-- **The threads.**  Whatever the threads do, step by step, comes to a run of the program, with the
    reads and the steps of the TCP threads where they are and each call and each flush round at one
    point while it is under way; and the program that it ends in is the one of the threads, with a
    call of `tcp_server_send` that is under way still to come.  The states that are reached with
    both mutexes free are those of the program. -/
theorem threads_atomic {p : Program} (hmain : mainStart parse file locals isOpen = .ok p) :
    (∀ bs t, run (threadStep charSigned) (.start p) bs = some t →
      ∃ parts s, List.Forall₂ ThreadAction.Performs bs parts ∧
        run (programStep charSigned) p parts.flatten = some (t.program s) ∧
        Behind t.server s) ∧
      ∀ q, (∃ bs, run (threadStep charSigned) (.start p) bs = some (.start q)) ↔
        ∃ as, run (programStep charSigned) p as = some q := by
  refine ⟨fun bs t hrun => ?_, fun q => ⟨fun ⟨bs, hbs⟩ => ?_, fun ⟨as, has⟩ => ?_⟩⟩
  · rcases abreast_run hmain hrun with ⟨parts, s, hparts, hq, h⟩
    exact ⟨parts, s, hparts, hq, h.behind⟩
  · rcases abreast_run hmain hbs with ⟨parts, s, -, hq, h⟩
    obtain rfl := h.behind.of_free
    exact ⟨parts.flatten, hq⟩
  · rcases threadSteps_simulate.run ⟨(feed_start hmain .host).1, rfl⟩ has with
      ⟨parts, t, -, ht, -, rfl⟩
    exact ⟨parts.flatten, ht⟩

-- The two bytes reach the client step by step as well.
theorem threads_atomic_two_bytes :
    ∃ p q bs, comMain = .ok p ∧ run (threadStep true) (.start p) bs = some (.start q) ∧
      q.got (.connection 0) = utf8 "ab" := by
  rcases twoBytesRead_run with ⟨p, q, hmain, -, hrun, hgot⟩
  rcases ((threads_atomic hmain).2 q).mpr ⟨_, hrun⟩ with ⟨bs, hbs⟩
  exact ⟨p, q, bs, hmain, hbs, hgot⟩

/-! ## What the receivers have at any moment -/

def Threads.got (t : Threads) : Receiver → List UInt8
  | .connection c => t.server.server.received c
  | .host => takenBytes t.client.log

-- A loop of sends can be brought to its end without anything more being taken.
theorem exists_failedSends {f : TcpServer} {data : List UInt8} {i : Nat} :
    ∃ bs j, (∀ b ∈ bs, b = .sendNext .failed) ∧ ¬ j < f.registered.length ∧
      run lockedStep ⟨f, .sending data i⟩ bs = some ⟨f, .sending data j⟩ := by
  induction hn : f.registered.length - i generalizing i with
  | zero => exact ⟨[], i, by simp, by omega, rfl⟩
  | succ n ih =>
      rcases @ih (i + 1) (by omega) with ⟨bs, j, hbs, hj, hrun⟩
      refine ⟨.sendNext .failed :: bs, j, List.forall_mem_cons.mpr ⟨rfl, hbs⟩, hj,
        run_cons_eq_some.mpr ⟨_, ?_, hrun⟩⟩
      have hi : i < f.registered.length := by omega
      have hfailed : sendTo data (fun _ => .failed) f (f.registered.get ⟨i, hi⟩) = some f := by
        unfold sendTo
        split <;> rfl
      simp only [lockedStep]
      rw [dif_pos hi, hfailed]
      rfl

theorem exists_sent (h : Abreast t s) : ∃ bs t', run (threadStep charSigned) t bs = some t' ∧
    (∀ data i, t'.server.mutex ≠ .sending data i) ∧ t'.reader = t.reader ∧ t'.got = t.got := by
  by_cases hsending : ∃ data i, t.server.mutex = .sending data i
  · rcases hsending with ⟨data, i, hm⟩
    have hcall := h.sends data i hm
    have hmode : t.fwd.forwardMode = .forwardServer := by
      by_cases hb : t.buffer = .sending
      · exact (h.flushes hb).2.2
      · rw [sendCall_of_ne hb, Option.ite_none_right_eq_some] at hcall
        exact hcall.1.2
    have hserver : t.server = ⟨t.server.server, .sending data i⟩ := by rw [← hm]
    rcases @exists_failedSends t.server.server data i with ⟨bs, j, hbs, hj, hrun⟩
    have hloop := @run_locked charSigned t bs _ _ hmode hserver
      (fun b hb => by rw [hbs b hb]; simp) hrun
    have hunlock : ∃ t', threadStep charSigned
        { t with server := ⟨t.server.server, .sending data j⟩ } .unlockSend = some t' ∧
        (∀ data i, t'.server.mutex ≠ .sending data i) ∧ t'.reader = t.reader ∧
        t'.got = t.got := by
      simp only [threadStep, lockedStep]
      rw [if_neg hj]
      refine ⟨_, rfl, ?_⟩
      split
      · exact ⟨fun _ _ => ClientMutex.noConfusion, rfl, funext fun r => by cases r <;> rfl⟩
      · exact ⟨fun _ _ => ClientMutex.noConfusion, rfl, funext fun r => by cases r <;> rfl⟩
    rcases hunlock with ⟨t', ht', hfinal⟩
    refine ⟨bs.map .server ++ [.unlockSend], t', ?_, hfinal⟩
    rw [run_append, hloop]
    exact run_cons_eq_some.mpr ⟨t', ht', rfl⟩
  · simp only [not_exists] at hsending
    exact ⟨[], t, rfl, hsending, rfl, rfl⟩

/-- **Nothing twice, at any moment.**  Also in the middle of a call of `tcp_server_send` what a
    receiver has is the data of the reader with parts left out. -/
theorem threads_nothing_twice {p : Program} (hmain : mainStart parse file locals isOpen = .ok p)
    {bs : List ThreadAction} {t : Threads}
    (hrun : run (threadStep charSigned) (.start p) bs = some t) (r : Receiver) :
    (t.got r).Sublist t.reader.sent.flatten := by
  rcases abreast_run hmain hrun with ⟨-, s, -, -, h⟩
  rcases @exists_sent charSigned t s h with ⟨cs, t', hcs, hnot, hreader, hgot⟩
  have hrun' : run (threadStep charSigned) (.start p) (bs ++ cs) = some t' := by
    rw [run_append, hrun]
    exact hcs
  rcases abreast_run hmain hrun' with ⟨parts, s', -, hq, h'⟩
  have hserver : t'.server.server = s' := h'.behind.server_of_not_sending hnot
  have hpieces := pieces_run hmain hq r
  have hgot' : (t'.program s').got r = t.got r := by
    rw [← hgot, ← hserver]
    cases r <;> rfl
  rw [hgot'] at hpieces
  rw [← hreader]
  exact hpieces.received_sublist.trans (published_sublist (t'.program s')).flatten

def firstClientSteps : List ThreadAction :=
  [.server (.unlocked (.accept 4)), .server .lockRegister, .server .register,
    .server .unlockRegister, .server (.unlocked (.createHandler true))]

def oneByteSent : List ThreadAction :=
  [.comRead (some comAb), .lockSend, .server (.sendNext (.taken 1))]

-- In the middle of the call, of whose two bytes the client has got one.
theorem oneByteSent_run :
    ∃ p t, comMain = .ok p ∧
      run (threadStep true) (.start p) (firstClientSteps ++ oneByteSent) = some t ∧
      t.server.mutex = .sending (utf8 "ab") 1 ∧ t.got (.connection 0) = utf8 "a" := by
  have hall : (comMain.toOption.bind fun p =>
      (run (threadStep true) (.start p) (firstClientSteps ++ oneByteSent)).map fun t =>
        (t.server.mutex, t.got (.connection 0))) =
      some (.sending (utf8 "ab") 1, utf8 "a") := by decide +kernel
  rcases Option.bind_eq_some_iff.mp hall with ⟨p, hp, hrest⟩
  rcases Option.map_eq_some_iff.mp hrest with ⟨t, ht, hvalues⟩
  rw [Prod.mk.injEq] at hvalues
  exact ⟨p, t, comMain_eq_ok hp, ht, hvalues⟩

theorem threads_nothing_twice_one_byte :
    ∃ t : Threads, t.got (.connection 0) = utf8 "a" ∧
      (t.got (.connection 0)).Sublist t.reader.sent.flatten := by
  rcases oneByteSent_run with ⟨p, t, hmain, hrun, -, hgot⟩
  exact ⟨t, hgot, threads_nothing_twice hmain hrun (.connection 0)⟩

end

end NodeBridge
