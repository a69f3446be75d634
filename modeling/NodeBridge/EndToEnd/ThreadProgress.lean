import NodeBridge.EndToEnd.ThreadRuns

/-!
# Who can go on

`client_mutex` is only asked for inside `tcp_buffer_mutex`, never the other way round, so that one
of the threads that hold a mutex can always go on.  Except for a `send` that does not return: then
everything stops but the waiting for it, the reader included.
-/

open Reasoning

namespace NodeBridge

-- Steps of a thread that holds one of the mutexes.
def ThreadAction.inSection (t : Threads) : ThreadAction → Bool
  | .copy => true
  | .unlockBuffer => true
  | .test _ => true
  | .reset => true
  | .unlockFlush => true
  | .lockSend => t.buffer = .sending
  | .unlockSend => true
  | .server b => b.inSection
  | _ => false

-- What the system call of this step returns, if it makes one.
def ThreadAction.result : ThreadAction → Option SendResult
  | .test result => some result
  | .server (.sendNext result) => some result
  | _ => none

structure ThreadInv (t : Threads) : Prop where
  abreast : ∃ s, Abreast t s
  calling : t.buffer = .buffering → t.called < t.reader.sent.length
  mode : t.server.mutex ≠ .free → t.fwd.forwardMode = .forwardServer

section

variable {charSigned : Bool} {t t' : Threads} {s : TcpServer}

theorem calling_step (h : Abreast t s) (hcalling : t.buffer = .buffering → t.called <
    t.reader.sent.length) {a : ThreadAction} (hstep : threadStep charSigned t a = some t')
    (hbuffer : t'.buffer = .buffering) : t'.called < t'.reader.sent.length := by
  cases threadStep_inv hstep with
  | hidRead _ hcalled =>
      -- a call that is under way keeps the reader from reading
      have hlt := hcalling hbuffer
      omega
  | comRead _ hcalled =>
      have hlt := hcalling hbuffer
      omega
  | lockBuffer _ _ hcall => exact hcall
  | callNow _ huse => exact absurd huse (h.interval (.inl hbuffer))
  | @callSent f data i hf _ hb =>
      -- with the interval on the reader is not in `tcp_server_send`
      have hcall := h.sends data i (by rw [hf])
      rw [sendCall_of_ne hb, Option.ite_none_right_eq_some] at hcall
      exact absurd hcall.1.1 (h.interval (.inl hbuffer))
  | lockSend => exact hcalling hbuffer
  | server => exact hcalling hbuffer
  | client => exact hcalling hbuffer
  | _ => cases hbuffer

theorem mode_of_sendCall (h : Abreast t s) {data : List UInt8} (hcall : t.sendCall = some data) :
    t.fwd.forwardMode = .forwardServer := by
  by_cases hb : t.buffer = .sending
  · exact (h.flushes hb).2.2
  · rw [sendCall_of_ne hb, Option.ite_none_right_eq_some] at hcall
    exact hcall.1.2

theorem mode_step (h : Abreast t s)
    (hmode : t.server.mutex ≠ .free → t.fwd.forwardMode = .forwardServer) {a : ThreadAction}
    (hstep : threadStep charSigned t a = some t') (hheld : t'.server.mutex ≠ .free) :
    t'.fwd.forwardMode = .forwardServer := by
  cases threadStep_inv hstep with
  | copy =>
      rw [(forwarderSend_settings t.fwd _).2.2]
      exact hmode hheld
  | lockSend hcall =>
      have hserver := mode_of_sendCall h hcall
      exact hserver
  | flushSent => exact absurd rfl hheld
  | callSent => exact absurd rfl hheld
  | server hserver => exact hserver
  | _ => exact hmode hheld

theorem threadInv_step {a : ThreadAction} (ht : ThreadInv t)
    (hstep : threadStep charSigned t a = some t') : ThreadInv t' := by
  rcases ht.abreast with ⟨s, h⟩
  rcases threadStep_matched h hstep with ⟨-, s', -, -, h'⟩
  exact ⟨⟨s', h'⟩, calling_step h ht.calling hstep, mode_step h ht.mode hstep⟩

variable {parse : CString → Option Json} {file : Option (List UInt8)} {locals : Locals}
  {isOpen : Nat → Bool}

theorem threadInv_run {p : Program} (hmain : mainStart parse file locals isOpen = .ok p)
    {bs : List ThreadAction} (hrun : run (threadStep charSigned) (.start p) bs = some t) :
    ThreadInv t :=
  run_invariant (fun _ _ _ => threadInv_step)
    ⟨⟨_, abreast_start (serverInv_mainStart hmain)⟩, (BufferMutex.noConfusion ·),
      fun hheld => absurd rfl hheld⟩ hrun

/-! ## No deadlock -/

theorem clientHandover_isSome (client : TcpClient) (h : Option Handover) {result : SendResult}
    (hresult : result ≠ .killed) : ∃ c, clientHandover client result h = some c := by
  have hsend : ∀ data, ∃ c, (tcpClientSend client data result).map Prod.fst = some c := by
    intro data
    unfold tcpClientSend
    split
    · split
      · exact ⟨_, rfl⟩
      · exact ⟨_, rfl⟩
      · exact ⟨_, rfl⟩
      · exact absurd rfl hresult
    · exact ⟨_, rfl⟩
  cases h with
  | none => exact ⟨client, rfl⟩
  | some h =>
      cases h with
      | tcpServerSend data => exact ⟨client, rfl⟩
      | tcpClientSend data => exact hsend data

-- Who holds `client_mutex` waits for nobody.
theorem clientHolder_steps (ht : ThreadInv t) (hheld : t.server.mutex ≠ .free)
    {result : SendResult} (hresult : result ≠ .killed) :
    ∃ a t', a.inSection t = true ∧ (∀ r ∈ a.result, r = result) ∧
      threadStep charSigned t a = some t' := by
  rcases ht.abreast with ⟨s, h⟩
  have hmode := ht.mode hheld
  rcases holder_steps ⟨s, h.inv, h.behind⟩ hheld hresult with ⟨b, g, hb, hsame, hstep⟩
  by_cases hunlock : b = .unlockSend
  · subst hunlock
    exact ⟨.unlockSend, _, rfl, by simp [ThreadAction.result],
      Option.map_eq_some_iff.mpr ⟨g, hstep, rfl⟩⟩
  · have hlock : ∀ data, b ≠ .lockSend data := by
      rintro data rfl
      cases hb
    refine ⟨.server b, { t with server := g }, hb, fun r hr => ?_, ?_⟩
    · cases b with
      | sendNext r' =>
          cases hr
          exact hsame r rfl
      | _ => cases hr
    · rw [threadStep_server hmode hlock hunlock, hstep]
      rfl

-- Who holds `tcp_buffer_mutex` waits for `client_mutex` at most.
theorem bufferHolder_steps (ht : ThreadInv t) (hheld : t.buffer ≠ .free)
    (hfree : t.server.mutex = .free) {result : SendResult} (hresult : result ≠ .killed) :
    ∃ a t', a.inSection t = true ∧ (∀ r ∈ a.result, r = result) ∧
      threadStep charSigned t a = some t' := by
  have hserver : t.server = ⟨t.server.server, .free⟩ := by rw [← hfree]
  cases hb : t.buffer with
  | free => exact absurd hb hheld
  | buffering =>
      rcases List.getElem?_eq_some_iff.mpr ⟨ht.calling hb, rfl⟩ with hdata
      exact ⟨.copy, _, rfl, by simp [ThreadAction.result], by rw [threadStep, hb, hdata]⟩
  | buffered =>
      exact ⟨.unlockBuffer, _, rfl, by simp [ThreadAction.result],
        by rw [threadStep, if_pos hb]⟩
  | flushing =>
      rcases clientHandover_isSome t.client (t.fwd.handOver t.fwd.tcpBuffer.contents) hresult with
        ⟨client, hclient⟩
      have htest : ∃ t', threadStep charSigned t (.test result) = some t' := by
        rw [threadStep, if_pos hb]
        split
        · split
          · exact ⟨_, rfl⟩
          · rw [hclient]
            exact ⟨_, rfl⟩
        · exact ⟨_, rfl⟩
      rcases htest with ⟨t', ht'⟩
      exact ⟨.test result, t', rfl, by simp [ThreadAction.result, eq_comm], ht'⟩
  | sending =>
      have hcall : t.sendCall = some t.fwd.tcpBuffer.contents := if_pos hb
      refine ⟨.lockSend, { t with
        server := ⟨t.server.server, .sending t.fwd.tcpBuffer.contents 0⟩ },
        decide_eq_true hb, by simp [ThreadAction.result], ?_⟩
      rw [threadStep, hcall, hserver]
      rfl
  | sent =>
      exact ⟨.reset, _, rfl, by simp [ThreadAction.result], by rw [threadStep, if_pos hb]⟩
  | flushed =>
      exact ⟨.unlockFlush, _, rfl, by simp [ThreadAction.result], by rw [threadStep, if_pos hb]⟩

/-- **No deadlock.**  Whenever a mutex is held, one of the threads that hold one can go on in its
    section, whatever the system call that it makes there returns. -/
theorem no_deadlock {p : Program} (hmain : mainStart parse file locals isOpen = .ok p)
    {bs : List ThreadAction} {t : Threads}
    (hrun : run (threadStep charSigned) (.start p) bs = some t)
    (hheld : t.buffer ≠ .free ∨ t.server.mutex ≠ .free) {result : SendResult}
    (hresult : result ≠ .killed) :
    ∃ a t', a.inSection t = true ∧ (∀ r ∈ a.result, r = result) ∧
      threadStep charSigned t a = some t' := by
  have ht := threadInv_run hmain hrun
  by_cases hfree : t.server.mutex = .free
  · exact bufferHolder_steps ht (hheld.resolve_right fun h => h hfree) hfree hresult
  · exact clientHolder_steps ht hfree hresult

theorem no_deadlock_one_byte :
    ∃ t : Threads, t.server.mutex = .sending (utf8 "ab") 1 ∧
      ∃ a t', a.inSection t = true ∧ (∀ r ∈ a.result, r = .failed) ∧
        threadStep true t a = some t' := by
  rcases oneByteSent_run with ⟨p, t, hmain, hrun, hsending, -⟩
  have hheld : t.server.mutex ≠ .free := by
    rw [hsending]
    exact ClientMutex.noConfusion
  exact ⟨t, hsending, no_deadlock hmain hrun (.inr hheld) SendResult.noConfusion⟩

/-! ## A `send` that does not return -/

/-- What a call of `tcp_server_send` holds up: the clients and the table, the buffer and the calls;
    and the reader, as soon as a report or a read has given it another call to make. -/
structure HeldUp (t t' : Threads) : Prop where
  called : t'.called = t.called
  fwd : t'.fwd = t.fwd
  server : Stalled t.server t'.server
  reader : t.called < t.reader.sent.length → t'.reader = t.reader
  room : t'.server.server.room = t.server.server.room

-- While a call is under way the buffer is its own, or the interval is off.
theorem buffer_of_sending (h : Abreast t s) {data : List UInt8} {i : Nat}
    (hm : t.server.mutex = .sending data i) : t.buffer = .sending ∨ t.fwd.useInterval = 0 := by
  by_cases hb : t.buffer = .sending
  · exact .inl hb
  · have hcall := h.sends data i hm
    rw [sendCall_of_ne hb, Option.ite_none_right_eq_some] at hcall
    exact .inr hcall.1.1

theorem heldUp_step {u : Threads} {data : List UInt8} {i : Nat} (ht : ThreadInv t')
    (hm : t.server.mutex = .sending data i) (h : HeldUp t t') {a : ThreadAction}
    (hwaits : a ≠ .unlockSend ∧ ∀ result, a ≠ .server (.sendNext result))
    (hstep : threadStep charSigned t' a = some u) : HeldUp t u := by
  rcases ht.abreast with ⟨s, habreast⟩
  have hm' : t'.server.mutex = .sending data i := h.server.mutex.trans hm
  have hmode := mode_of_sendCall habreast (habreast.sends data i hm')
  have hbuffer := buffer_of_sending habreast hm'
  cases threadStep_inv hstep with
  | hidRead _ hcalled =>
      refine ⟨h.called, h.fwd, h.server, fun hlt => ?_, h.room⟩
      rw [h.reader hlt, h.called] at hcalled
      omega
  | comRead _ hcalled =>
      refine ⟨h.called, h.fwd, h.server, fun hlt => ?_, h.room⟩
      rw [h.reader hlt, h.called] at hcalled
      omega
  | copy hb =>
      have huse := habreast.interval (.inl hb)
      simp [hb, huse] at hbuffer
  | callNow _ _ hno => exact absurd hmode hno
  | reset hb =>
      have huse := habreast.interval (.inr (.inr hb))
      simp [hb, huse] at hbuffer
  | lockSend _ hf =>
      rw [hf] at hm'
      cases hm'
  | flushSent => exact absurd rfl hwaits.1
  | callSent => exact absurd rfl hwaits.1
  | @server b server _ _ hunlock hserver =>
      have hheld : t.server.mutex ≠ .free := by
        rw [hm]
        exact ClientMutex.noConfusion
      have hb := inSection_of_sending hm' (fun result he => hwaits.2 result (by rw [he])) hunlock
        hserver
      rcases stalled_step ⟨s, habreast.inv, habreast.behind⟩ h.server hheld hb hserver with
        ⟨hstalled, hroom⟩
      exact ⟨h.called, h.fwd, hstalled, h.reader, hroom.trans h.room⟩
  | _ => exact ⟨h.called, h.fwd, h.server, h.reader, h.room⟩

/-- **One `send` holds up everybody.**  Until the `send` that is under way returns, no client gets
    anything, those that have gone stay in the table with their descriptors open, none is
    registered and at most one more connection is accepted; no call of `forwarder_send` gets
    through, so that the buffer stays as it is and the reader stops reading. -/
theorem send_holds_up {p : Program} (hmain : mainStart parse file locals isOpen = .ok p)
    {as bs : List ThreadAction} {t t' : Threads}
    (hrun : run (threadStep charSigned) (.start p) as = some t) {data : List UInt8} {i : Nat}
    (hsending : t.server.mutex = .sending data i)
    (hwaits : ∀ a ∈ bs, a ≠ .unlockSend ∧ ∀ result, a ≠ .server (.sendNext result))
    (hbs : run (threadStep charSigned) t bs = some t') :
    HeldUp t t' ∧ t'.server.server.conns ≤ t.server.server.conns + 1 := by
  have hstep : ∀ u a v, ThreadInv u ∧ HeldUp t u →
      (a ≠ .unlockSend ∧ ∀ result, a ≠ .server (.sendNext result)) →
      threadStep charSigned u a = some v → ThreadInv v ∧ HeldUp t v :=
    fun u a v hu ha hv => ⟨threadInv_step hu.1 hv, heldUp_step hu.1 hsending hu.2 ha hv⟩
  have hstart : HeldUp t t :=
    ⟨rfl, rfl, ⟨rfl, rfl, rfl, fun _ _ => rfl, fun _ _ hh => hh⟩, fun _ => rfl, rfl⟩
  have hok : Along (threadStep charSigned)
      (fun _ a => a ≠ .unlockSend ∧ ∀ result, a ≠ .server (.sendNext result)) t bs :=
    along_of_forall (fun _ => hwaits) t
  have hheld := (along_invariant hstep ⟨threadInv_run hmain hrun, hstart⟩ hok hbs).2
  have hle := t'.server.server.conns_le_room.1
  have hge := t.server.server.conns_le_room.2
  rw [hheld.room] at hle
  exact ⟨hheld, hle.trans hge⟩

-- A second client connects in the middle of the call.
theorem secondClient_run :
    ∃ p t t', comMain = .ok p ∧
      run (threadStep true) (.start p) (firstClientSteps ++ oneByteSent) = some t ∧
      run (threadStep true) t [.server (.unlocked (.accept 5))] = some t' ∧
      t.server.mutex = .sending (utf8 "ab") 1 ∧ t'.server.server.conns = 2 := by
  have hall : (comMain.toOption.bind fun p =>
      (run (threadStep true) (.start p) (firstClientSteps ++ oneByteSent)).bind fun t =>
        (run (threadStep true) t [.server (.unlocked (.accept 5))]).map fun t' =>
          (t.server.mutex, t'.server.server.conns)) =
      some (.sending (utf8 "ab") 1, 2) := by decide +kernel
  rcases Option.bind_eq_some_iff.mp hall with ⟨p, hp, hrest⟩
  rcases Option.bind_eq_some_iff.mp hrest with ⟨t, ht, hmore⟩
  rcases Option.map_eq_some_iff.mp hmore with ⟨t', ht', hvalues⟩
  rw [Prod.mk.injEq] at hvalues
  exact ⟨p, t, t', comMain_eq_ok hp, ht, ht', hvalues⟩

theorem send_holds_up_one_byte :
    ∃ t t' : Threads, t'.server.server.conns = 2 ∧ HeldUp t t' ∧
      t'.server.server.conns ≤ t.server.server.conns + 1 := by
  rcases secondClient_run with ⟨p, t, t', hmain, hrun, hnext, hsending, hconns⟩
  exact ⟨t, t', hconns, send_holds_up hmain hrun hsending (by simp) hnext⟩

end

end NodeBridge
