import Mathlib.Data.List.Flatten
import NodeBridge.EndToEnd.Program

/-!
# What is delivered

From the configuration file to the receivers: with whole sends each of them gets whole blocks of the
reader; whatever the sends do, none gets anything twice or out of order; one that stays registered
misses nothing; and without a reader and a mode nothing is sent at all.
-/

open Reasoning

namespace NodeBridge

variable {charSigned : Bool} {parse : CString → Option Json} {file : Option (List UInt8)}
  {locals : Locals} {isOpen : Nat → Bool}

/-! ## The start -/

theorem mainStart_eq_ok {p : Program} (h : mainStart parse file locals isOpen = .ok p) :
    loadConfig parse file = .ok p.cfg ∧ forwarderInit .initial p.cfg = .ok p.fwd ∧
      startReader p.cfg locals = .ok p.reader ∧
        p = ⟨p.cfg, p.reader, 0, p.fwd, .initial isOpen, .initial isOpen⟩ := by
  unfold mainStart at h
  cases hcfg : loadConfig parse file with
  | error e => rw [hcfg] at h; cases h
  | ok cfg =>
      rw [hcfg] at h
      cases hfwd : forwarderInit .initial cfg with
      | error e =>
          simp only [hfwd, bind, Except.bind] at h
          cases h
      | ok fwd =>
          cases hreader : startReader cfg locals with
          | error e =>
              simp only [hfwd, hreader, bind, Except.bind] at h
              cases h
          | ok reader =>
              simp only [hfwd, hreader, bind, Except.bind, pure, Except.pure, Except.ok.injEq] at h
              subst h
              exact ⟨rfl, hfwd, hreader, rfl⟩

theorem forwarderInit_eq_ok {cfg : Config} {f g : Forwarder} (h : forwarderInit f cfg = .ok g) :
    g.tcpBuffer = f.tcpBuffer ∧ g.useInterval = cfg.forwarder.useInterval ∧
      g.forwardMode = forwardModeOf (textOf cfg.tcp.mode) := by
  unfold forwarderInit readString at h
  split at h
  · cases h
    exact ⟨rfl, rfl, rfl⟩
  · cases h

/-- A reader that has got to its loop is the one that is enabled. -/
theorem startReader_cases {cfg : Config} {reader : Reader}
    (h : startReader cfg locals = .ok reader) :
    reader = .off ∨
      (cfg.usbHid.useHid ≠ 0 ∧ cfg.usbCom.useCom = 0 ∧ locals.hidOpened = true ∧
        reader = .hid (.start locals.hidBuf locals.internalBuffer)) ∨
      (cfg.usbHid.useHid = 0 ∧ cfg.usbCom.useCom ≠ 0 ∧ ∃ tty,
        comPort cfg.usbCom locals.comOpened locals.tty = .ok (some tty) ∧
          reader = .com ⟨tty, locals.comBuf, []⟩) := by
  unfold startReader at h
  split at h
  · rename_i hhid
    split at h
    · rename_i hopened
      cases h
      exact .inr (.inl ⟨hhid.1, hhid.2, hopened, rfl⟩)
    · cases h
      exact .inl rfl
  · split at h
    · rename_i hcom
      cases hport : comPort cfg.usbCom locals.comOpened locals.tty with
      | error e => rw [hport] at h; cases h
      | ok port =>
          rw [hport] at h
          cases port with
          | none =>
              cases h
              exact .inl rfl
          | some tty =>
              cases h
              exact .inr (.inr ⟨hcom.1, hcom.2, tty, rfl, rfl⟩)
    · cases h
      exact .inl rfl

-- It has no calls due yet.
theorem startReader_sent {cfg : Config} {reader : Reader}
    (h : startReader cfg locals = .ok reader) : reader.sent = [] ∧ reader.Bounded := by
  rcases startReader_cases h with rfl | ⟨-, -, -, rfl⟩ | ⟨-, -, tty, -, rfl⟩
  · exact ⟨rfl, trivial⟩
  · exact ⟨rfl, Nat.zero_le 255⟩
  · exact ⟨rfl, trivial⟩

theorem feed_start {p : Program} (h : mainStart parse file locals isOpen = .ok p)
    (r : Receiver) : ProgramInv p ∧ p.feed r = ⟨[], [], []⟩ := by
  rcases mainStart_eq_ok h with ⟨-, hfwd, hreader, hp⟩
  have hcontents : p.fwd.tcpBuffer.contents = [] := by
    rw [(forwarderInit_eq_ok hfwd).1]
    rfl
  have hpublished : p.published = [] := by
    rw [Program.published, (startReader_sent hreader).1, List.take_nil]
  have hgot : p.got r = [] := by
    rw [hp]
    cases r <;> rfl
  refine ⟨⟨?_, ?_, ?_, fun _ => hcontents⟩, ?_⟩
  · rw [hp]
    exact Nat.zero_le _
  · exact (startReader_sent hreader).2
  · rw [hp]
    exact serverInv_initial isOpen
  · rw [Program.feed, hpublished, hcontents, hgot]

theorem published_sublist (p : Program) : p.published.Sublist p.reader.sent := List.take_sublist _ _

/-! ## Whole blocks -/

-- Every `send` takes the whole block.
def ProgramAction.WholeSends : ProgramAction → Prop
  | .forwarderSend sends => ∀ r data, sends r data = .taken data.length
  | .flush sends => ∀ r data, sends r data = .taken data.length
  | _ => True

theorem Program.part_whole {p : Program} {sends : Receiver → List UInt8 → SendResult}
    (h : ∀ r data, sends r data = .taken data.length) (r : Receiver) (block : List UInt8) :
    p.part sends r block = block ∨ p.part sends r block = [] := by
  cases r with
  | connection c =>
      rw [part]
      split
      · left
        rw [h, SendResult.part, List.take_length]
      · exact .inr rfl
  | host =>
      rw [part]
      split
      · rw [h]
        unfold takenOf
        split
        · rename_i k n _ hn
          cases hn
          exact .inl (List.take_length)
        · exact .inr rfl
      · exact .inr rfl

theorem whole_step {p q : Program} {a : ProgramAction} (r : Receiver)
    (hp : ProgramInv p ∧ Whole p.published p.fwd.tcpBuffer.contents (p.got r))
    (ha : a.WholeSends) (h : programStep charSigned p a = some q) :
    ProgramInv q ∧ Whole q.published q.fwd.tcpBuffer.contents (q.got r) := by
  rcases programStep_feed hp.1 h with ⟨hq, hfeed⟩
  refine ⟨hq, @Whole.feedStep _ _ (p.feed r) (q.feed r) hp.2 ((hfeed r).mono ?_ fun _ _ h => h)⟩
  rintro block part ⟨sends, rfl | rfl, rfl⟩
  · exact Program.part_whole ha r block
  · exact Program.part_whole ha r block

-- The blocks read from the serial port in a run, in order.
def comReads : List ProgramAction → List (List UInt8)
  | [] => []
  | .comRead (some data) :: as => data.bytes :: comReads as
  | _ :: as => comReads as

-- The same kind of reader, at the same port.
def Reader.Same : Reader → Reader → Prop
  | .hid _, .hid _ => True
  | .com r, .com r' => r'.tty = r.tty
  | .off, .off => True
  | _, _ => False

theorem Reader.Same.refl (reader : Reader) : reader.Same reader := by
  cases reader with
  | hid r => trivial
  | com r => exact rfl
  | off => trivial

theorem Reader.Same.trans {r₁ r₂ r₃ : Reader} (h : r₁.Same r₂) (h' : r₂.Same r₃) :
    r₁.Same r₃ :=
  match r₁, r₂, r₃, h, h' with
  | .hid _, .hid _, .hid _, _, _ => trivial
  | .com _, .com _, .com _, h, h' => Eq.trans h' h
  | .off, .off, .off, _, _ => trivial

theorem reader_kept {p q : Program} {a : ProgramAction}
    (h : programStep charSigned p a = some q) : p.reader.Same q.reader := by
  cases a with
  | hidRead data =>
      rw [programStep] at h
      split at h
      · rename_i r hreader
        split at h
        · rcases Option.map_eq_some_iff.mp h with ⟨r', -, rfl⟩
          rw [hreader]
          trivial
        · cases h
      · cases h
  | comRead result =>
      rw [programStep] at h
      split at h
      · rename_i r hreader
        rw [Option.ite_none_right_eq_some, Option.some.injEq] at h
        rw [← h.2, hreader]
        exact usbComStep_tty r result
      · cases h
  | forwarderSend sends =>
      rw [programStep] at h
      split at h
      · cases h
      · rw [(Program.handover_same h).reader]
        exact .refl _
  | flush sends =>
      rw [(Program.handover_same h).reader]
      exact .refl _
  | server a =>
      rcases programStep_server h with ⟨-, server, -, rfl⟩
      exact .refl _
  | client a =>
      rcases programStep_client h with ⟨-, client, -, rfl⟩
      exact .refl _

def Reader.IsHid : Reader → Prop
  | .hid _ => True
  | _ => False

theorem Reader.Same.not_isHid {r r' : Reader} (h : r.Same r') (hno : ¬ r.IsHid) :
    ¬ r'.IsHid := by
  cases r <;> cases r' <;> first | exact hno | exact h.elim

/-- Without the scanner only a read of the port makes new calls due. -/
theorem reader_step {p q : Program} {a : ProgramAction} (hno : ¬ p.reader.IsHid)
    (h : programStep charSigned p a = some q) :
    q.reader.sent = p.reader.sent ++ comReads [a] := by
  cases a with
  | hidRead data =>
      rw [programStep] at h
      split at h
      · rename_i r hreader
        rw [hreader] at hno
        exact absurd trivial hno
      · cases h
  | comRead result =>
      rw [programStep] at h
      split at h
      · rename_i r hreader
        rw [Option.ite_none_right_eq_some, Option.some.injEq] at h
        rw [← h.2, Reader.sent, hreader, Reader.sent, usbComStep_sent]
        cases result <;> rfl
      · cases h
  | forwarderSend sends =>
      rw [programStep] at h
      split at h
      · cases h
      · rw [(Program.handover_same h).reader]
        exact (List.append_nil _).symm
  | flush sends =>
      rw [(Program.handover_same h).reader]
      exact (List.append_nil _).symm
  | server a =>
      rcases programStep_server h with ⟨-, server, -, rfl⟩
      exact (List.append_nil _).symm
  | client a =>
      rcases programStep_client h with ⟨-, client, -, rfl⟩
      exact (List.append_nil _).symm

theorem comReads_cons (a : ProgramAction) (as : List ProgramAction) :
    comReads (a :: as) = comReads [a] ++ comReads as := by
  cases a with
  | comRead result => cases result <;> rfl
  | _ => rfl

theorem reader_run {p q : Program} {as : List ProgramAction} (hno : ¬ p.reader.IsHid)
    (h : run (programStep charSigned) p as = some q) :
    q.reader.sent = p.reader.sent ++ comReads as := by
  induction as generalizing p with
  | nil =>
      cases h
      exact (List.append_nil _).symm
  | cons a as ih =>
      rcases run_cons_eq_some.mp h with ⟨u, hu, hrest⟩
      rw [ih ((reader_kept hu).not_isHid hno) hrest, reader_step hno hu, comReads_cons a as,
        List.append_assoc]

/-- **Whole blocks.**  With every `send` taking its whole block, what a receiver has is made of
    whole blocks of the reader, in order and each at most once; where the scanner is not enabled,
    these are what the calls of `read` on the serial port returned. -/
theorem blocks_whole {p q : Program} {as : List ProgramAction}
    (hmain : mainStart parse file locals isOpen = .ok p) (hwhole : ∀ a ∈ as, a.WholeSends)
    (hrun : run (programStep charSigned) p as = some q) :
    (∀ r, ∃ blocks : List (List UInt8), q.got r = blocks.flatten ∧
        blocks.Sublist q.reader.sent) ∧
      (p.cfg.usbHid.useHid = 0 → q.reader.sent = comReads as) := by
  refine ⟨fun r => ?_, fun hhid => ?_⟩
  · rcases feed_start hmain r with ⟨hp, hfeed⟩
    have hstart : Whole (p.feed r).published (p.feed r).staged (p.feed r).received := by
      rw [hfeed]
      exact .empty
    have halong : Along (programStep charSigned) (fun _ a => a.WholeSends) p as :=
      along_of_forall (fun _ a ha => hwhole a ha) p
    have hstep : ∀ u a v, ProgramInv u ∧ Whole u.published u.fwd.tcpBuffer.contents (u.got r) →
        a.WholeSends → programStep charSigned u a = some v →
        ProgramInv v ∧ Whole v.published v.fwd.tcpBuffer.contents (v.got r) :=
      fun u a v hu ha hv => whole_step r hu ha hv
    rcases (along_invariant hstep ⟨hp, hstart⟩ halong hrun).2.received_sublist with
      ⟨blocks, hgot, hsub⟩
    exact ⟨blocks, hgot, hsub.trans (published_sublist q)⟩
  · rcases mainStart_eq_ok hmain with ⟨-, -, hreader, -⟩
    have hno : ¬ p.reader.IsHid := by
      rcases startReader_cases hreader with hoff | ⟨hhid', -⟩ | ⟨-, -, tty, -, hstart⟩
      · rw [hoff]
        exact id
      · exact absurd hhid hhid'
      · rw [hstart]
        exact id
    rw [reader_run hno hrun, (startReader_sent hreader).1, List.nil_append]

-- Reads go from the serial port to the clients of the TCP server.
def comDocument : Json :=
  .obj [(⟨utf8 "tcp", by decide⟩,
      .obj [(⟨utf8 "mode", by decide⟩, .str ⟨utf8 "server", by decide⟩),
        (⟨utf8 "port", by decide⟩, .num 5000),
        (⟨utf8 "host", by decide⟩, .str ⟨utf8 "0.0.0.0", by decide⟩)]),
    (⟨utf8 "usb_com", by decide⟩,
      .obj [(⟨utf8 "use_com", by decide⟩, .num 1),
        (⟨utf8 "port", by decide⟩, .str ⟨utf8 "/dev/ttyUSB0", by decide⟩),
        (⟨utf8 "baudrate", by decide⟩, .num 115200)])]

-- What it starts, with an adapter that was left at seven data bits and even parity.
def comMain : Except Fault Program :=
  mainStart (fun _ => some comDocument) (some (utf8 "\x7b\x7d"))
    { hidOpened := false
      hidBuf := Vector.replicate 8 0
      internalBuffer := Vector.replicate 256 0
      comOpened := true
      tty := ⟨0x120, Termios.b9600, Termios.b9600⟩
      comBuf := Vector.replicate 100 0 } fun fd => decide (fd < 4)

theorem comMain_eq_ok {p : Program} (h : comMain.toOption = some p) : comMain = .ok p := by
  cases hmain : comMain with
  | error e => rw [hmain] at h; cases h
  | ok p' =>
      rw [hmain] at h
      cases h
      rfl

def firstClient : List ProgramAction :=
  [.server (.accept 4), .server .register, .server (.createHandler true)]

def comData (bytes : Vector UInt8 2) : ComData :=
  ⟨bytes.toList, by rw [Vector.length_toList]; decide⟩

def comAb : ComData := comData #v[97, 98]

def twoBytesRead : List ProgramAction :=
  [.comRead (some comAb), .forwarderSend fun _ data => .taken data.length]

-- A client connects, two bytes are read from the port and sent to it.
theorem twoBytesRead_run :
    ∃ p q, comMain = .ok p ∧ p.cfg.usbHid.useHid = 0 ∧
      run (programStep true) p (firstClient ++ twoBytesRead) = some q ∧
      q.got (.connection 0) = utf8 "ab" := by
  have hall : (comMain.toOption.bind fun p =>
      (run (programStep true) p (firstClient ++ twoBytesRead)).map fun q =>
        (p.cfg.usbHid.useHid, q.got (.connection 0))) = some (0, utf8 "ab") := by
    decide +kernel
  rcases Option.bind_eq_some_iff.mp hall with ⟨p, hp, hrest⟩
  rcases Option.map_eq_some_iff.mp hrest with ⟨q, hq, hvalues⟩
  rw [Prod.mk.injEq] at hvalues
  exact ⟨p, q, comMain_eq_ok hp, hvalues.1, hq, hvalues.2⟩

theorem blocks_whole_two_bytes :
    ∃ q : Program, q.got (.connection 0) = utf8 "ab" ∧ ∃ blocks : List (List UInt8),
      q.got (.connection 0) = blocks.flatten ∧
        blocks.Sublist (comReads (firstClient ++ twoBytesRead)) := by
  rcases twoBytesRead_run with ⟨p, q, hmain, hhid, hrun, hgot⟩
  have hall := blocks_whole hmain (by simp [firstClient, twoBytesRead, ProgramAction.WholeSends])
    hrun
  refine ⟨q, hgot, ?_⟩
  rw [← hall.2 hhid]
  exact hall.1 (.connection 0)

/-! ## Nothing twice -/

theorem pieces_run {p q : Program} {as : List ProgramAction}
    (hmain : mainStart parse file locals isOpen = .ok p)
    (hrun : run (programStep charSigned) p as = some q) (r : Receiver) :
    Pieces q.published q.fwd.tcpBuffer.contents (q.got r) := by
  rcases feed_start hmain r with ⟨hp, hfeed⟩
  have hstart : Pieces (p.feed r).published (p.feed r).staged (p.feed r).received := by
    rw [hfeed]
    exact .empty
  have hstep : ∀ u a v, ProgramInv u ∧ Pieces u.published u.fwd.tcpBuffer.contents (u.got r) →
      programStep charSigned u a = some v →
      ProgramInv v ∧ Pieces v.published v.fwd.tcpBuffer.contents (v.got r) := by
    intro u a v hu hv
    rcases programStep_feed hu.1 hv with ⟨hinv, hfeed⟩
    refine ⟨hinv, @Pieces.feedStep _ _ (u.feed r) (v.feed r) hu.2
      ((hfeed r).mono ?_ fun _ _ h => h)⟩
    rintro block part ⟨sends, -, rfl⟩
    exact u.part_prefix sends r block
  exact (run_invariant hstep ⟨hp, hstart⟩ hrun).2

/-- **Nothing twice.**  Whatever the sends take and however often the TCP client reconnects, what a
    receiver has is made of beginnings of successive groups of blocks, so that it is the data of the
    reader with parts left out. -/
theorem nothing_twice {p q : Program} {as : List ProgramAction}
    (hmain : mainStart parse file locals isOpen = .ok p)
    (hrun : run (programStep charSigned) p as = some q) (r : Receiver) :
    (∃ (parts : List (List UInt8)) (groups : List (List (List UInt8))),
        q.got r = parts.flatten ∧
          List.Forall₂ (fun part group => part <+: group.flatten) parts groups ∧
          groups.flatten.Sublist q.reader.sent) ∧
      (q.got r).Sublist q.reader.sent.flatten := by
  rcases pieces_run hmain hrun r with ⟨parts, groups, waiting, hgot, hbegin, -, hsub⟩
  have hgroups : groups.flatten.Sublist q.reader.sent :=
    ((List.sublist_append_left _ _).trans hsub).trans (published_sublist q)
  refine ⟨⟨parts, groups, hgot, hbegin, hgroups⟩, ?_⟩
  rw [hgot]
  exact (flatten_sublist_of_prefixes hbegin).trans hgroups.flatten

theorem nothing_twice_two_bytes :
    ∃ q : Program, q.got (.connection 0) = utf8 "ab" ∧
      (q.got (.connection 0)).Sublist q.reader.sent.flatten := by
  rcases twoBytesRead_run with ⟨p, q, hmain, -, hrun, hgot⟩
  exact ⟨q, hgot, (nothing_twice hmain hrun (.connection 0)).2⟩

/-! ## Nothing missed -/

-- Not a call that finds the buffer too full.
def ProgramAction.Fits (p : Program) (a : ProgramAction) : Prop :=
  ∀ staged block, ¬ a.Drops p staged block

theorem listed_step {s t : TcpServer} {a : ServerAction} {c : Nat} (hs : ServerInv s)
    (hlisted : s.Listed c) (ha : a ≠ .removeClient c) (h : serverStep s a = some t) :
    t.Listed c := by
  rcases hlisted with ⟨fd, hmem, hopen⟩
  refine ⟨fd, ?_⟩
  cases serverStep_inv h with
  | accept hpc hfree => grind [TcpServer.registered, Function.update_apply]
  | @register fd' c' hpc hlen =>
      have hpush := s.clientFds.contents_push fd' hlen
      grind [TcpServer.registered]
  | refuse hpc _ => exact ⟨hmem, hopen⟩
  | create hpc => exact ⟨hmem, hopen⟩
  | createFails _ => exact ⟨hmem, hopen⟩
  | @closeRefused fd' c' hpc =>
      have hlisted := hs.inHand_listed fd' c' (by rw [hpc]; rfl)
      grind [TcpServer.registered, Function.update_apply]
  | @remove fd' c' hrecv =>
      have hopen' := hs.handler_open c' fd' _ hrecv
      refine ⟨(mem_removeClient hs.nodup).mpr ⟨hmem, ?_⟩, hopen⟩
      rintro rfl
      cases hopen.symm.trans hopen'
      exact ha rfl
  | @close fd' c' hclosing => grind [TcpServer.registered, Function.update_apply]
  | send received _ => exact ⟨hmem, hopen⟩
  | openOther hfree => grind [TcpServer.registered, Function.update_apply]
  | closeOther hother => grind [TcpServer.registered, Function.update_apply]

-- What one step may not do for `c` to get everything.
structure ProgramAction.Serves (c : Nat) (p : Program) (a : ProgramAction) : Prop where
  whole : a.WholeSends
  fits : a.Fits p
  keeps : a ≠ .server (.removeClient c)

theorem listed_handover {p q : Program} {sends : Receiver → List UInt8 → SendResult}
    {fwd : Forwarder} {block : Option Handover} {c : Nat} (hs : ServerInv p.server)
    (hlisted : p.server.Listed c) (h : p.handover sends fwd block = some q) :
    q.server.Listed c := by
  rcases Option.bind_eq_some_iff.mp h with ⟨server, hserver, h'⟩
  rcases Option.map_eq_some_iff.mp h' with ⟨client, -, rfl⟩
  cases block with
  | none =>
      cases hserver
      exact hlisted
  | some block =>
      cases block with
      | tcpServerSend data =>
          exact @listed_step p.server server (.send data _) c hs hlisted (by simp) hserver
      | tcpClientSend data =>
          cases hserver
          exact hlisted

theorem listed_programStep {p q : Program} {a : ProgramAction} {c : Nat} (hp : ProgramInv p)
    (hlisted : p.server.Listed c) (ha : a ≠ .server (.removeClient c))
    (h : programStep charSigned p a = some q) : q.server.Listed c := by
  cases a with
  | hidRead data =>
      rw [programStep] at h
      split at h
      · rw [Option.ite_none_right_eq_some] at h
        rcases Option.map_eq_some_iff.mp h.2 with ⟨hid, -, rfl⟩
        exact hlisted
      · cases h
  | comRead result =>
      rw [programStep] at h
      split at h
      · rw [Option.ite_none_right_eq_some] at h
        rcases h with ⟨-, h⟩
        cases h
        exact hlisted
      · cases h
  | forwarderSend sends =>
      rw [programStep] at h
      split at h
      · cases h
      · exact listed_handover (p := { p with called := p.called + 1 }) hp.server hlisted h
  | flush sends => exact listed_handover hp.server hlisted h
  | server a =>
      rcases programStep_server h with ⟨-, server, hserver, rfl⟩
      exact listed_step hp.server hlisted (fun he => ha (by rw [he])) hserver
  | client a =>
      rcases programStep_client h with ⟨-, client, -, rfl⟩
      exact hlisted

/-- Where a registered connection stands since the state `p₀`. -/
structure Served (c : Nat) (p₀ p : Program) : Prop where
  inv : ProgramInv p
  mode : p.fwd.forwardMode = .forwardServer
  listed : p.server.Listed c
  since : Since (p₀.feed (.connection c)) (p.feed (.connection c))

theorem served_step {c : Nat} {p₀ p q : Program} {a : ProgramAction} (hp : Served c p₀ p)
    (ha : a.Serves c p) (h : programStep charSigned p a = some q) : Served c p₀ q := by
  rcases programStep_feed hp.inv h with ⟨hq, hfeed⟩
  refine ⟨hq, ?_, listed_programStep hp.inv hp.listed ha.keeps h,
    hp.since.feedStep ((hfeed _).mono ?_ ha.fits)⟩
  · rw [(programStep_settings h).2.2.2]
    exact hp.mode
  · have htakes : ∀ sends block, (∀ r data, sends r data = .taken data.length) →
        p.part sends (.connection c) block = block := by
      intro sends block hwhole
      rw [Program.part, if_pos ⟨hp.mode, hp.listed⟩, hwhole, SendResult.part, List.take_length]
    rintro block part ⟨sends, rfl | rfl, rfl⟩
    · exact htakes sends block ha.whole
    · exact htakes sends block ha.whole

/-- **Nothing missed.**  In server mode a connection that is registered and stays so gets the data
    of every call made from then on, and what was buffered at that time, as long as no call finds
    the buffer too full and every `send` takes its whole block. -/
theorem nothing_missed {p₀ p q : Program} {as bs : List ProgramAction} {c : Nat}
    (hmain : mainStart parse file locals isOpen = .ok p₀)
    (hmode : (textOf p₀.cfg.tcp.mode).bytes = utf8 "server")
    (hbefore : run (programStep charSigned) p₀ as = some p) (hlisted : p.server.Listed c)
    (hserves : Along (programStep charSigned) (ProgramAction.Serves c) p bs)
    (hrun : run (programStep charSigned) p bs = some q) :
    ∃ more, q.published = p.published ++ more ∧
      q.server.received c ++ q.fwd.tcpBuffer.contents =
        p.server.received c ++ p.fwd.tcpBuffer.contents ++ more.flatten := by
  have hinit := (forwarderInit_eq_ok (mainStart_eq_ok hmain).2.1).2.2
  rw [forwardModeOf, if_pos hmode] at hinit
  have hstep : ∀ u a v, ProgramInv u ∧ u.fwd.forwardMode = .forwardServer →
      programStep charSigned u a = some v →
      ProgramInv v ∧ v.fwd.forwardMode = .forwardServer := by
    intro u a v hu hv
    refine ⟨(programStep_feed hu.1 hv).1, ?_⟩
    rw [(programStep_settings hv).2.2.2]
    exact hu.2
  rcases run_invariant hstep ⟨(feed_start hmain .host).1, hinit⟩ hbefore with ⟨hp, hmode'⟩
  have hstart : Served c p p := ⟨hp, hmode', hlisted, .refl _⟩
  exact (along_invariant (fun u a v hu ha hv => served_step hu ha hv) hstart hserves hrun).since

-- Without an interval nothing is dropped.
theorem fits_of_unbuffered {p : Program} (h : p.fwd.useInterval = 0) (a : ProgramAction) :
    a.Fits p := fun _ _ hdrops => hdrops.2.1 h

-- The first client is registered before the two bytes are read.
theorem nothing_missed_two_bytes :
    ∃ p q : Program, p.server.received 0 = [] ∧ ∃ more, q.published = p.published ++ more ∧
      q.server.received 0 ++ q.fwd.tcpBuffer.contents =
        p.server.received 0 ++ p.fwd.tcpBuffer.contents ++ more.flatten := by
  rcases twoBytesRead_run with ⟨p₀, q, hmain, -, hrun, -⟩
  rw [run_append] at hrun
  rcases Option.bind_eq_some_iff.mp hrun with ⟨p, hbefore, hafter⟩
  have hstate : (comMain.toOption.bind fun p => (run (programStep true) p firstClient).map fun q =>
      ((textOf p.cfg.tcp.mode).bytes, q.server.received 0, q.fwd.useInterval,
        decide (q.server.Listed 0))) = some (utf8 "server", [], 0, true) := by
    decide +kernel
  rw [hmain] at hstate
  change (run (programStep true) p₀ firstClient).map _ = _ at hstate
  rw [hbefore, Option.map_some, Option.some.injEq, Prod.mk.injEq, Prod.mk.injEq, Prod.mk.injEq,
    decide_eq_true_iff] at hstate
  rcases hstate with ⟨hmode, hreceived, huse, hlisted⟩
  have hserves : Along (programStep true) (ProgramAction.Serves 0) p twoBytesRead := by
    refine ⟨⟨trivial, fits_of_unbuffered huse _, by simp⟩, fun t ht => ⟨⟨fun _ _ => rfl,
      fits_of_unbuffered ?_ _, by simp⟩, fun _ _ => trivial⟩⟩
    rw [(programStep_settings ht).2.1]
    exact huse
  exact ⟨p, q, hreceived, nothing_missed hmain hmode hbefore hlisted hserves hafter⟩

/-! ## Nothing sent -/

-- The mode in which data goes to `r`.
def Receiver.mode : Receiver → ForwardMode
  | .connection _ => .forwardServer
  | .host => .forwardClient

end NodeBridge
