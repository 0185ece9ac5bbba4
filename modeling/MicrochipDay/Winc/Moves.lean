import MicrochipDay.Winc.Dispatch
import MicrochipDay.Winc.HifSend
import Mathlib.Logic.Relation

/-!
Owns what the driver can do to its sockets: six moves on the table, the session
counter and the log. Every call, every reply and every interrupt is a sequence
of them, so what each move keeps is kept by every run. The calls of the
application, which it may make while a packet is being received, are sequences
that receive nothing themselves.
-/

namespace MicrochipDay.Winc

open Relation

-- what the host interface does is of no concern to the sockets
attribute [local irreducible] hifSend hifReceive hifSetRxDone

/-! ## The moves -/

/-- Entries that open no slot, close none and make no request. -/
def Entry.isCallback : Entry → Bool
  | .callback _ _ | .resolved _ _ | .pinged _ _ _ => true
  | .opened _ | .closed _ | .request _ _ _ => false

/-- What a part of the driver may do: what may become of the host interface,
whether it acts on replies of the chip, and the sizes of the buffers it is given
to receive into. -/
structure Scope where
  hifs : Hif → Hif → Prop
  replies : Prop
  sizes : Nat → Prop

/-- A slot keeps its buffer, or gets one of an allowed size. -/
def BufferMay (sizes : Nat → Prop) (before after : Socket) : Prop :=
  after.pu8UserBuffer = before.pu8UserBuffer ∧
      after.u16UserBufferSize = before.u16UserBufferSize ∨
    after.pu8UserBuffer.isSome = true ∧ after.u16UserBufferSize ≠ 0 ∧ sizes after.u16UserBufferSize

/-- One move of the driver. -/
inductive Move (scope : Scope) : Driver → Driver → Prop
  /-- Nothing happens to the sockets. -/
  | idle {driver next : Driver} (sockets : next.gastrSockets = driver.gastrSockets)
      (counter : next.gu16SessionID = driver.gu16SessionID) (log : next.log = driver.log)
      (cb : next.hasSocketCb = driver.hasSocketCb) (hif : scope.hifs driver.hif next.hif) :
      Move scope driver next
  /-- A slot is changed, but not whose it is. -/
  | edit {driver : Driver} (sock : Int) (socket : Socket)
      (used : socket.bIsUsed = (driver.gastrSockets sock).bIsUsed)
      (session : socket.u16SessionID = (driver.gastrSockets sock).u16SessionID)
      (buffer : BufferMay scope.sizes (driver.gastrSockets sock) socket) :
      Move scope driver (driver.setSocket sock socket)
  /-- Only the chip opens a slot that is in use. -/
  | open {driver : Driver} (sock : Int) (socket : Socket)
      (free : scope.replies ∨ (driver.gastrSockets sock).bIsUsed = false)
      (buffer : socket = .cleared ∨ BufferMay scope.sizes (driver.gastrSockets sock) socket) :
      Move scope driver (openSlot sock socket driver)
  | request {driver : Driver} (cmd : SocketCmd) (sock : Int)
      (used : (driver.gastrSockets sock).bIsUsed = true) :
      Move scope driver (driver.write (.request cmd sock (driver.gastrSockets sock).u16SessionID))
  | close {driver : Driver} (sock : Int) :
      Move scope driver ((driver.setSocket sock .cleared).write (.closed sock))
  | callback {driver : Driver} (entry : Entry) (silent : entry.isCallback = true)
      (told : scope.replies) : Move scope driver (driver.write entry)

abbrev Moves (scope : Scope) : Driver → Driver → Prop := ReflTransGen (Move scope)

/-- A chip that nobody keeps awake is kept awake by nobody afterwards. -/
def LetsGo (before after : Hif) : Prop := before.u8ChipSleep = 0 → after.u8ChipSleep = 0

/-- What a call of the application does to the host interface. -/
def Sends (before after : Hif) : Prop := Quiet before after ∧ LetsGo before after

theorem Sends.refl (hif : Hif) : Sends hif hif := ⟨.refl hif, id⟩

theorem hifSend_sends (chip : Chip) (behind : Nat → UInt8) (packet : HifPacket) (hif : Hif) :
    Sends hif (hifSend chip behind packet hif).2 := by
  refine ⟨hifSend_quiet chip behind packet hif, fun awake => ?_⟩
  rw [hifSend_count chip behind packet hif (by omega), awake]
  exact ite_self 0

/-- Inside a call of the application. -/
def inCall (sizes : Nat → Prop) : Scope := ⟨Sends, False, sizes⟩

/-- Inside a callback of the application. -/
def inCallback (sizes : Nat → Prop) : Scope := ⟨Sends, True, sizes⟩

def anywhere (sizes : Nat → Prop) : Scope := ⟨LetsGo, True, sizes⟩

section Moves

variable {scope : Scope} {sizes : Nat → Prop} {driver next : Driver}

namespace Moves

theorem hif (driver : Driver) {hif : Hif} (allowed : scope.hifs driver.hif hif) :
    Moves scope driver { driver with hif := hif } :=
  .single (.idle rfl rfl rfl rfl allowed)

/-- The host interface may do anything but keep the chip awake. -/
theorem anyHif (driver : Driver) {hif : Hif}
    (count : hif.u8ChipSleep = driver.hif.u8ChipSleep) :
    Moves (anywhere sizes) driver { driver with hif := hif } :=
  .hif driver fun awake => count.trans awake

/-- A property that every move keeps is kept by every sequence of moves. -/
theorem keeps {P : Driver → Prop}
    (step : ∀ {driver next}, Move scope driver next → P driver → P next)
    (moves : Moves scope driver next) (holds : P driver) : P next := by
  induction moves with
  | refl => exact holds
  | tail _ last inductionHypothesis => exact step last inductionHypothesis

/-- A sequence of calls that are moves is a sequence of moves. -/
theorem foldl {Item : Type*} {act : Driver → Item → Driver} {items : List Item}
    (each : ∀ driver, ∀ item ∈ items, Moves scope driver (act driver item)) (driver : Driver) :
    Moves scope driver (items.foldl act driver) := by
  induction items generalizing driver with
  | nil => exact .refl
  | cons item items inductionHypothesis =>
      have first := each driver item List.mem_cons_self
      have rest := inductionHypothesis
        (fun driver item member => each driver item (List.mem_cons_of_mem _ member))
        (act driver item)
      exact first.trans rest

end Moves

theorem BufferMay.mono {wider : Nat → Prop} (allows : ∀ size, sizes size → wider size)
    {before after : Socket} (buffer : BufferMay sizes before after) :
    BufferMay wider before after := by
  rcases buffer with same | ⟨given, nonzero, size⟩
  · exact Or.inl same
  · exact Or.inr ⟨given, nonzero, allows _ size⟩

/-- A move in a scope is a move in a wider one. -/
theorem Move.mono {wider : Scope} (hifs : ∀ before after, scope.hifs before after →
      wider.hifs before after) (replies : scope.replies → wider.replies)
    (sizes : ∀ size, scope.sizes size → wider.sizes size) (move : Move scope driver next) :
    Move wider driver next := by
  cases move with
  | idle sockets counter log cb hif => exact .idle sockets counter log cb (hifs _ _ hif)
  | edit sock socket used session buffer =>
      exact .edit sock socket used session (buffer.mono sizes)
  | «open» sock socket free buffer =>
      exact .open sock socket (free.imp_left replies) (buffer.imp_right (BufferMay.mono sizes))
  | request cmd sock used => exact .request cmd sock used
  | close sock => exact .close sock
  | callback entry silent told => exact .callback entry silent (replies told)

theorem Moves.inCallback (moves : Moves (inCall sizes) driver next) :
    Moves (inCallback sizes) driver next := by
  refine ReflTransGen.mono (fun _ _ move => move.mono ?_ ?_ ?_) _ _ moves
  · exact fun _ _ sends => sends
  · exact fun _ => trivial
  · exact fun _ allowed => allowed

theorem Moves.anywhere (moves : Moves (Winc.inCallback sizes) driver next) :
    Moves (Winc.anywhere sizes) driver next := by
  refine ReflTransGen.mono (fun _ _ move => move.mono ?_ ?_ ?_) _ _ moves
  · exact fun _ _ sends => sends.2
  · exact fun _ => trivial
  · exact fun _ allowed => allowed

theorem Move.hasSocketCb (move : Move scope driver next) :
    next.hasSocketCb = driver.hasSocketCb := by
  cases move with
  | idle _ _ _ cb => exact cb
  | _ => rfl

theorem Moves.hasSocketCb (moves : Moves scope driver next) :
    next.hasSocketCb = driver.hasSocketCb :=
  moves.keeps (P := fun later => later.hasSocketCb = driver.hasSocketCb)
    (fun move same => move.hasSocketCb.trans same) rfl

theorem Moves.quiet (moves : Moves (Winc.inCallback sizes) driver next) :
    Quiet driver.hif next.hif := by
  induction moves with
  | refl => exact .refl _
  | tail _ last inductionHypothesis =>
      cases last with
      | idle _ _ _ _ sends => exact inductionHypothesis.trans sends.1
      | edit | «open» | request | close | callback => exact inductionHypothesis

end Moves

/-! ## Calls -/

section Calls

variable (env : Environment) {sizes : Nat → Prop}

theorem socketRequest_moves (u8Opcode : UInt8) (ctrl : List UInt8) (data : Option (List UInt8))
    (offset : Nat) (driver : Driver) :
    Moves (inCall sizes) driver (socketRequest env u8Opcode ctrl data offset driver).2 :=
  .hif driver (hifSend_sends ..)

/-- A request changes nothing but the host interface and the log. -/
theorem sessionRequest_snd (cmd : SocketCmd) (flag : UInt8) (sock : Int) (ctrl : Nat → List UInt8)
    (data : Option (List UInt8)) (offset : Nat) (driver : Driver) :
    ∃ hif, Sends driver.hif hif ∧ (sessionRequest env cmd flag sock ctrl data offset driver).2 =
      { driver.write (.request cmd sock (driver.gastrSockets sock).u16SessionID) with
        hif := hif } :=
  ⟨_, hifSend_sends .., rfl⟩

theorem sessionRequest_moves (cmd : SocketCmd) (flag : UInt8) (sock : Int)
    (ctrl : Nat → List UInt8) (data : Option (List UInt8)) (offset : Nat) {driver : Driver}
    (used : (driver.gastrSockets sock).bIsUsed = true) :
    Moves (inCall sizes) driver (sessionRequest env cmd flag sock ctrl data offset driver).2 := by
  obtain ⟨hif, sends, same⟩ := sessionRequest_snd env cmd flag sock ctrl data offset driver
  rw [same]
  exact (ReflTransGen.single (.request cmd sock used)).trans (Moves.hif _ sends)

theorem setSocket_gastrSockets (driver : Driver) (sock : Int) (socket : Socket) :
    (driver.setSocket sock socket).gastrSockets sock = socket :=
  Function.update_self ..

/-- The search of `socket()` stops only at a slot that is not in use. -/
theorem searchSlot_unused {used : Nat → Bool} {slots : Nat} (count : Nat) : ∀ (next : Nat)
    {slot : Nat}, (searchSlot used slots count next).1 = some slot → used slot = false := by
  induction count with
  | zero => exact fun _ _ impossible => nomatch impossible
  | succ count inductionHypothesis =>
      intro next slot found
      unfold searchSlot at found
      dsimp only at found
      by_cases busy : used next = true
      · rw [if_pos busy] at found
        exact inductionHypothesis _ found
      · rw [if_neg busy] at found
        cases found
        exact Bool.eq_false_iff.mpr busy

theorem allocateSlot_unused {u8Type : Nat} {driver : Driver} {sock : Int}
    (found : (allocateSlot u8Type driver).1 = some sock) :
    ((allocateSlot u8Type driver).2.gastrSockets sock).bIsUsed = false := by
  unfold allocateSlot at found ⊢
  by_cases tcp : u8Type = sockStream
  · rw [if_pos tcp] at found ⊢
    obtain ⟨slot, search, rfl⟩ := Option.map_eq_some_iff.mp found
    exact searchSlot_unused tcpSockMax _ search
  · rw [if_neg tcp] at found ⊢
    by_cases udp : u8Type = sockDgram
    · rw [if_pos udp] at found ⊢
      obtain ⟨slot, search, rfl⟩ := Option.map_eq_some_iff.mp found
      exact searchSlot_unused udpSockMax _ search
    · rw [if_neg udp] at found
      cases found

theorem allocateSlot_moves (u8Type : Nat) (driver : Driver) :
    Moves (inCall sizes) driver (allocateSlot u8Type driver).2 := by
  unfold allocateSlot
  split
  · exact .single (.idle rfl rfl rfl rfl (Sends.refl _))
  · split
    · exact .single (.idle rfl rfl rfl rfl (Sends.refl _))
    · exact .refl

theorem socket_moves (u16Domain u8Type : Nat) (u8Flags : UInt8) (driver : Driver) :
    Moves (inCall sizes) driver (socket env u16Domain u8Type u8Flags driver).2 := by
  unfold socket
  by_cases inet : u16Domain = afInet
  · rw [if_pos inet]
    have searched : Moves (inCall sizes) driver (allocateSlot u8Type driver).2 :=
      allocateSlot_moves u8Type driver
    have unused := fun sock => @allocateSlot_unused u8Type driver sock
    generalize allocateSlot u8Type driver = search at searched unused
    obtain ⟨found, after⟩ := search
    cases found with
    | none => exact searched
    | some sock =>
        have opened : Moves (inCall sizes) driver (openSlot sock .cleared after) :=
          searched.tail (.open sock .cleared (Or.inr (unused sock rfl)) (Or.inl rfl))
        by_cases ssl : (u8Flags &&& socketFlagsSsl != 0) = true
        · simp only [ssl, if_true]
          refine ReflTransGen.trans ?_ (socketRequest_moves env _ _ _ _ _)
          exact opened.tail (.edit sock _ rfl rfl (Or.inl ⟨rfl, rfl⟩))
        · simp only [ssl, Bool.false_eq_true, if_false]
          exact opened
  · rw [if_neg inet]

theorem close_moves (sock : Int) (driver : Driver) :
    Moves (inCall sizes) driver (close env sock driver).2 := by
  unfold close
  by_cases valid : sock ≥ 0 ∧ (driver.gastrSockets sock).bIsUsed = true
  · rw [if_pos valid]
    set cmd : SocketCmd := if (driver.gastrSockets sock).isSsl then .sslClose else .close
    have asked : Moves (inCall sizes) driver
        (driver.write (.request cmd sock (driver.gastrSockets sock).u16SessionID)) :=
      .single (.request cmd sock valid.2)
    have closed := asked.tail (.close sock)
    refine closed.trans (.single (.idle ?_ rfl rfl rfl (hifSend_sends ..)))
    -- clearing the session first makes no difference to the cleared slot
    exact Function.update_idem ..
  · rw [if_neg valid]

theorem bind_moves (sock : Int) (pstrAddr : Option (List UInt8)) (u8AddrLen : Nat)
    (driver : Driver) :
    Moves (inCall sizes) driver (bind env sock pstrAddr u8AddrLen driver).2 := by
  unfold bind
  cases pstrAddr with
  | none => exact .refl
  | some address =>
      dsimp only
      split
      · rename_i valid
        dsimp only
        exact sessionRequest_moves env _ _ _ _ _ _ valid.2.1
      · exact .refl

theorem listen_moves (sock : Int) (backlog : UInt8) (driver : Driver) :
    Moves (inCall sizes) driver (listen env sock backlog driver).2 := by
  unfold listen
  split
  · rename_i valid
    dsimp only
    exact sessionRequest_moves env _ _ _ _ _ _ valid.2
  · exact .refl

theorem connect_moves (sock : Int) (pstrAddr : Option (List UInt8)) (u8AddrLen : Nat)
    (driver : Driver) :
    Moves (inCall sizes) driver (connect env sock pstrAddr u8AddrLen driver).2 := by
  unfold connect
  cases pstrAddr with
  | none => exact .refl
  | some address =>
      dsimp only
      split
      · rename_i valid
        dsimp only
        exact sessionRequest_moves env _ _ _ _ _ _ valid.2.1
      · exact .refl

theorem send_moves (sock : Int) (pvSendBuffer : Option (List UInt8)) (driver : Driver) :
    Moves (inCall sizes) driver (send env sock pvSendBuffer driver).2 := by
  unfold send
  cases pvSendBuffer with
  | none => exact .refl
  | some data =>
      dsimp only
      split
      · rename_i valid
        dsimp only
        exact sessionRequest_moves env _ _ _ _ _ _ valid.2.2
      · exact .refl

theorem sendto_moves (sock : Int) (pvSendBuffer pstrDestAddr : Option (List UInt8))
    (driver : Driver) :
    Moves (inCall sizes) driver (sendto env sock pvSendBuffer pstrDestAddr driver).2 := by
  unfold sendto
  cases pvSendBuffer with
  | none => exact .refl
  | some data =>
      dsimp only
      split
      · rename_i valid
        dsimp only
        exact sessionRequest_moves env _ _ _ _ _ _ valid.2.2
      · exact .refl

theorem receiveInto_moves (cmd : SocketCmd) (sock : Int) (buffer u32Timeoutmsec : Nat)
    {u16BufLen : Nat} (nonzero : u16BufLen ≠ 0) (allowed : sizes u16BufLen) {driver : Driver}
    (used : (driver.gastrSockets sock).bIsUsed = true) :
    Moves (inCall sizes) driver
      (receiveInto env cmd sock buffer u16BufLen u32Timeoutmsec driver).2 := by
  unfold receiveInto
  dsimp only
  split
  · dsimp only
    refine ReflTransGen.trans ?_ (sessionRequest_moves env _ _ _ _ _ _ ?_)
    · exact .single (.edit sock _ rfl rfl (Or.inr ⟨rfl, nonzero, allowed⟩))
    · rw [setSocket_gastrSockets]
      exact used
  · exact .single (.edit sock _ rfl rfl (Or.inr ⟨rfl, nonzero, allowed⟩))

theorem recv_moves (sock : Int) (pvRecvBuf : Option Nat) {u16BufLen : Nat}
    (allowed : sizes u16BufLen) (u32Timeoutmsec : Nat) (driver : Driver) :
    Moves (inCall sizes) driver (recv env sock pvRecvBuf u16BufLen u32Timeoutmsec driver).2 := by
  unfold recv
  cases pvRecvBuf with
  | none => exact .refl
  | some buffer =>
      dsimp only
      split
      · rename_i valid
        exact receiveInto_moves env _ _ _ _ valid.2.1 allowed valid.2.2
      · exact .refl

theorem recvfrom_moves (sock : Int) (pvRecvBuf : Option Nat) {u16BufLen : Nat}
    (allowed : sizes u16BufLen) (u32Timeoutmsec : Nat) (driver : Driver) :
    Moves (inCall sizes) driver
      (recvfrom env sock pvRecvBuf u16BufLen u32Timeoutmsec driver).2 := by
  unfold recvfrom
  cases pvRecvBuf with
  | none => exact .refl
  | some buffer =>
      dsimp only
      split
      · rename_i valid
        exact receiveInto_moves env _ _ _ _ valid.2.1 allowed valid.2.2
      · exact .refl

theorem gethostbyname_moves (pcHostName : List UInt8) (driver : Driver) :
    Moves (inCall sizes) driver (gethostbyname env pcHostName driver).2 := by
  unfold gethostbyname
  dsimp only
  split
  · exact socketRequest_moves env ..
  · exact .refl

theorem sslFlagOption_moves (flag : UInt8) (sock : Int) (value : List UInt8) (driver : Driver) :
    Moves (inCall sizes) driver (sslFlagOption flag sock value driver) :=
  .single (.edit sock _ rfl rfl (Or.inl ⟨rfl, rfl⟩))

theorem sslSetSockOpt_moves (sock : Int) (u8Opt : UInt8) (pvOptVal : List UInt8)
    (u16OptLen : Nat) {driver : Driver} (used : (driver.gastrSockets sock).bIsUsed = true) :
    Moves (inCall sizes) driver (sslSetSockOpt env sock u8Opt pvOptVal u16OptLen driver).2 := by
  unfold sslSetSockOpt
  split
  · split
    · exact sslFlagOption_moves ..
    split
    · exact sslFlagOption_moves ..
    split
    · exact sslFlagOption_moves ..
    split
    · -- the name is sent once more, as data, when the chip has no room for it
      obtain ⟨hif, sends, same⟩ := sessionRequest_snd env .sslSetSockOpt 0 sock
        (fun session => [sint8Byte sock, u8Opt] ++ le16 session ++ le32 u16OptLen ++
          pvOptVal.take hostnameMaxSize) none 0 driver
      have first : Moves (inCall sizes) driver _ := sessionRequest_moves env .sslSetSockOpt 0 sock
        (fun session => [sint8Byte sock, u8Opt] ++ le16 session ++ le32 u16OptLen ++
          pvOptVal.take hostnameMaxSize) none 0 used
      dsimp only
      split
      · dsimp only
        refine ReflTransGen.trans first (sessionRequest_moves env _ _ _ _ _ _ ?_)
        rw [same]
        exact used
      · exact first
    · exact .refl
  · exact .refl

theorem setsockopt_moves (sock : Int) (u8Level : Nat) (option : UInt8)
    (value : Option (List UInt8)) (u16OptionLen : Nat) (driver : Driver) :
    Moves (inCall sizes) driver
      (setsockopt env sock u8Level option value u16OptionLen driver).2 := by
  unfold setsockopt
  cases value with
  | none => exact .refl
  | some value =>
      dsimp only
      split
      · rename_i valid
        split
        · exact sslSetSockOpt_moves env _ _ _ _ valid.2
        · dsimp only
          exact sessionRequest_moves env _ _ _ _ _ _ valid.2
      · exact .refl

theorem m2mPingReq_moves (u32DstIP : Nat) (u8TTL : UInt8) (fpPingCb : Nat) (driver : Driver) :
    Moves (inCall sizes) driver (m2mPingReq env u32DstIP u8TTL fpPingCb driver).2 := by
  unfold m2mPingReq
  split
  · exact socketRequest_moves env ..
  · exact .refl

/-- The buffer that a call receives into is of an allowed size. -/
def Call.Buffers (sizes : Nat → Prop) : Call → Prop
  | .recv _ _ u16BufLen _ | .recvfrom _ _ u16BufLen _ => sizes u16BufLen
  | _ => True

def ForeignAct.Buffers (sizes : Nat → Prop) : ForeignAct → Prop
  | .receive _ _ _ _ => True
  | .call given => given.Buffers sizes

def Event.Buffers (sizes : Nat → Prop) : Event → Prop
  | .call given => given.Buffers sizes
  | .interrupt => True

/-- So are all those that are given in callbacks. -/
def Environment.Buffers (env : Environment) (sizes : Nat → Prop) : Prop :=
  (∀ turn, ∀ call ∈ env.app turn, call.Buffers sizes) ∧
    ∀ turn, ∀ act ∈ env.foreign turn, act.Buffers sizes

theorem Call.buffers_any (call : Call) : call.Buffers fun _ => True := by
  cases call <;> trivial

theorem Environment.buffers_any : env.Buffers fun _ => True := by
  refine ⟨fun _ call _ => call.buffers_any, fun _ act _ => ?_⟩
  cases act with
  | receive => trivial
  | call call => exact call.buffers_any

theorem runCall_moves {call : Call} (allowed : call.Buffers sizes) (driver : Driver) :
    Moves (inCall sizes) driver (runCall env driver call) := by
  cases call with
  | socket u16Domain u8Type u8Flags => exact socket_moves env u16Domain u8Type u8Flags driver
  | bind sock pstrAddr u8AddrLen => exact bind_moves env sock pstrAddr u8AddrLen driver
  | listen sock backlog => exact listen_moves env sock backlog driver
  | connect sock pstrAddr u8AddrLen => exact connect_moves env sock pstrAddr u8AddrLen driver
  | send sock pvSendBuffer => exact send_moves env sock pvSendBuffer driver
  | sendto sock pvSendBuffer pstrDestAddr =>
      exact sendto_moves env sock pvSendBuffer pstrDestAddr driver
  | recv sock pvRecvBuf u16BufLen timeout =>
      exact recv_moves env sock pvRecvBuf allowed timeout driver
  | recvfrom sock pvRecvBuf u16BufLen timeout =>
      exact recvfrom_moves env sock pvRecvBuf allowed timeout driver
  | close sock => exact close_moves env sock driver
  | gethostbyname pcHostName => exact gethostbyname_moves env pcHostName driver
  | setsockopt sock u8Level option value u16OptionLen =>
      exact setsockopt_moves env sock u8Level option value u16OptionLen driver
  | m2mPingReq u32DstIP u8TTL fpPingCb => exact m2mPingReq_moves env u32DstIP u8TTL fpPingCb driver

/-! ## Callbacks and replies -/

section Allowed

variable {env} (allowed : env.Buffers sizes)

include allowed

/-- What the application does in a callback, after the callback's entry. -/
theorem callback_moves_after (entry : Entry) (driver : Driver) :
    Moves (inCall sizes) (driver.write entry) (callback env entry driver) :=
  (ReflTransGen.single (.idle rfl rfl rfl rfl (Sends.refl _))).trans
    (Moves.foldl
      (fun later call member => runCall_moves env (allowed.1 driver.turns call member) later) _)

theorem callback_moves {entry : Entry} (silent : entry.isCallback = true) (driver : Driver) :
    Moves (inCallback sizes) driver (callback env entry driver) :=
  (ReflTransGen.single (.callback entry silent trivial)).trans
    (callback_moves_after allowed entry driver).inCallback

theorem appSocketCb_moves (sock : Int) (msg : SocketMsg) (driver : Driver) :
    Moves (inCallback sizes) driver (appSocketCb env sock msg driver) := by
  unfold appSocketCb
  split
  · exact callback_moves allowed rfl driver
  · exact .refl

theorem callback_anywhere {entry : Entry} (silent : entry.isCallback = true) (driver : Driver) :
    Moves (anywhere sizes) driver (callback env entry driver) :=
  (callback_moves allowed silent driver).anywhere

theorem appSocketCb_anywhere (sock : Int) (msg : SocketMsg) (driver : Driver) :
    Moves (anywhere sizes) driver (appSocketCb env sock msg driver) :=
  (appSocketCb_moves allowed sock msg driver).anywhere

theorem readSocketDataLoop_moves (cmd : SocketCmd) (sock : Int) (port ip : List UInt8)
    (fuel : Nat) : ∀ (u32Address u16ReadCount u16RemainingSize : Nat) (driver : Driver),
      Moves (anywhere sizes) driver (readSocketDataLoop env cmd sock port ip fuel u32Address
        u16ReadCount u16RemainingSize driver) := by
  induction fuel with
  | zero => exact fun _ _ _ _ => .refl
  | succ fuel inductionHypothesis =>
      intro u32Address u16ReadCount u16RemainingSize driver
      unfold readSocketDataLoop
      dsimp only
      split
      · have delivered {hif : Hif} (count : hif.u8ChipSleep = driver.hif.u8ChipSleep)
            (msg : SocketMsg) :
            Moves (anywhere sizes) driver (appSocketCb env sock msg { driver with hif := hif }) :=
          (Moves.anyHif driver count).trans (appSocketCb_anywhere allowed sock msg _)
        have told := fun msg => delivered (hifReceive_u8ChipSleep env.chip u32Address
          (driver.gastrSockets sock).pu8UserBuffer.isSome
          (u16Read u16ReadCount (driver.gastrSockets sock).u16UserBufferSize)
          (decide (s16Diff u16ReadCount (driver.gastrSockets sock).u16UserBufferSize ≤ 0))
          driver.hif) msg
        split
        · exact (told _).trans (Moves.anyHif _ (hifReceive_u8ChipSleep ..))
        · split
          · exact told _
          · exact (told _).trans (inductionHypothesis _ _ _ _)
      · exact .anyHif driver (hifReceive_u8ChipSleep ..)

theorem socketReadSocketData_moves (cmd : SocketCmd) (sock : Int) (port ip : List UInt8)
    (u32StartAddress u16ReadCount : Nat) (driver : Driver) :
    Moves (anywhere sizes) driver
      (socketReadSocketData env cmd sock port ip u32StartAddress u16ReadCount driver) := by
  unfold socketReadSocketData
  dsimp only
  split
  · exact readSocketDataLoop_moves allowed ..
  · exact .refl

theorem recvReplied_moves (cmd : SocketCmd) (u16BufferSize u32Address : Nat)
    (reply : List UInt8) (driver : Driver) :
    Moves (anywhere sizes) driver (recvReplied env cmd u16BufferSize u32Address reply driver) := by
  unfold recvReplied
  dsimp only
  have cleared (sock : Int) : Moves (anywhere sizes) driver (driver.setSocket sock
      { driver.gastrSockets sock with bIsRecvPending := false }) :=
    .single (.edit sock _ rfl rfl (Or.inl ⟨rfl, rfl⟩))
  split
  · split
    · exact (cleared _).trans (socketReadSocketData_moves allowed ..)
    · exact (cleared _).trans (appSocketCb_anywhere allowed ..)
  · split
    · exact (cleared _).trans (Moves.anyHif _ (hifReceive_u8ChipSleep ..))
    · exact cleared _

theorem sendReplied_moves (cmd : SocketCmd) (reply : List UInt8) (driver : Driver) :
    Moves (anywhere sizes) driver (sendReplied env cmd reply driver) := by
  unfold sendReplied
  dsimp only
  split
  · exact appSocketCb_anywhere allowed ..
  · exact .refl

theorem acceptReplied_moves (reply : List UInt8) (driver : Driver) :
    Moves (anywhere sizes) driver (acceptReplied env reply driver) := by
  unfold acceptReplied
  dsimp only
  split
  · refine ReflTransGen.trans (.single ?_) (appSocketCb_anywhere allowed ..)
    exact .open _ _ (Or.inl trivial) (Or.inr (Or.inl ⟨rfl, rfl⟩))
  · exact appSocketCb_anywhere allowed ..

theorem connectReplied_moves (reply : List UInt8) (driver : Driver) :
    Moves (anywhere sizes) driver (connectReplied env reply driver) := by
  unfold connectReplied
  dsimp only
  split
  · refine ReflTransGen.trans (.single ?_) (appSocketCb_anywhere allowed ..)
    exact .edit _ _ rfl rfl (Or.inl ⟨rfl, rfl⟩)
  · exact appSocketCb_anywhere allowed ..

theorem replied_moves (cmd : SocketCmd) (u16BufferSize u32Address : Nat) (reply : List UInt8)
    (driver : Driver) :
    Moves (anywhere sizes) driver (replied env cmd u16BufferSize u32Address reply driver) := by
  cases cmd with
  | bind | sslBind | listen => exact appSocketCb_anywhere allowed ..
  | accept => exact acceptReplied_moves allowed ..
  | connect | sslConnect => exact connectReplied_moves allowed ..
  | recv | sslRecv | recvfrom => exact recvReplied_moves allowed ..
  | send | sslSend | sendto => exact sendReplied_moves allowed ..
  | dnsResolve | ping =>
      unfold replied
      dsimp only
      split
      · exact callback_anywhere allowed rfl driver
      · exact .refl
  | close | sslClose | setSocketOption | sslCreate | sslSetSockOpt => exact .refl

theorem m2mIpCb_moves (cmd : SocketCmd) (u16BufferSize u32Address : Nat) (driver : Driver) :
    Moves (anywhere sizes) driver (m2mIpCb env cmd u16BufferSize u32Address driver) := by
  unfold m2mIpCb readReply
  split
  · rename_i size _
    have read : Moves (anywhere sizes) driver _ := Moves.anyHif driver
      (hifReceive_u8ChipSleep env.chip u32Address true size (cmd = .ping) driver.hif)
    dsimp only
    split
    · rename_i reply after split
      rw [← (Prod.mk.inj split).2]
      exact read.trans (replied_moves allowed ..)
    · rename_i after split
      rw [← (Prod.mk.inj split).2]
      exact read
  · exact .refl

/-! ## Interrupts and runs -/

omit allowed in
theorem foreignAct_moves {act : ForeignAct} (given : act.Buffers sizes) (driver : Driver) :
    Moves (anywhere sizes) driver (foreignAct env driver act) := by
  cases act with
  | receive u32Addr pu8Buf u16Sz isDone => exact .anyHif driver (hifReceive_u8ChipSleep ..)
  | call call => exact (runCall_moves env given driver).inCallback.anywhere

theorem foreignCb_moves (driver : Driver) : Moves (anywhere sizes) driver (foreignCb env driver) :=
  (ReflTransGen.single (.idle rfl rfl rfl rfl id)).trans
    (Moves.foldl
      (fun later act member => foreignAct_moves (allowed.2 driver.turns act member) later) _)

theorem groupCb_moves (group : HifGroup) (u8OpCode : UInt8) (u16DataSize u32Addr : Nat)
    (driver : Driver) :
    Moves (anywhere sizes) driver (groupCb env group u8OpCode u16DataSize u32Addr driver) := by
  unfold groupCb
  split
  · split
    · exact m2mIpCb_moves allowed ..
    · exact .refl
    · exact foreignCb_moves allowed driver
  · exact .refl

omit allowed in
theorem finishRx_moves (driver : Driver) :
    Moves (anywhere sizes) driver (finishRx env driver).2 := by
  unfold finishRx
  split
  · exact .anyHif driver (hifSetRxDone_u8ChipSleep ..)
  · exact .refl

theorem hifPacket_moves (size address : Nat) (header : List UInt8) (driver : Driver) :
    Moves (anywhere sizes) driver (hifPacket env size address header driver).2 := by
  unfold hifPacket
  dsimp only
  split
  · exact .anyHif driver rfl
  · split
    · exact (groupCb_moves allowed ..).trans (finishRx_moves _)
    · exact .refl

theorem hifInterrupt_moves (reg : BitVec 32) (driver : Driver) :
    Moves (anywhere sizes) driver (hifInterrupt env reg driver).2 := by
  unfold hifInterrupt
  dsimp only
  split
  · exact .anyHif driver rfl
  split
  · split
    · exact .anyHif driver rfl
    split
    · exact .anyHif driver rfl
    · refine ReflTransGen.trans (Moves.anyHif driver ?_) (hifPacket_moves allowed ..)
      rfl
  · exact .anyHif driver rfl

theorem hifIsr_moves (driver : Driver) : Moves (anywhere sizes) driver (hifIsr env driver).2 := by
  unfold hifIsr
  dsimp only
  split
  · split
    · refine ReflTransGen.trans (Moves.anyHif driver ?_) (hifInterrupt_moves allowed ..)
      rfl
    · exact .anyHif driver rfl
  · exact .anyHif driver rfl

theorem step_moves {event : Event} (given : event.Buffers sizes) (driver : Driver) :
    Moves (anywhere sizes) driver (step env driver event) := by
  cases event with
  | call call => exact (runCall_moves env given driver).inCallback.anywhere
  | interrupt => exact hifIsr_moves allowed driver

theorem run_moves {events : List Event} (given : ∀ event ∈ events, event.Buffers sizes)
    (driver : Driver) : Moves (anywhere sizes) driver (run env events driver) :=
  Moves.foldl (fun later event member => step_moves allowed (given event member) later) driver

end Allowed

theorem run_moves_any (events : List Event) (driver : Driver) :
    Moves (anywhere fun _ => True) driver (run env events driver) := by
  refine run_moves (Environment.buffers_any env) (fun event _ => ?_) driver
  cases event with
  | call call => exact call.buffers_any
  | interrupt => trivial

/-- Whatever the application calls of the socket layer, and from whichever callback,
nobody keeps the chip awake between two events: each `hif_send` lets go of what it
has woken, also when it fails. -/
theorem run_letsGo (events : List Event) {start : Driver} (asleep : start.hif.u8ChipSleep = 0) :
    (run env events start).hif.u8ChipSleep = 0 := by
  refine (run_moves_any env events start).keeps (P := fun later => later.hif.u8ChipSleep = 0)
    (fun move awake => ?_) asleep
  cases move with
  | idle _ _ _ _ letsGo => exact letsGo awake
  | edit | «open» | request | close | callback => exact awake

end Calls

theorem run_letsGo_uninitialised :
    (run (withChip grants) [.call (.socket 2 1 0), .call (.send 0 (some [7])), .interrupt]
      uninitialised).hif.u8ChipSleep = 0 :=
  run_letsGo (withChip grants) _ rfl

end MicrochipDay.Winc
