import MicrochipDay.Winc.Hif
import Mathlib.Logic.Function.Basic

/-!
Owns the socket layer of the Wi-Fi driver (socket.c): the table `gastrSockets`,
the calls of the application, and `m2m_ip_cb`, which hands the chip's replies to
the application's callbacks.

What the application calls from inside a callback is part of the environment,
as are the answers of the bus. The log is not the program's: it records which
requests were made, which replies reached the application and which slots were
opened and closed, the newest entry first.
-/

namespace MicrochipDay.Winc

/-! ## Constants and tables -/

def afInet : Nat := 2
def sockStream : Nat := 1
def sockDgram : Nat := 2
def socketFlagsSsl : UInt8 := 0x01
def tcpSockMax : Nat := 7
def udpSockMax : Nat := 4
def socketBufferMaxLength : Nat := 1400
def hostnameMaxSize : Nat := 64
def solSslSocket : Nat := 2

def sockErrNoError : Int := 0
def sockErrInvalidArg : Int := -6
def sockErrInvalid : Int := -9
def sockErrBufferFull : Int := -14
def m2mErrInvalidArg : Int := -15

def sslFlagsActive : UInt8 := 0x01
def sslFlagsBypassX509 : UInt8 := 0x02
def sslFlagsCacheSession : UInt8 := 0x10
def sslFlagsNoTxCopy : UInt8 := 0x20
def sslFlagsCheckSni : UInt8 := 0x40

/-- `TCP_TX_PACKET_OFFSET` and `UDP_TX_PACKET_OFFSET`. -/
def tcpTxPacketOffset : Nat := 80
def udpTxPacketOffset : Nat := 68

/-- `SOCKET_CMD_*`. -/
inductive SocketCmd where
  | bind
  | listen
  | accept
  | connect
  | send
  | recv
  | sendto
  | recvfrom
  | close
  | dnsResolve
  | sslConnect
  | sslSend
  | sslRecv
  | sslClose
  | setSocketOption
  | sslCreate
  | sslSetSockOpt
  | ping
  | sslBind
deriving DecidableEq, Repr

def SocketCmd.number : SocketCmd → UInt8
  | .bind => 0x41
  | .listen => 0x42
  | .accept => 0x43
  | .connect => 0x44
  | .send => 0x45
  | .recv => 0x46
  | .sendto => 0x47
  | .recvfrom => 0x48
  | .close => 0x49
  | .dnsResolve => 0x4a
  | .sslConnect => 0x4b
  | .sslSend => 0x4c
  | .sslRecv => 0x4d
  | .sslClose => 0x4e
  | .setSocketOption => 0x4f
  | .sslCreate => 0x50
  | .sslSetSockOpt => 0x51
  | .ping => 0x52
  | .sslBind => 0x54

/-- `M2M_REQ_DATA_PKT`. -/
def m2mReqDataPkt : UInt8 := 0x80

/-- `tstrSocket`. A user buffer is known by a number; `none` is `NULL`. -/
structure Socket where
  pu8UserBuffer : Option Nat
  u16UserBufferSize : Nat
  u16SessionID : Nat
  u16DataOffset : Nat
  bIsUsed : Bool
  u8SSLFlags : UInt8
  bIsRecvPending : Bool
deriving DecidableEq, Repr

/-- A slot that `m2m_memset` has cleared. -/
def Socket.cleared : Socket := ⟨none, 0, 0, 0, false, 0, false⟩

def Socket.isSsl (socket : Socket) : Bool := socket.u8SSLFlags &&& sslFlagsActive != 0

/-- What the socket callback is given. A chunk of received data carries the
buffer, its bytes and what remains; an error carries a `NULL` buffer. -/
inductive SocketMsg where
  | bind (status : Int)
  | listen (status : Int)
  | accept (sock : Int) (port ip : List UInt8)
  | connect (s8Error : Int)
  | received (cmd : SocketCmd) (pu8Buffer : Option Nat) (bytes : List UInt8)
      (u16RemainingSize : Nat) (port ip : List UInt8)
  | receiveError (cmd : SocketCmd) (s16BufferSize : Int) (port ip : List UInt8)
  | sent (cmd : SocketCmd) (s16Sent : Int)
deriving DecidableEq, Repr

inductive Entry where
  | opened (sock : Int)
  | closed (sock : Int)
  | request (cmd : SocketCmd) (sock : Int) (u16SessionID : Nat)
  | callback (sock : Int) (msg : SocketMsg)
  | resolved (acHostName u32HostIP : List UInt8)
  | pinged (u32IPAddr u32RTT : List UInt8) (u8ErrorCode : UInt8)
deriving DecidableEq, Repr

/-- What the application calls. A buffer to send is its bytes, a buffer to
receive into its number; `none` is `NULL`. -/
inductive Call where
  | socket (u16Domain u8Type : Nat) (u8Flags : UInt8)
  | bind (sock : Int) (pstrAddr : Option (List UInt8)) (u8AddrLen : Nat)
  | listen (sock : Int) (backlog : UInt8)
  | connect (sock : Int) (pstrAddr : Option (List UInt8)) (u8AddrLen : Nat)
  | send (sock : Int) (pvSendBuffer : Option (List UInt8))
  | sendto (sock : Int) (pvSendBuffer : Option (List UInt8)) (pstrDestAddr : Option (List UInt8))
  | recv (sock : Int) (pvRecvBuf : Option Nat) (u16BufLen u32Timeoutmsec : Nat)
  | recvfrom (sock : Int) (pvRecvBuf : Option Nat) (u16BufLen u32Timeoutmsec : Nat)
  | close (sock : Int)
  | gethostbyname (pcHostName : List UInt8)
  | setsockopt (sock : Int) (u8Level : Nat) (option : UInt8) (value : Option (List UInt8))
      (u16OptionLen : Nat)
  | m2mPingReq (u32DstIP : Nat) (u8TTL : UInt8) (fpPingCb : Nat)
deriving DecidableEq, Repr

/-- What the callback of another group does with its packet. -/
inductive ForeignAct where
  | receive (u32Addr : Nat) (pu8Buf : Bool) (u16Sz : Nat) (isDone : Bool)
  | call (call : Call)
deriving DecidableEq, Repr

/-- The answers of the bus, what lies in uninitialised memory of the stack, what
the application calls in its callbacks, and what the callbacks of the groups
other than `M2M_REQ_GROUP_IP` do. -/
structure Environment where
  chip : Chip
  stack : Nat → Nat → UInt8
  app : Nat → List Call
  foreign : Nat → List ForeignAct

/-- The variables of the driver. `turns` counts the callbacks made. C has a table
`gastrSockets` for the handles 0 to 10, and reads and writes beyond it for any other
handle that a reply names or that the application passes without a minus sign; here
every handle has a slot of its own. -/
structure Driver where
  hif : Hif
  gastrSockets : Int → Socket
  gu16SessionID : Nat
  gbSocketInit : Bool
  u8NextTcpSock : Nat
  u8NextUdpSock : Nat
  hasSocketCb : Bool
  hasResolveCb : Bool
  turns : Nat
  log : List Entry

namespace Driver

def write (driver : Driver) (entry : Entry) : Driver := { driver with log := entry :: driver.log }

def setSocket (driver : Driver) (sock : Int) (socket : Socket) : Driver :=
  { driver with gastrSockets := Function.update driver.gastrSockets sock socket }

end Driver

/-- `socketInit`. -/
def socketInit (driver : Driver) : Driver :=
  if driver.gbSocketInit then driver
  else
    { driver with
      gastrSockets := fun _ => .cleared
      hif := { driver.hif with registered := Function.update driver.hif.registered .ip true }
      gbSocketInit := true
      gu16SessionID := 0 }

/-! ## Requests -/

def le16 (value : Nat) : List UInt8 := [UInt8.ofNat value, UInt8.ofNat (value / 256)]

def le32 (value : Nat) : List UInt8 := le16 value ++ le16 (value / 65536)

/-- A `sint8` as its byte. -/
def sint8Byte (value : Int) : UInt8 := UInt8.ofInt value

/-- `SOCKET_REQUEST`. -/
def socketRequest (env : Environment) (u8Opcode : UInt8) (ctrl : List UInt8)
    (data : Option (List UInt8)) (offset : Nat) (driver : Driver) : Int × Driver :=
  let (ret, hif) := hifSend env.chip (env.stack driver.hif.bus.length)
    ⟨.ip, u8Opcode, some ctrl, ctrl.length, data, offset⟩ driver.hif
  (ret, { driver with hif := hif })

/-- A request that carries the session of its socket. -/
def sessionRequest (env : Environment) (cmd : SocketCmd) (flag : UInt8) (sock : Int)
    (ctrl : Nat → List UInt8) (data : Option (List UInt8)) (offset : Nat) (driver : Driver) :
    Int × Driver :=
  let u16SessionID := (driver.gastrSockets sock).u16SessionID
  socketRequest env (cmd.number ||| flag) (ctrl u16SessionID) data offset
    (driver.write (.request cmd sock u16SessionID))

/-- The result of a request as most calls return it. -/
def resultOf (error : Int) (ret : Int) : Int := if ret ≠ sockErrNoError then error else ret

/-! ## Opening and closing -/

/-- The search loop of `socket()`, with `count` rounds to go: the slot found,
and the slot the next search begins with. -/
def searchSlot (used : Nat → Bool) (slots : Nat) : Nat → Nat → Option Nat × Nat
  | 0, next => (none, next)
  | count + 1, next =>
      let following := (next + 1) % slots
      if used next then searchSlot used slots count following else (some next, following)

/-- The search of `socket()` for the type, with the handle found. -/
def allocateSlot (u8Type : Nat) (driver : Driver) : Option Int × Driver :=
  if u8Type = sockStream then
    let (found, next) := searchSlot (fun slot => (driver.gastrSockets slot).bIsUsed) tcpSockMax
      tcpSockMax driver.u8NextTcpSock
    (found.map Int.ofNat, { driver with u8NextTcpSock := next })
  else if u8Type = sockDgram then
    let (found, next) :=
      searchSlot (fun slot => (driver.gastrSockets (slot + tcpSockMax : Nat)).bIsUsed) udpSockMax
        udpSockMax driver.u8NextUdpSock
    (found.map fun slot => Int.ofNat (slot + tcpSockMax), { driver with u8NextUdpSock := next })
  else (none, driver)

/-- `++gu16SessionID; if (gu16SessionID == 0) ++gu16SessionID;` -/
def nextSession (gu16SessionID : Nat) : Nat :=
  let incremented := u16 (gu16SessionID + 1)
  if incremented = 0 then u16 (incremented + 1) else incremented

/-- Gives the slot the next session. -/
def openSlot (sock : Int) (socket : Socket) (driver : Driver) : Driver :=
  let session := nextSession driver.gu16SessionID
  ({ driver with gu16SessionID := session }.setSocket sock
    { socket with bIsUsed := true, u16SessionID := session }).write (.opened sock)

/-- `socket()`. -/
def socket (env : Environment) (u16Domain u8Type : Nat) (u8Flags : UInt8) (driver : Driver) :
    Int × Driver :=
  if u16Domain = afInet then
    match allocateSlot u8Type driver with
    | (some sock, driver) =>
        let driver := openSlot sock .cleared driver
        if u8Flags &&& socketFlagsSsl != 0 then
          let driver := driver.setSocket sock
            { driver.gastrSockets sock with u8SSLFlags := sslFlagsActive ||| sslFlagsNoTxCopy }
          let padding := env.stack driver.hif.bus.length
          let (_, driver) := socketRequest env SocketCmd.sslCreate.number
            [sint8Byte sock, padding 4, padding 5, padding 6] none 0 driver
          (sock, driver)
        else (sock, driver)
    | (none, driver) => (-1, driver)
  else (-1, driver)

/-- `close()`. The slot loses its session before the request is sent, and is
cleared after it. -/
def close (env : Environment) (sock : Int) (driver : Driver) : Int × Driver :=
  let socket := driver.gastrSockets sock
  if sock ≥ 0 ∧ socket.bIsUsed then
    let cmd : SocketCmd := if socket.isSsl then .sslClose else .close
    let strclose :=
      [sint8Byte sock, env.stack driver.hif.bus.length 4] ++ le16 socket.u16SessionID
    let driver := (driver.write (.request cmd sock socket.u16SessionID)).setSocket sock
      { socket with bIsUsed := false, u16SessionID := 0 }
    let (ret, driver) := socketRequest env cmd.number strclose none 0 driver
    (resultOf sockErrInvalid ret, (driver.setSocket sock .cleared).write (.closed sock))
  else (sockErrInvalidArg, driver)

/-! ## Calls on an open socket -/

/-- `bind()`. -/
def bind (env : Environment) (sock : Int) (pstrAddr : Option (List UInt8)) (u8AddrLen : Nat)
    (driver : Driver) : Int × Driver :=
  match pstrAddr with
  | some address =>
      if sock ≥ 0 ∧ (driver.gastrSockets sock).bIsUsed ∧ u8AddrLen ≠ 0 then
        let cmd : SocketCmd := if (driver.gastrSockets sock).isSsl then .sslBind else .bind
        let u8Void := env.stack driver.hif.bus.length 4
        let (ret, driver) := sessionRequest env cmd 0 sock
          (fun session => address.take 8 ++ [sint8Byte sock, u8Void] ++ le16 session) none 0 driver
        (resultOf sockErrInvalid ret, driver)
      else (sockErrInvalidArg, driver)
  | none => (sockErrInvalidArg, driver)

/-- `listen()`. -/
def listen (env : Environment) (sock : Int) (backlog : UInt8) (driver : Driver) : Int × Driver :=
  if sock ≥ 0 ∧ (driver.gastrSockets sock).bIsUsed then
    let (ret, driver) := sessionRequest env .listen 0 sock
      (fun session => [sint8Byte sock, backlog] ++ le16 session) none 0 driver
    (resultOf sockErrInvalid ret, driver)
  else (sockErrInvalidArg, driver)

/-- `connect()`. -/
def connect (env : Environment) (sock : Int) (pstrAddr : Option (List UInt8)) (u8AddrLen : Nat)
    (driver : Driver) : Int × Driver :=
  match pstrAddr with
  | some address =>
      if sock ≥ 0 ∧ (driver.gastrSockets sock).bIsUsed ∧ u8AddrLen ≠ 0 then
        let socket := driver.gastrSockets sock
        let cmd : SocketCmd := if socket.isSsl then .sslConnect else .connect
        -- the flags of a plain connection are left uninitialised
        let u8SslFlags :=
          if socket.isSsl then socket.u8SSLFlags else env.stack driver.hif.bus.length 4
        let (ret, driver) := sessionRequest env cmd 0 sock
          (fun session => address.take 8 ++ [sint8Byte sock, u8SslFlags] ++ le16 session) none 0
          driver
        (resultOf sockErrInvalid ret, driver)
      else (sockErrInvalidArg, driver)
  | none => (sockErrInvalidArg, driver)

/-- `send()`. The address and the last two bytes of its command are left
uninitialised. -/
def send (env : Environment) (sock : Int) (pvSendBuffer : Option (List UInt8)) (driver : Driver) :
    Int × Driver :=
  match pvSendBuffer with
  | some data =>
      if sock ≥ 0 ∧ data.length ≤ socketBufferMaxLength ∧ (driver.gastrSockets sock).bIsUsed then
        let socket := driver.gastrSockets sock
        let cmd : SocketCmd := if socket.isSsl then .sslSend else .send
        let u16DataOffset :=
          if socket.isSsl then socket.u16DataOffset
          else if sock ≥ tcpSockMax then udpTxPacketOffset else tcpTxPacketOffset
        let stack := env.stack driver.hif.bus.length
        let (ret, driver) := sessionRequest env cmd m2mReqDataPkt sock
          (fun session =>
            [sint8Byte sock, stack 4] ++ le16 data.length ++ (List.range 8).map (stack <| 5 + ·) ++
              le16 session ++ [stack 13, stack 14])
          (some data) u16DataOffset driver
        (resultOf sockErrBufferFull ret, driver)
      else (sockErrInvalidArg, driver)
  | none => (sockErrInvalidArg, driver)

/-- `sendto()`. -/
def sendto (env : Environment) (sock : Int) (pvSendBuffer pstrDestAddr : Option (List UInt8))
    (driver : Driver) : Int × Driver :=
  match pvSendBuffer with
  | some data =>
      if sock ≥ 0 ∧ data.length ≤ socketBufferMaxLength ∧ (driver.gastrSockets sock).bIsUsed then
        let address := (pstrDestAddr.getD (List.replicate 8 0)).take 8
        let (ret, driver) := sessionRequest env .sendto m2mReqDataPkt sock
          (fun session =>
            [sint8Byte sock, 0] ++ le16 data.length ++ address ++ le16 session ++ [0, 0])
          (some data) udpTxPacketOffset driver
        (resultOf sockErrBufferFull ret, driver)
      else (sockErrInvalidArg, driver)
  | none => (sockErrInvalidArg, driver)

/-- The common part of `recv()` and `recvfrom()`: the buffer is stored, and a
request is sent unless one is pending. -/
def receiveInto (env : Environment) (cmd : SocketCmd) (sock : Int) (buffer u16BufLen : Nat)
    (u32Timeoutmsec : Nat) (driver : Driver) : Int × Driver :=
  let socket := { driver.gastrSockets sock with
    pu8UserBuffer := some buffer, u16UserBufferSize := u16BufLen }
  if !socket.bIsRecvPending then
    let timeout := if u32Timeoutmsec = 0 then 0xffffffff else u32Timeoutmsec
    let u8Void := env.stack driver.hif.bus.length 4
    let (ret, driver) := sessionRequest env cmd 0 sock
      (fun session => le32 timeout ++ [sint8Byte sock, u8Void] ++ le16 session) none 0
      (driver.setSocket sock { socket with bIsRecvPending := true })
    (resultOf sockErrBufferFull ret, driver)
  else (sockErrNoError, driver.setSocket sock socket)

/-- `recv()`. -/
def recv (env : Environment) (sock : Int) (pvRecvBuf : Option Nat) (u16BufLen : Nat)
    (u32Timeoutmsec : Nat) (driver : Driver) : Int × Driver :=
  match pvRecvBuf with
  | some buffer =>
      if sock ≥ 0 ∧ u16BufLen ≠ 0 ∧ (driver.gastrSockets sock).bIsUsed then
        let cmd : SocketCmd := if (driver.gastrSockets sock).isSsl then .sslRecv else .recv
        receiveInto env cmd sock buffer u16BufLen u32Timeoutmsec driver
      else (sockErrInvalidArg, driver)
  | none => (sockErrInvalidArg, driver)

/-- `recvfrom()`. -/
def recvfrom (env : Environment) (sock : Int) (pvRecvBuf : Option Nat) (u16BufLen : Nat)
    (u32Timeoutmsec : Nat) (driver : Driver) : Int × Driver :=
  match pvRecvBuf with
  | some buffer =>
      if sock ≥ 0 ∧ u16BufLen ≠ 0 ∧ (driver.gastrSockets sock).bIsUsed then
        receiveInto env .recvfrom sock buffer u16BufLen u32Timeoutmsec driver
      else (sockErrInvalidArg, driver)
  | none => (sockErrInvalidArg, driver)

/-! ## Other calls -/

/-- `gethostbyname()`; the length of the name is kept in eight bits. -/
def gethostbyname (env : Environment) (pcHostName : List UInt8) (driver : Driver) : Int × Driver :=
  let u8HostNameSize := pcHostName.length % 256
  if u8HostNameSize ≤ hostnameMaxSize then
    socketRequest env SocketCmd.dnsResolve.number ((pcHostName ++ [0]).take (u8HostNameSize + 1))
      none 0 driver
  else (sockErrInvalidArg, driver)

/-- One flag of `sslSetSockOpt`, set or cleared by an `int` of sixteen bits. -/
def sslFlagOption (flag : UInt8) (sock : Int) (value : List UInt8) (driver : Driver) : Driver :=
  let socket := driver.gastrSockets sock
  let flags :=
    if value.getD 0 0 ≠ 0 ∨ value.getD 1 0 ≠ 0 then socket.u8SSLFlags ||| flag
    else socket.u8SSLFlags &&& ~~~flag
  driver.setSocket sock { socket with u8SSLFlags := flags }

/-- `sslSetSockOpt`; the options are `SO_SSL_*`. -/
def sslSetSockOpt (env : Environment) (sock : Int) (u8Opt : UInt8) (pvOptVal : List UInt8)
    (u16OptLen : Nat) (driver : Driver) : Int × Driver :=
  if sock < tcpSockMax ∧ (driver.gastrSockets sock).isSsl then
    if u8Opt = 1 then (sockErrNoError, sslFlagOption sslFlagsBypassX509 sock pvOptVal driver)
    else if u8Opt = 3 then (sockErrNoError, sslFlagOption sslFlagsCacheSession sock pvOptVal driver)
    else if u8Opt = 4 then (sockErrNoError, sslFlagOption sslFlagsCheckSni sock pvOptVal driver)
    else if u8Opt = 2 ∧ u16OptLen < hostnameMaxSize then
      let strCmd := fun session => [sint8Byte sock, u8Opt] ++ le16 session ++ le32 u16OptLen ++
        pvOptVal.take hostnameMaxSize
      let (ret, driver) := sessionRequest env .sslSetSockOpt 0 sock strCmd none 0 driver
      if ret = m2mErrMemAlloc then
        let (_, driver) := sessionRequest env .sslSetSockOpt m2mReqDataPkt sock strCmd none 0 driver
        (sockErrNoError, driver)
      else (sockErrNoError, driver)
    else (sockErrInvalidArg, driver)
  else (sockErrInvalidArg, driver)

/-- `setsockopt()`. -/
def setsockopt (env : Environment) (sock : Int) (u8Level : Nat) (option : UInt8)
    (value : Option (List UInt8)) (u16OptionLen : Nat) (driver : Driver) : Int × Driver :=
  match value with
  | some value =>
      if sock ≥ 0 ∧ (driver.gastrSockets sock).bIsUsed then
        if u8Level = solSslSocket then sslSetSockOpt env sock option value u16OptionLen driver
        else
          let (ret, driver) := sessionRequest env .setSocketOption 0 sock
            (fun session => value.take 4 ++ [sint8Byte sock, option] ++ le16 session) none 0 driver
          (resultOf sockErrInvalid ret, driver)
      else (sockErrInvalidArg, driver)
  | none => (sockErrInvalidArg, driver)

/-- `m2m_ping_req()`; the callback is a pointer of sixteen bits. -/
def m2mPingReq (env : Environment) (u32DstIP : Nat) (u8TTL : UInt8) (fpPingCb : Nat)
    (driver : Driver) : Int × Driver :=
  if u32DstIP ≠ 0 ∧ fpPingCb ≠ 0 then
    socketRequest env SocketCmd.ping.number
      (le32 u32DstIP ++ le32 fpPingCb ++ le16 1 ++ [u8TTL, env.stack driver.hif.bus.length 4])
      none 0 driver
  else (m2mErrInvalidArg, driver)

/-- One call of the application. -/
def runCall (env : Environment) (driver : Driver) : Call → Driver
  | .socket u16Domain u8Type u8Flags => (socket env u16Domain u8Type u8Flags driver).2
  | .bind sock pstrAddr u8AddrLen => (bind env sock pstrAddr u8AddrLen driver).2
  | .listen sock backlog => (listen env sock backlog driver).2
  | .connect sock pstrAddr u8AddrLen => (connect env sock pstrAddr u8AddrLen driver).2
  | .send sock pvSendBuffer => (send env sock pvSendBuffer driver).2
  | .sendto sock pvSendBuffer pstrDestAddr => (sendto env sock pvSendBuffer pstrDestAddr driver).2
  | .recv sock pvRecvBuf u16BufLen timeout => (recv env sock pvRecvBuf u16BufLen timeout driver).2
  | .recvfrom sock pvRecvBuf u16BufLen timeout =>
      (recvfrom env sock pvRecvBuf u16BufLen timeout driver).2
  | .close sock => (close env sock driver).2
  | .gethostbyname pcHostName => (gethostbyname env pcHostName driver).2
  | .setsockopt sock u8Level option value u16OptionLen =>
      (setsockopt env sock u8Level option value u16OptionLen driver).2
  | .m2mPingReq u32DstIP u8TTL fpPingCb => (m2mPingReq env u32DstIP u8TTL fpPingCb driver).2

/-- A callback of the application, which makes calls of its own. -/
def callback (env : Environment) (entry : Entry) (driver : Driver) : Driver :=
  (env.app driver.turns).foldl (runCall env)
    ({ driver with turns := driver.turns + 1 }.write entry)

/-- `gpfAppSocketCb`, if one is registered. -/
def appSocketCb (env : Environment) (sock : Int) (msg : SocketMsg) (driver : Driver) : Driver :=
  if driver.hasSocketCb then callback env (.callback sock msg) driver else driver

/-! ## Replies -/

def sint8At (bytes : List UInt8) (index : Nat) : Int := (bytes.getD index 0).toInt8.toInt

def uint16At (bytes : List UInt8) (index : Nat) : Nat :=
  (bytes.getD index 0).toNat + 256 * (bytes.getD (index + 1) 0).toNat

/-- A 16-bit number read as signed. -/
def sint16 (value : Nat) : Int := if value < 2 ^ 15 then value else value - 2 ^ 16

/-- The bytes `start` to `start + count` of a reply. -/
def slice (bytes : List UInt8) (start count : Nat) : List UInt8 := (bytes.drop start).take count

/-- Reads a reply's structure of `size` bytes. -/
def readReply (env : Environment) (u32Address size : Nat) (isDone : Bool) (driver : Driver) :
    Option (List UInt8) × Driver :=
  let (ret, bytes, hif) := hifReceive env.chip u32Address true size isDone driver.hif
  (if ret = m2mSuccess then some bytes else none, { driver with hif := hif })

/-- `s16Diff`: the bytes to read less the size of the buffer, as a signed number. -/
def s16Diff (u16ReadCount u16UserBufferSize : Nat) : Int :=
  sint16 (u16 (u16ReadCount + 2 ^ 16 - u16UserBufferSize))

/-- `u16Read`: how many bytes one round reads. -/
def u16Read (u16ReadCount u16UserBufferSize : Nat) : Nat :=
  if s16Diff u16ReadCount u16UserBufferSize > 0 then u16UserBufferSize else u16ReadCount

/-- The loop of `Socket_ReadSocketData`. Each round that goes on reads at least
one byte, so `fuel` rounds read `fuel` bytes. -/
def readSocketDataLoop (env : Environment) (cmd : SocketCmd) (sock : Int) (port ip : List UInt8) :
    (fuel u32Address u16ReadCount u16RemainingSize : Nat) → Driver → Driver
  | 0, _, _, _, driver => driver
  | fuel + 1, u32Address, u16ReadCount, u16RemainingSize, driver =>
      let socket := driver.gastrSockets sock
      let size := u16Read u16ReadCount socket.u16UserBufferSize
      let (ret, bytes, hif) := hifReceive env.chip u32Address socket.pu8UserBuffer.isSome size
        (s16Diff u16ReadCount socket.u16UserBufferSize ≤ 0) driver.hif
      let driver := { driver with hif := hif }
      if ret = m2mSuccess then
        let u16RemainingSize := u16 (u16RemainingSize + 2 ^ 16 - size)
        let driver := appSocketCb env sock
          (.received cmd socket.pu8UserBuffer bytes u16RemainingSize port ip) driver
        let u16ReadCount := u16 (u16ReadCount + 2 ^ 16 - size)
        if !(driver.gastrSockets sock).bIsUsed ∧ u16ReadCount ≠ 0 then
          { driver with hif := (hifReceive env.chip 0 false 0 true driver.hif).2.2 }
        else if u16ReadCount = 0 then driver
        else readSocketDataLoop env cmd sock port ip fuel (u32 (u32Address + size)) u16ReadCount
          u16RemainingSize driver
      else driver

/-- `Socket_ReadSocketData`. -/
def socketReadSocketData (env : Environment) (cmd : SocketCmd) (sock : Int) (port ip : List UInt8)
    (u32StartAddress u16ReadCount : Nat) (driver : Driver) : Driver :=
  let socket := driver.gastrSockets sock
  if u16ReadCount > 0 ∧ socket.pu8UserBuffer.isSome ∧ socket.u16UserBufferSize > 0 ∧ socket.bIsUsed
  then
    readSocketDataLoop env cmd sock port ip u16ReadCount u32StartAddress u16ReadCount u16ReadCount
      driver
  else driver

/-- `tstrRecvReply` has 16 bytes, `tstrSendReply` 8. -/
def recvReplySize : Nat := 16
def sendReplySize : Nat := 8

/-- What `m2m_ip_cb` does with the reply to a request for data. -/
def recvReplied (env : Environment) (cmd : SocketCmd) (u16BufferSize u32Address : Nat)
    (reply : List UInt8) (driver : Driver) : Driver :=
  let port := slice reply 2 2
  let ip := slice reply 4 4
  let s16RecvStatus := sint16 (uint16At reply 8)
  let u16DataOffset := uint16At reply 10
  let sock := sint8At reply 12
  let u16SessionID := uint16At reply 14
  -- the pending flag is cleared before the session is looked at
  let driver := driver.setSocket sock { driver.gastrSockets sock with bIsRecvPending := false }
  if u16SessionID = (driver.gastrSockets sock).u16SessionID then
    if 0 < s16RecvStatus ∧ s16RecvStatus < u16BufferSize then
      socketReadSocketData env cmd sock port ip (u32 (u32Address + u16DataOffset))
        s16RecvStatus.toNat driver
    else appSocketCb env sock (.receiveError cmd s16RecvStatus port ip) driver
  else if recvReplySize < u16BufferSize then
    { driver with hif := (hifReceive env.chip 0 false 0 true driver.hif).2.2 }
  else driver

/-- What `m2m_ip_cb` does with the reply to data sent. -/
def sendReplied (env : Environment) (cmd : SocketCmd) (reply : List UInt8) (driver : Driver) :
    Driver :=
  let sock := sint8At reply 0
  let s16Rcvd := sint16 (uint16At reply 2)
  let u16SessionID := uint16At reply 4
  if u16SessionID = (driver.gastrSockets sock).u16SessionID then
    appSocketCb env sock (.sent cmd s16Rcvd) driver
  else driver

/-- What `m2m_ip_cb` does with a connection the chip has accepted. -/
def acceptReplied (env : Environment) (reply : List UInt8) (driver : Driver) : Driver :=
  let port := slice reply 2 2
  let ip := slice reply 4 4
  let sListenSock := sint8At reply 8
  let sConnectedSock := sint8At reply 9
  let driver :=
    if sConnectedSock ≥ 0 then
      openSlot sConnectedSock
        { driver.gastrSockets sConnectedSock with
          u8SSLFlags := (driver.gastrSockets sListenSock).u8SSLFlags
          u16DataOffset := u16 (uint16At reply 10 + 2 ^ 16 - m2mHifHdrOffset) } driver
    else driver
  appSocketCb env sListenSock (.accept sConnectedSock port ip) driver

/-- What `m2m_ip_cb` does with the outcome of a connect. -/
def connectReplied (env : Environment) (reply : List UInt8) (driver : Driver) : Driver :=
  let sock := sint8At reply 0
  let s8Error := sint8At reply 1
  let driver :=
    if s8Error = sockErrNoError then
      driver.setSocket sock { driver.gastrSockets sock with
        u16DataOffset := u16 (uint16At reply 2 + 2 ^ 16 - m2mHifHdrOffset) }
    else driver
  appSocketCb env sock (.connect s8Error) driver

/-- What `m2m_ip_cb` does with a reply it has read: the callback for the command. -/
def replied (env : Environment) (cmd : SocketCmd) (u16BufferSize u32Address : Nat)
    (reply : List UInt8) (driver : Driver) : Driver :=
  match cmd with
  | .bind | .sslBind => appSocketCb env (sint8At reply 0) (.bind (sint8At reply 1)) driver
  | .listen => appSocketCb env (sint8At reply 0) (.listen (sint8At reply 1)) driver
  | .accept => acceptReplied env reply driver
  | .connect | .sslConnect => connectReplied env reply driver
  | .dnsResolve =>
      if driver.hasResolveCb then
        callback env (.resolved (slice reply 0 64) (slice reply 64 4)) driver
      else driver
  | .recv | .sslRecv => recvReplied env .recv u16BufferSize u32Address reply driver
  | .recvfrom => recvReplied env .recvfrom u16BufferSize u32Address reply driver
  | .send | .sslSend => sendReplied env .send reply driver
  | .sendto => sendReplied env .sendto reply driver
  | .ping =>
      if slice reply 4 2 ≠ le16 0 then
        callback env (.pinged (slice reply 0 4) (slice reply 8 4) (reply.getD 16 0)) driver
      else driver
  | _ => driver

/-- The size of the structure that `m2m_ip_cb` reads for a command, if any. -/
def replySize : SocketCmd → Option Nat
  | .bind | .sslBind | .listen | .connect | .sslConnect => some 4
  | .accept => some 12
  | .dnsResolve => some 68
  | .recv | .recvfrom | .sslRecv => some recvReplySize
  | .send | .sendto | .sslSend => some sendReplySize
  | .ping => some 20
  | _ => none

/-- `m2m_ip_cb`. Only the reply to a ping is the last thing read from its packet. -/
def m2mIpCb (env : Environment) (cmd : SocketCmd) (u16BufferSize u32Address : Nat)
    (driver : Driver) : Driver :=
  match replySize cmd with
  | some size =>
      match readReply env u32Address size (cmd = .ping) driver with
      | (some reply, driver) => replied env cmd u16BufferSize u32Address reply driver
      | (none, driver) => driver
  | none => driver

end MicrochipDay.Winc
