import Sofaload.Objects.Worker

namespace Sofaload

-- What the world answers a callback: the kernel (`check_socket_connected`, the socket calls
-- of `make_socket`, reads and writes), the TLS library (`SSL_do_handshake`, the negotiated
-- protocol) and the session (`on_read`, `on_write`, one verdict per `submit_request`). Lists are
-- consumed in order; an exhausted list answers a failed socket, a finished handshake and an
-- accepted request.
inductive Handshake
  | wantRead
  | wantWrite
  | error
  | done
  deriving DecidableEq, Repr

inductive Negotiated
  | none
  | unsupported
  | proto (p : Proto)
  deriving DecidableEq, Repr

-- A read delivers `len` bytes to the session, then stops at `EAGAIN` or fails.
inductive ReadResult
  | ok (len : Nat)
  | fail (len : Nat)
  deriving DecidableEq, Repr

inductive WriteResult
  | drained
  | blocked
  | fail
  deriving DecidableEq, Repr

structure Answers where
  socketConnected : Bool := true
  handshakes : List Handshake := []
  negotiated : Negotiated := .none
  read : ReadResult := .ok 0
  write : WriteResult := .drained
  sockets : List (Option Nat) := []
  accepts : List Bool := []
  deriving DecidableEq, Repr

-- The state a callback runs on: its worker, the thread's view of the globals, and the answers
-- still to be consumed.
structure Ctx where
  w : Worker
  g : Globals
  ans : Answers

namespace Ctx

def client (c : Ctx) (i : Nat) : Client := c.w.client i

def modClient (i : Nat) (f : Client → Client) (c : Ctx) : Ctx :=
  { c with w := { c.w with clients := c.w.clients.modify f i } }

def modStats (f : Stats → Stats) (c : Ctx) : Ctx :=
  { c with w := { c.w with stats := f c.w.stats } }

variable {c : Ctx} {i j : Nat} {f : Client → Client} {h : Stats → Stats}

@[simp] theorem modClient_g : (c.modClient i f).g = c.g := rfl
@[simp] theorem modClient_ans : (c.modClient i f).ans = c.ans := rfl
@[simp] theorem modClient_stats : (c.modClient i f).w.stats = c.w.stats := rfl
@[simp] theorem modClient_phase : (c.modClient i f).w.phase = c.w.phase := rfl
@[simp] theorem modClient_clients : (c.modClient i f).w.clients = c.w.clients.modify f i := rfl

@[simp] theorem modStats_g : (c.modStats h).g = c.g := rfl
@[simp] theorem modStats_ans : (c.modStats h).ans = c.ans := rfl
@[simp] theorem modStats_stats : (c.modStats h).w.stats = h c.w.stats := rfl
@[simp] theorem modStats_phase : (c.modStats h).w.phase = c.w.phase := rfl
@[simp] theorem modStats_clients : (c.modStats h).w.clients = c.w.clients := rfl
@[simp] theorem modStats_client : (c.modStats h).client i = c.client i := rfl

end Ctx

namespace Worker

variable {w : Worker} {i j : Nat} {f : Client → Client}

theorem client_modify_self (hi : i < w.clients.length) :
    ({ w with clients := w.clients.modify f i } : Worker).client i = f (w.client i) := by
  simp [client, List.getD_eq_getElem?_getD, List.getElem?_modify_eq, List.getElem?_eq_getElem hi]

theorem client_modify_ne (hij : j ≠ i) :
    ({ w with clients := w.clients.modify f i } : Worker).client j = w.client j := by
  simp [client, List.getD_eq_getElem?_getD, List.getElem?_modify_ne _ _ hij.symm]

end Worker

end Sofaload
