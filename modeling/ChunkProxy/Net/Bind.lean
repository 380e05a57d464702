import ChunkProxy.Net.SocketAddr
/-!
# Binding listening sockets

A host lends its listening addresses one at a time.  An address can be bound
when its IP belongs to the host (an IPv4 loopback address in `127.0.0.0/8`, or
the unspecified address of either family, which stands for all of them) and no
socket already listens on the same port at that IP, at the unspecified address,
or, when the new address is the unspecified one, at any IP.  Port 0 asks for a
free port, which is always found.
-/

namespace ChunkProxy.Net

set_option autoImplicit false

/-- The addresses a host's sockets listen on. -/
structure Host where
  listening : List SocketAddr := []
  deriving Repr

/-- Whether an IP is the unspecified address of its family. -/
def IpAddr.unspecified : IpAddr → Bool
  | .v4 os => os.all (· == 0)
  | .v6 gs _ => gs.all (· == 0)

/-- Whether an IP belongs to the host: an IPv4 loopback address, or an unspecified
address. -/
def IpAddr.onHost (ip : IpAddr) : Bool :=
  ip.unspecified ||
    match ip with
    | .v4 os => os.head? == some 127
    | .v6 _ _ => false

/-- The error of binding an address some socket already listens on. -/
def addrInUse : String := "Address already in use (os error 98)"

/-- The error of binding an address that does not belong to the host. -/
def addrNotAvailable : String := "Cannot assign requested address (os error 99)"

/-- Whether two addresses cannot both be listened on. -/
def clashes (a b : SocketAddr) : Bool :=
  a.port == b.port && (a.ip == b.ip || a.ip.unspecified || b.ip.unspecified)

/-- Binds an address: the host with a socket listening there, or the error. -/
def Host.bind (h : Host) (a : SocketAddr) : Except String Host :=
  if !a.ip.onHost then .error addrNotAvailable
  else if a.port != 0 && h.listening.any (clashes a) then .error addrInUse
  else .ok { listening := h.listening ++ [a] }

end ChunkProxy.Net
