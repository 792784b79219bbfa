import ValkeyClusterProxy.Proto.Resp

/-!
# The proxy's own connections

`ValkeyConn` opens the connections the proxy uses for itself, to read the cluster topology.
`Conn` dials a node and runs `postConnect`, which authenticates when a password is
configured and then sends `READONLY`.  Each of those exchanges goes through `Request`,
which, unlike a raw `resp.ReadData`, turns an error reply into a Go error.

The network is an argument: `NodeBehaviour` says how each step of one connection to a node
ends.
-/

namespace ValkeyClusterProxy

open Proto

/-- How one exchange on a connection ends: the write of the command, then the reply read. -/
structure Exchange where
  write : Option GoError
  read : Except GoError Data

/-- The reply of an exchange on a raw connection (`conn.Write`, then `resp.ReadData`): an
error reply comes back as data. -/
def Exchange.reply (exchange : Exchange) : Except GoError Data :=
  match exchange.write with
  | some err => .error err
  | none => exchange.read

/-- The node accepts an exchange: the command is written, and read back with a reply that is
not an error reply. -/
def Exchange.Accepted (exchange : Exchange) : Prop :=
  exchange.write = none ∧ ∃ data, exchange.read = .ok data ∧ ∀ text, data ≠ .error text

/-- How a node behaves on one connection the proxy dials to it: the dial, the two exchanges
of `postConnect`, and the two commands `doReload` sends. -/
structure NodeBehaviour where
  dial : Option GoError
  auth : Exchange
  readOnly : Exchange
  clusterSlots : Exchange
  clusterNodes : Exchange

/-- The field of `ValkeyConn` that the modelled code reads. -/
structure ValkeyConn where
  password : Bytes

namespace ValkeyConn

/-- `Auth`: whether a password is the configured one. -/
def auth (cp : ValkeyConn) (password : Bytes) : Bool := cp.password == password

/-- `Request`: one exchange, where an error reply becomes a Go error. -/
def request (command : Command) (exchange : Exchange) : Except GoError Data :=
  match exchange.reply with
  | .ok (.error _) =>
      .error ⟨"post connect error: ".toList ++ command.name ++ " resp is not OK".toList⟩
  | reply => reply

/-- `postConnect`: `AUTH` when a password is configured, then `READONLY`. -/
def postConnect (cp : ValkeyConn) (node : NodeBehaviour) : Option GoError :=
  let authed : Except GoError Unit :=
    if cp.password ≠ [] then (request ⟨"AUTH".toList, [cp.password]⟩ node.auth).map fun _ => ()
    else .ok ()
  match authed with
  | .error err => some err
  | .ok () =>
      match request ⟨"READONLY".toList, []⟩ node.readOnly with
      | .error err => some err
      | .ok _ => none

/-- `Conn`: dial the node and set the connection up; the error of the first failing step. -/
def conn (cp : ValkeyConn) (node : NodeBehaviour) : Option GoError :=
  match node.dial with
  | some err => some err
  | none => cp.postConnect node

/-- `Request` never hands back an error reply as data. -/
theorem request_ne_error {command : Command} {exchange : Exchange} {data : Data}
    (replied : request command exchange = .ok data) (text : Bytes) : data ≠ .error text := by
  unfold request at replied
  split at replied
  next => cases replied
  next notError => rintro rfl; exact notError text replied

/-- `Request` returns a reply exactly when the node accepts the exchange. -/
theorem request_ok_iff {command : Command} {exchange : Exchange} :
    (∃ data, request command exchange = .ok data) ↔ exchange.Accepted := by
  obtain ⟨write, read⟩ := exchange
  rcases write with _ | err
  · rcases read with err | data
    · simp [request, Exchange.reply, Exchange.Accepted]
    · cases data <;> simp [request, Exchange.reply, Exchange.Accepted]
  · simp [request, Exchange.reply, Exchange.Accepted]

theorem postConnect_eq_none_iff {cp : ValkeyConn} {node : NodeBehaviour} :
    cp.postConnect node = none ↔
      (cp.password ≠ [] → node.auth.Accepted) ∧ node.readOnly.Accepted := by
  rw [← @request_ok_iff ⟨"AUTH".toList, [cp.password]⟩ node.auth,
    ← @request_ok_iff ⟨"READONLY".toList, []⟩ node.readOnly]
  unfold postConnect
  generalize request ⟨"AUTH".toList, [cp.password]⟩ node.auth = authReply
  generalize request ⟨"READONLY".toList, []⟩ node.readOnly = readOnlyReply
  rcases authReply with _ | _ <;> rcases readOnlyReply with _ | _ <;>
    by_cases configured : cp.password = [] <;> simp [configured, Except.map]

/-- The post-connect handshake: `Conn` hands back a connection exactly when the dial
succeeds, the node accepts `AUTH` with the password, which is sent only when one is
configured, and then accepts `READONLY`.  An error reply fails the handshake as a failed
write or read does. -/
theorem conn_eq_none_iff (cp : ValkeyConn) (node : NodeBehaviour) :
    cp.conn node = none ↔
      node.dial = none ∧ (cp.password ≠ [] → node.auth.Accepted) ∧ node.readOnly.Accepted := by
  unfold conn
  rcases dialed : node.dial with _ | err
  · simp [postConnect_eq_none_iff]
  · simp

/-- A node that refuses the configured password answers `AUTH` with an error reply, which
`Request` turns into the handshake's error. -/
example :
    ValkeyConn.conn ⟨"secret".toList⟩
        ⟨none, ⟨none, .ok (.error "ERR invalid password".toList)⟩,
          ⟨none, .ok (.simpleString "OK".toList)⟩, ⟨none, .ok .nullArray⟩, ⟨none, .ok .nullArray⟩⟩ =
      some ⟨"post connect error: AUTH resp is not OK".toList⟩ := rfl

end ValkeyConn

end ValkeyClusterProxy
