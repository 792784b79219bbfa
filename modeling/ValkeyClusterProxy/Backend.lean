import ValkeyClusterProxy.Pipeline

/-!
# Backend connections

A `BackendServer` is one pooled, serial connection to a backend endpoint.  `Request` puts
the request on the `inflight` list, writes and flushes it, reads one reply, and answers the
request at the front of the list.  On any I/O failure `tryRecover` answers every inflight
request with the error (`cleanupInflight`) and dials the endpoint again.

The network is an argument: `RequestOutcome` says how each I/O step of one call ends.  The
pool leases a connection to one caller at a time, so calls are sequential and a run is a
list of calls.  Over such runs the inflight list is empty between calls
(`request_inflight_fifo`), and a connection that was down is set up by the first successful
redial and never dropped (`newBackendServer_recovers`).
-/

namespace ValkeyClusterProxy

open Proto

/-- How the network behaves during one `Request` call: the buffered write, the flush, the
read of the reply, and the dial that `tryRecover` makes after a failure. -/
structure RequestOutcome where
  write : Option GoError
  flush : Option GoError
  read : Except GoError Object
  reconnect : Option GoError

/-- How the I/O of one `Request` call ends: the error of its first step that fails (no
connection was ever set up, the write, the flush, the read), or the reply read. -/
def RequestOutcome.reply (io : RequestOutcome) (connected : Bool) : Except GoError Object :=
  if connected then
    match io.write, io.flush with
    | some err, _ => .error err
    | none, some err => .error err
    | none, none => io.read
  else
    .error ⟨"init task runner connection error".toList⟩

/-- The I/O of a call ends with a reply only when the read returned it. -/
theorem RequestOutcome.read_of_reply {io : RequestOutcome} {connected : Bool} {obj : Object}
    (replied : io.reply connected = .ok obj) : io.read = .ok obj := by
  unfold RequestOutcome.reply at replied
  split at replied
  · split at replied <;> first | exact replied | cases replied
  · cases replied

/-- The fields of `BackendServer` that `Request` reads and writes: the inflight list, the
endpoint, and whether a connection was ever set up (`w != nil`). -/
structure BackendServer where
  inflight : List PipelineRequest
  server : Endpoint
  connected : Bool

namespace BackendServer

/-- `NewBackendServer`: an empty inflight list, connected when the first dial succeeds. -/
def newBackendServer (server : Endpoint) (dial : Option GoError) : BackendServer :=
  { inflight := [], server, connected := dial.isNone }

/-- `writeToBackend`: push the request on the inflight list, then write and flush it. -/
def writeToBackend (tr : BackendServer) (plReq : PipelineRequest) (io : RequestOutcome) :
    BackendServer × Option GoError :=
  let tr := { tr with inflight := tr.inflight ++ [plReq] }
  if !tr.connected then
    (tr, some ⟨"init task runner connection error".toList⟩)
  else
    match io.write with
    | some err => (tr, some err)
    | none => (tr, io.flush)

/-- `cleanupInflight`: answer every inflight request with the error, in list order, and
empty the list. -/
def cleanupInflight (tr : BackendServer) (err : GoError) :
    BackendServer × List PipelineResponse :=
  ({ tr with inflight := [] }, tr.inflight.map fun plReq => ⟨plReq, .error err⟩)

/-- `tryRecover`: clean up the inflight list, then dial again; the dial's error is
returned when it fails. -/
def tryRecover (tr : BackendServer) (err : GoError) (io : RequestOutcome) :
    BackendServer × List PipelineResponse × Option GoError :=
  let (tr, delivered) := tr.cleanupInflight err
  match io.reconnect with
  | some dialErr => (tr, delivered, some dialErr)
  | none => ({ tr with connected := true }, delivered, none)

/-- The error path of `Request`: recover, and return the dial's error if there is one,
else the I/O error. -/
def failWith (tr : BackendServer) (err : GoError) (io : RequestOutcome) :
    BackendServer × List PipelineResponse × Except GoError PipelineResponse :=
  let (tr, delivered, dialErr) := tr.tryRecover err io
  (tr, delivered, .error (dialErr.getD err))

@[simp] theorem inflight_writeToBackend (tr : BackendServer) (plReq : PipelineRequest)
    (io : RequestOutcome) :
    (tr.writeToBackend plReq io).1.inflight = tr.inflight ++ [plReq] := by
  obtain ⟨inflight, server, connected⟩ := tr
  obtain ⟨write, flush, read, reconnect⟩ := io
  cases connected <;> cases write <;> rfl

/-- `Request`: the responses delivered to the requests' channels on the way, and the
response or error returned.  On success the response answers the request at the front of
the inflight list. -/
def request (tr : BackendServer) (req : PipelineRequest) (io : RequestOutcome) :
    BackendServer × List PipelineResponse × Except GoError PipelineResponse :=
  match written : tr.writeToBackend req io with
  | (tr', some err) => tr'.failWith err io
  | (tr', none) =>
      match io.read with
      | .error err => tr'.failWith err io
      | .ok rsp =>
          match pushed : tr'.inflight with
          | front :: rest => ({ tr' with inflight := rest }, [], .ok ⟨front, .ok rsp⟩)
          | [] => absurd pushed fun empty => by
              have grown := inflight_writeToBackend tr req io
              rw [written] at grown
              simp [empty] at grown

/-- The calls of a run, one after the other. -/
def requests (tr : BackendServer) : List (PipelineRequest × RequestOutcome) → BackendServer
  | [] => tr
  | (req, io) :: calls => (tr.request req io).1.requests calls

/-- What one `Request` call on an idle connection must achieve: the connection is idle
again, and the call ends as its I/O does.  When the connection was set up and the write,
the flush and the read succeed, it answers exactly the request passed in with the reply read
and delivers nothing; otherwise it delivers exactly one error response, to that request,
with the error of the first step that failed, and returns the redial's error, or that one
when the redial succeeds. -/
def Contract (connected : Bool) (req : PipelineRequest) (io : RequestOutcome) :
    BackendServer × List PipelineResponse × Except GoError PipelineResponse → Prop
  | (after, delivered, .ok rsp) =>
      after.inflight = [] ∧ delivered = [] ∧ rsp.ctx = req ∧
        ∃ obj, io.reply connected = .ok obj ∧ rsp.rsp = .ok obj
  | (after, delivered, .error returned) =>
      after.inflight = [] ∧ ∃ err, delivered = [⟨req, .error err⟩] ∧
        io.reply connected = .error err ∧ returned = io.reconnect.getD err

variable {tr : BackendServer} {req : PipelineRequest} {io : RequestOutcome}

/-- The write half of `Request` fails exactly where the I/O does before the read. -/
theorem reply_eq_writeToBackend :
    io.reply tr.connected = match (tr.writeToBackend req io).2 with
      | some err => .error err
      | none => io.read := by
  obtain ⟨write, flush, read, reconnect⟩ := io
  unfold RequestOutcome.reply writeToBackend
  cases tr.connected <;> rcases write with _ | _ <;> rcases flush with _ | _ <;> rfl

/-- The error path on a connection holding only `req` meets the contract. -/
theorem failWith_contract {connected : Bool} (idle : tr.inflight = [req]) {err : GoError}
    (failed : io.reply connected = .error err) : Contract connected req io (tr.failWith err io) := by
  unfold failWith tryRecover cleanupInflight
  rcases redial : io.reconnect with _ | _ <;>
    exact ⟨rfl, err, by simp [idle], failed, by rw [redial]⟩

/-- One call from an idle connection meets the contract, whatever the network does. -/
theorem request_contract (idle : tr.inflight = []) : Contract tr.connected req io (tr.request req io) := by
  have pushed : (tr.writeToBackend req io).1.inflight = [req] := by simp [idle]
  have outcome := @reply_eq_writeToBackend tr req io
  unfold request
  split
  next tr' err written =>
      rw [written] at pushed outcome
      exact failWith_contract pushed outcome
  next tr' written =>
      rw [written] at pushed outcome
      dsimp only at pushed outcome
      split
      next err read => exact failWith_contract pushed (outcome.trans read)
      next obj read =>
          split
          next front rest hfront =>
              rw [pushed] at hfront
              cases hfront
              exact ⟨rfl, rfl, rfl, obj, outcome.trans read, rfl⟩
          next hnil => simp [pushed] at hnil

/-- Every run of calls from an idle connection ends idle. -/
theorem idle_requests (calls : List (PipelineRequest × RequestOutcome))
    (idle : tr.inflight = []) : (tr.requests calls).inflight = [] := by
  induction calls generalizing tr with
  | nil => exact idle
  | cons call calls ih =>
      obtain ⟨req, io⟩ := call
      apply ih
      have contract := @request_contract tr req io idle
      revert contract
      rcases tr.request req io with ⟨after, delivered, _ | _⟩ <;> exact fun contract => contract.1

/-- The inflight list of a backend connection is empty before and after every call of
every run from a new connection, and each call answers its own request as its I/O ends: a
success returns the request passed in with the reply read, a failure delivers one error
response to it, with the error of the step that failed. -/
theorem request_inflight_fifo (server : Endpoint) (dial : Option GoError)
    (calls : List (PipelineRequest × RequestOutcome)) (req : PipelineRequest)
    (io : RequestOutcome) :
    ((newBackendServer server dial).requests calls).inflight = [] ∧
      Contract ((newBackendServer server dial).requests calls).connected req io
        (((newBackendServer server dial).requests calls).request req io) :=
  have idle := @idle_requests (newBackendServer server dial) calls rfl
  ⟨idle, request_contract idle⟩

@[simp] theorem connected_writeToBackend (plReq : PipelineRequest) :
    (tr.writeToBackend plReq io).1.connected = tr.connected := by
  unfold writeToBackend
  dsimp only
  split
  · rfl
  · split <;> rfl

/-- The error path sets the connection up exactly when the redial succeeds, and keeps one
that was set up. -/
theorem connected_failWith (err : GoError) :
    (tr.failWith err io).1.connected = (tr.connected || io.reconnect.isNone) := by
  unfold failWith tryRecover cleanupInflight
  cases io.reconnect <;> simp

/-- The error path returns the redial's error, or the I/O error when the redial succeeds. -/
theorem result_failWith (err : GoError) :
    (tr.failWith err io).2.2 = .error (io.reconnect.getD err) := by
  unfold failWith tryRecover cleanupInflight
  cases io.reconnect <;> rfl

/-- What one call can do to the connection: succeed on a connection that was set up,
leaving it so, or fail, on a connection that was never set up with `init task runner
connection error`, and go through `tryRecover`. -/
theorem request_inv :
    ((tr.request req io).1.connected = tr.connected ∧ tr.connected = true) ∨
      ∃ (tr' : BackendServer) (err : GoError), tr'.connected = tr.connected ∧
        (tr.connected = false → err = ⟨"init task runner connection error".toList⟩) ∧
        tr.request req io = tr'.failWith err io := by
  have same := @connected_writeToBackend tr io req
  have refused : tr.connected = false →
      (tr.writeToBackend req io).2 = some ⟨"init task runner connection error".toList⟩ :=
    fun disconnected => by simp [writeToBackend, disconnected]
  unfold request
  split
  next tr' err written =>
      rw [written] at same refused
      exact .inr ⟨tr', err, same, fun disconnected => Option.some.inj (refused disconnected), rfl⟩
  next tr' written =>
      rw [written] at same refused
      have connected : tr.connected = true :=
        Bool.of_not_eq_false fun disconnected => nomatch refused disconnected
      split
      · exact .inr ⟨tr', _, same, fun disconnected => absurd connected (by simp [disconnected]), rfl⟩
      · split
        · exact .inl ⟨same, connected⟩
        next pushed =>
            have grown := @inflight_writeToBackend tr req io
            rw [written] at grown
            simp [pushed] at grown

/-- A call keeps a connection that was set up, even when its redial fails: only a
successful redial replaces the writer of the source. -/
theorem connected_request (connected : tr.connected = true) :
    (tr.request req io).1.connected = true := by
  rcases @request_inv tr req io with ⟨kept, -⟩ | ⟨tr', err, same, -, eq⟩
  · exact kept.trans connected
  · rw [eq, connected_failWith, same, connected, Bool.true_or]

/-- A call on a connection that was never set up fails without touching the network but
for the redial, and sets the connection up exactly when the redial succeeds. -/
theorem request_of_disconnected (disconnected : tr.connected = false) :
    (tr.request req io).1.connected = io.reconnect.isNone ∧
      (tr.request req io).2.2 = .error (io.reconnect.getD ⟨"init task runner connection error".toList⟩) := by
  rcases @request_inv tr req io with ⟨-, connected⟩ | ⟨tr', err, same, refused, eq⟩
  · exact nomatch connected.symm.trans disconnected
  · rw [eq, connected_failWith, result_failWith, same, disconnected, refused disconnected,
      Bool.false_or]
    exact ⟨rfl, rfl⟩

/-- After any run the connection is set up exactly when it was at the start or one of the
run's redials succeeded. -/
theorem connected_requests (calls : List (PipelineRequest × RequestOutcome)) :
    (tr.requests calls).connected =
      (tr.connected || calls.any fun call => call.2.reconnect.isNone) := by
  induction calls generalizing tr with
  | nil => simp [requests]
  | cons call calls ih =>
      obtain ⟨req, io⟩ := call
      rw [requests, ih, List.any_cons]
      cases connected : tr.connected
      · rw [(request_of_disconnected connected).1, Bool.false_or]
      · rw [connected_request connected, Bool.true_or, Bool.true_or]

/-- A backend that is down when the pool creates its connection recovers on the first
request whose redial succeeds, and not before: after any run of calls from a new
connection, the connection is set up exactly when the first dial or one of the run's
redials succeeded, and while it is not, the next request fails, without touching the
network but for the redial, with that redial's error or, when the redial succeeds, with
`init task runner connection error`. -/
theorem newBackendServer_recovers (server : Endpoint) (dial : Option GoError)
    (calls : List (PipelineRequest × RequestOutcome)) (req : PipelineRequest)
    (io : RequestOutcome) :
    ((newBackendServer server dial).requests calls).connected =
        (dial.isNone || calls.any fun call => call.2.reconnect.isNone) ∧
      (((newBackendServer server dial).requests calls).connected = false →
        (((newBackendServer server dial).requests calls).request req io).2.2 =
          .error (io.reconnect.getD ⟨"init task runner connection error".toList⟩)) :=
  ⟨connected_requests calls, fun disconnected => (request_of_disconnected disconnected).2⟩

end BackendServer

end ValkeyClusterProxy
