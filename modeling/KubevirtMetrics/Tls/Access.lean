import KubevirtMetrics.Data.Path
import KubevirtMetrics.Data.Run
import KubevirtMetrics.Data.Table

namespace KubevirtMetrics.Tls

open Data

/-! Who gets the metrics: the client authorities of `metricstls.go`, which follow a
ConfigMap, and the handlers that `main.go` puts behind them. -/

def clientCAConfigMapName : String := "extension-apiserver-authentication"

def clientCAConfigMapKey : String := "client-ca-file"

/-- What is used of `crypto/x509`. -/
structure X509 (Cert : Type) where
  /-- The certificates that `AppendCertsFromPEM` finds in a text. -/
  certificates : String → List Cert
  commonName : Cert → String
  /-- The chain of a peer leads to one of the authorities. -/
  verifies : List Cert → List Cert → Bool

variable {Cert : Type}

/-! ### The authorities -/

/-- `ClientCAPool.Set`. -/
def set (x : X509 Cert) (caPEM : String) : Except String (List Cert) :=
  if (x.certificates caPEM).isEmpty then
    .error "no valid certificates found in client CA bundle"
  else .ok (x.certificates caPEM)

def setFromData (x : X509 Cert) (data : Table String String) :
    Except String (List Cert) :=
  let ca := data.getD clientCAConfigMapKey ""
  if ca = "" then .error "metrics client CA ConfigMap missing key \"client-ca-file\""
  else set x ca

/-- What an informer hands over. -/
inductive Object
  | configMap (name : String) (data : Table String String)
  | other

/-- The authorities that an object brings. -/
def bundle (x : X509 Cert) : Object → Option (List Cert)
  | .configMap name data =>
      if name = clientCAConfigMapName then (setFromData x data).toOption else none
  | .other => none

/-- An error is dropped. -/
def updatePool (x : X509 Cert) (pool : Option (List Cert)) (obj : Object) :
    Option (List Cert) :=
  (bundle x obj).or pool

def loadClientCAFile (x : X509 Cert) (content : Except String String) :
    Except String (List Cert) :=
  match content with
  | .error error => .error ("read metrics client CA: " ++ error)
  | .ok pem => set x pem

def startClientCAWatcher (x : X509 Cert) (data : Except String (Table String String)) :
    Except String (List Cert) :=
  match data with
  | .error error => .error ("get metrics client CA: " ++ error)
  | .ok data => setFromData x data

/-! ### Handlers -/

inductive Connection (Cert : Type)
  /-- `GetConfigForClient` has chosen the authorities. -/
  | greeted (clientCAs : List Cert)
  | established (peer : List Cert)

structure Server (Cert : Type) where
  pool : Option (List Cert)
  connections : Table Nat (Connection Cert)

inductive Event (Cert : Type)
  /-- `AddFunc` or `UpdateFunc` of the informer. -/
  | informed (obj : Object)
  /-- The informer has no `DeleteFunc`. -/
  | deleted (obj : Object)
  /-- `loads` says whether the serving certificate can be read. -/
  | hello (conn : Nat) (loads : Bool)
  | certificate (conn : Nat) (chain : List Cert)
  | close (conn : Nat)

namespace Server

def start (clientCAs : List Cert) : Server Cert := ⟨some clientCAs, ∅⟩

/-- `RequireAndVerifyClientCert`; a message out of order ends the connection. -/
def step (x : X509 Cert) (s : Server Cert) : Event Cert → Server Cert
  | .informed obj => { s with pool := updatePool x s.pool obj }
  | .deleted _ => s
  | .hello conn loads =>
      { s with
        connections :=
          match s.connections.lookup conn, s.pool, loads with
          | none, some ca, true => s.connections.insert conn (.greeted ca)
          | _, _, _ => s.connections.erase conn }
  | .certificate conn chain =>
      { s with
        connections :=
          match s.connections.lookup conn with
          | some (.greeted ca) =>
              if !chain.isEmpty && x.verifies ca chain then
                s.connections.insert conn (.established chain)
              else s.connections.erase conn
          | _ => s.connections.erase conn }
  | .close conn => { s with connections := s.connections.erase conn }

def run (x : X509 Cert) (clientCAs : List Cert) (history : List (Event Cert)) :
    Server Cert :=
  stateAfter (step x) (start clientCAs) history

end Server

/-! ### What a history says -/

def Event.conn : Event Cert → Option Nat
  | .informed _ | .deleted _ => none
  | .hello conn _ | .certificate conn _ | .close conn => some conn

def Event.bundle (x : X509 Cert) : Event Cert → Option (List Cert)
  | .informed obj => Tls.bundle x obj
  | _ => none

/-- The last bundle that could be used. -/
def trusted (x : X509 Cert) (clientCAs : List Cert) (history : List (Event Cert)) :
    List Cert :=
  (history.filterMap (Event.bundle x)).getLast?.getD clientCAs

def Quiet (conn : Nat) (events : List (Event Cert)) : Prop :=
  ∀ event ∈ events, event.conn ≠ some conn

/-- After its hello a connection has shown a chain that leads to the authorities of that
time, and nothing else has come over it. -/
structure Verified (x : X509 Cert) (clientCAs : List Cert) (history : List (Event Cert))
    (conn : Nat) (chain : List Cert) (before middle after : List (Event Cert)) :
    Prop where
  split : history =
    before ++ .hello conn true :: (middle ++ .certificate conn chain :: after)
  waiting : Quiet conn middle
  open_ : Quiet conn after
  shown : chain ≠ []
  verified : x.verifies (trusted x clientCAs before) chain = true

namespace Server

variable {x : X509 Cert} {clientCAs : List Cert} {history : List (Event Cert)}
  {conn : Nat}

theorem run_append_singleton (x : X509 Cert) (clientCAs : List Cert)
    (history : List (Event Cert)) (event : Event Cert) :
    run x clientCAs (history ++ [event]) = (run x clientCAs history).step x event :=
  stateAfter_append_singleton _ _ history event

/-- How a connection came to be what it is. -/
def Explained (x : X509 Cert) (clientCAs : List Cert) (history : List (Event Cert))
    (conn : Nat) : Connection Cert → Prop
  | .greeted ca => ∃ before middle, history = before ++ .hello conn true :: middle ∧
      Quiet conn middle ∧ ca = trusted x clientCAs before
  | .established chain =>
      ∃ before middle after, Verified x clientCAs history conn chain before middle after

theorem Quiet.concat {events : List (Event Cert)} (quiet : Quiet conn events)
    {event : Event Cert} (other : event.conn ≠ some conn) :
    Quiet conn (events ++ [event]) := by
  intro event' member
  rcases List.mem_append.mp member with inside | last
  · exact quiet event' inside
  · rw [List.mem_singleton.mp last]
    exact other

theorem Explained.concat {state : Connection Cert}
    (explained : Explained x clientCAs history conn state) {event : Event Cert}
    (other : event.conn ≠ some conn) :
    Explained x clientCAs (history ++ [event]) conn state := by
  cases state with
  | greeted ca =>
      obtain ⟨before, middle, rfl, quiet, same⟩ := explained
      refine ⟨before, middle ++ [event], ?_, Quiet.concat quiet other, same⟩
      rw [List.append_assoc, List.cons_append]
  | established chain =>
      obtain ⟨before, middle, after, verified⟩ := explained
      refine ⟨before, middle, after ++ [event], ?_, verified.waiting,
        Quiet.concat verified.open_ other, verified.shown, verified.verified⟩
      rw [verified.split, List.append_assoc, List.cons_append, List.append_assoc,
        List.cons_append]

end Server

end KubevirtMetrics.Tls
