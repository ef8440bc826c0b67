import MediastorageProxy.DataContainer
import MediastorageProxy.Collaborators

/-!
# The proxy

The state every handler reads (`Proxy`: the namespaces, the balancer, the
storage node, the configured die limit and logger level), the requests and
replies it exchanges, and what a handler does, as a `Proc`: the events it
emits — log lines, replies, storage operations issued — and how it ends. A
thrown exception keeps the events emitted before it, as C++ side effects are
kept, and the handler's `catch` clauses turn it into a log line and a reply
`500` (`Proc.catchStd`); undefined behaviour is not caught.

Also here, as in the sources: `lookup_result`, the decoder of a node's result
(`src/lookup_result.cpp`), and the proxy's helpers `get_session`,
`parse_lookup`, `groups_for_upload`, `get_arg` and `write`. The handlers reach
the session and the balancer through pointer members `initialize` may have
left null (`Pointers`): through one of those, `get_session()` and a call of
the balancer are undefined behaviour (`Pointers.getSession`).

* `Proc.bind_of_ok`: a step that returns is followed by the rest, its
  events first;
* `write_spec`: `write` issues one write of the key and the data, or throws
  `bad_lexical_cast` before issuing anything.
-/

namespace MediastorageProxy

/-! ## Requests and replies -/

/-- The query of a URL (`ioremap::swarm::url_query`): its items, names with
    values. -/
structure UrlQuery where
  items : List (String × String)
  deriving DecidableEq, Repr

/-- `has_item(name)`. -/
def UrlQuery.hasItem (q : UrlQuery) (name : String) : Bool := q.items.any (·.1 == name)

/-- `item_value(name)`: the value of the first item of that name. -/
def UrlQuery.itemValue (q : UrlQuery) (name : String) : Option String :=
  (q.items.find? (·.1 == name)).map (·.2)

/-- An HTTP request: its URL as text (`url().to_string()`), shorter than
    `npos` as every `std::string`, the query parsed from it, and its headers. -/
structure HttpRequest where
  url : String
  url_lt : url.length < npos
  query : UrlQuery
  headers : List (String × String)

/-- A request for `url`, with no query items and no headers. -/
def HttpRequest.ofUrl (url : String) (h : url.length < npos) : HttpRequest := ⟨url, h, ⟨[]⟩, []⟩

/-- `headers().get(name)`. -/
def HttpRequest.header (req : HttpRequest) (name : String) : Option String :=
  (req.headers.find? (·.1 == name)).map (·.2)

/-- An HTTP reply: its code, its headers in the order they were set, and its
    body. -/
structure HttpReply where
  code : Nat
  headers : List (String × String)
  body : String
  deriving DecidableEq, Repr

/-- The reply of `send_reply(code)`: no headers, no body. -/
def HttpReply.ofCode (code : Nat) : HttpReply := ⟨code, [], ""⟩

/-! ## Events and handlers -/

/-- The levels of the proxy's logger (`ioremap::swarm::log_level`). -/
inductive LogLevel
  | data
  | error
  | info
  | notice
  | debug
  deriving DecidableEq, Repr

/-- The numeric value of a log level. -/
def LogLevel.toNat : LogLevel → Nat
  | .data => 0
  | .error => 1
  | .info => 2
  | .notice => 3
  | .debug => 4

/-- What a handler does that can be seen from outside. -/
inductive Event
  | log (level : LogLevel) (message : String)
  | reply (r : HttpReply)
  | issue (session : Session) (op : StorageOp)
  deriving DecidableEq, Repr

/-- The reply of an event, if it is one. -/
def Event.reply? : Event → Option HttpReply
  | .reply r => some r
  | _ => none

/-- The storage operation of an event, if it is one. -/
def Event.issue? : Event → Option (Session × StorageOp)
  | .issue s op => some (s, op)
  | _ => none

/-- The replies among events. -/
def replies (evs : List Event) : List HttpReply := evs.filterMap Event.reply?

/-- The storage operations among events. -/
def issued (evs : List Event) : List (Session × StorageOp) := evs.filterMap Event.issue?

@[simp] theorem replies_nil : replies [] = [] := rfl

@[simp] theorem replies_append (evs evs' : List Event) :
    replies (evs ++ evs') = replies evs ++ replies evs' := List.filterMap_append _ _ _

@[simp] theorem replies_cons_log (l : LogLevel) (m : String) (evs : List Event) :
    replies (.log l m :: evs) = replies evs := rfl

@[simp] theorem replies_cons_reply (r : HttpReply) (evs : List Event) :
    replies (.reply r :: evs) = r :: replies evs := rfl

@[simp] theorem replies_cons_issue (s : Session) (op : StorageOp) (evs : List Event) :
    replies (.issue s op :: evs) = replies evs := rfl

@[simp] theorem issued_nil : issued [] = [] := rfl

@[simp] theorem issued_append (evs evs' : List Event) :
    issued (evs ++ evs') = issued evs ++ issued evs' := List.filterMap_append _ _ _

@[simp] theorem issued_cons_log (l : LogLevel) (m : String) (evs : List Event) :
    issued (.log l m :: evs) = issued evs := rfl

@[simp] theorem issued_cons_reply (r : HttpReply) (evs : List Event) :
    issued (.reply r :: evs) = issued evs := rfl

@[simp] theorem issued_cons_issue (s : Session) (op : StorageOp) (evs : List Event) :
    issued (.issue s op :: evs) = (s, op) :: issued evs := rfl

/-- A handler's computation: the events it emits, and its value or how it
    stopped. -/
structure Proc (α : Type) where
  events : List Event
  result : Except Abort α

namespace Proc

/-- Run `x`, then `f` on its value: the events of both; or only those of `x`
    when it stops early. -/
def bind {α β : Type} (x : Proc α) (f : α → Proc β) : Proc β :=
  match x.result with
  | .ok a => ⟨x.events ++ (f a).events, (f a).result⟩
  | .error e => ⟨x.events, .error e⟩

instance : Monad Proc where
  pure a := ⟨[], .ok a⟩
  bind := bind

/-- Emit one event. -/
def emit (e : Event) : Proc Unit := ⟨[e], .ok ()⟩

/-- `logger().log(level, ...)`. -/
def log (level : LogLevel) (message : String) : Proc Unit := emit (.log level message)

/-- `if (logger().level() >= level) log(level, message)`: a line written only
    when the logger's level `threshold` admits it. -/
def logAt (threshold level : LogLevel) (message : String) : Proc Unit :=
  if threshold.toNat ≥ level.toNat then log level message else pure ()

/-- `send_reply(code)`: a reply with no headers and no body. -/
def sendReply (code : Nat) : Proc Unit := emit (.reply (.ofCode code))

/-- `send_reply(reply, body)`. -/
def sendReplyWith (code : Nat) (headers : List (String × String)) (body : String) : Proc Unit :=
  emit (.reply ⟨code, headers, body⟩)

/-- Issue an asynchronous operation on a session. -/
def issue (session : Session) (op : StorageOp) : Proc Unit := emit (.issue session op)

/-- A C++ computation that may throw. -/
def lift {α : Type} (x : Except Abort α) : Proc α := ⟨[], x⟩

/-- `throw std::runtime_error(what)`. -/
def throwStd {α : Type} (what : String) : Proc α := ⟨[], .error (.exception what)⟩

/-- Undefined behaviour. -/
def undefined {α : Type} (what : String) : Proc α := ⟨[], .error (.undefined what)⟩

/-- `try { body } catch (const std::exception &ex) { log(ERROR, prefix: ex.what());
    send_reply(500); }`: the value `dflt` after a caught exception. -/
def catchStd {α : Type} (errPrefix : String) (dflt : α) (body : Proc α) : Proc α :=
  match body.result with
  | .error (.exception what) =>
    ⟨body.events ++ [.log .error (errPrefix ++ ": " ++ what), .reply (.ofCode 500)], .ok dflt⟩
  | _ => body

theorem bind_def {α β : Type} (x : Proc α) (f : α → Proc β) : x >>= f = bind x f := rfl

@[simp] theorem events_pure {α : Type} (a : α) : (pure a : Proc α).events = [] := rfl
@[simp] theorem result_pure {α : Type} (a : α) : (pure a : Proc α).result = .ok a := rfl

@[simp] theorem pure_bind {α β : Type} (a : α) (f : α → Proc β) : pure a >>= f = f a := rfl

theorem bind_of_ok {α β : Type} {x : Proc α} {a : α} (hx : x.result = .ok a) (f : α → Proc β) :
    x >>= f = ⟨x.events ++ (f a).events, (f a).result⟩ := by
  rw [bind_def, bind, hx]

@[simp] theorem emit_bind {β : Type} (e : Event) (f : Unit → Proc β) :
    emit e >>= f = ⟨e :: (f ()).events, (f ()).result⟩ := rfl

@[simp] theorem log_bind {β : Type} (l : LogLevel) (m : String) (f : Unit → Proc β) :
    log l m >>= f = ⟨.log l m :: (f ()).events, (f ()).result⟩ := rfl

@[simp] theorem sendReply_bind {β : Type} (code : Nat) (f : Unit → Proc β) :
    sendReply code >>= f = ⟨.reply (.ofCode code) :: (f ()).events, (f ()).result⟩ := rfl

@[simp] theorem sendReplyWith_bind {β : Type} (code : Nat) (hs : List (String × String))
    (body : String) (f : Unit → Proc β) :
    sendReplyWith code hs body >>= f = ⟨.reply ⟨code, hs, body⟩ :: (f ()).events, (f ()).result⟩ :=
  rfl

/-- `unless (c) send_reply(...)` and the rest of the handler, as the do
    notation joins them: the reply only when `c` fails, then the rest. -/
theorem unless_sendReplyWith_bind {β : Type} (c : Bool) (code : Nat) (hs : List (String × String))
    (body : String) (f : PUnit → Proc β) :
    (if c = true then pure PUnit.unit >>= f else sendReplyWith code hs body >>= f) =
      ⟨(if c = true then [] else [.reply ⟨code, hs, body⟩]) ++ (f ()).events, (f ()).result⟩ := by
  cases c <;> rfl

@[simp] theorem logAt_bind {β : Type} (t l : LogLevel) (m : String) (f : Unit → Proc β) :
    logAt t l m >>= f =
      ⟨(if t.toNat ≥ l.toNat then [.log l m] else []) ++ (f ()).events, (f ()).result⟩ := by
  unfold logAt
  split <;> rfl

@[simp] theorem replies_ite_log (c : Prop) [Decidable c] (l : LogLevel) (m : String) :
    replies (if c then [.log l m] else []) = [] := by
  split <;> rfl

@[simp] theorem issued_ite_log (c : Prop) [Decidable c] (l : LogLevel) (m : String) :
    issued (if c then [.log l m] else []) = [] := by
  split <;> rfl

@[simp] theorem issued_ite_reply (c : Prop) [Decidable c] (r : HttpReply) :
    issued (if c then [] else [.reply r]) = [] := by
  split <;> rfl

@[simp] theorem issue_bind {β : Type} (s : Session) (op : StorageOp) (f : Unit → Proc β) :
    issue s op >>= f = ⟨.issue s op :: (f ()).events, (f ()).result⟩ := rfl

@[simp] theorem lift_ok_bind {α β : Type} (a : α) (f : α → Proc β) : lift (.ok a) >>= f = f a := rfl

@[simp] theorem lift_error_bind {α β : Type} (e : Abort) (f : α → Proc β) :
    lift (.error e) >>= f = ⟨[], .error e⟩ := rfl

@[simp] theorem throwStd_bind {α β : Type} (w : String) (f : α → Proc β) :
    throwStd w >>= f = throwStd w := rfl

@[simp] theorem undefined_bind {α β : Type} (w : String) (f : α → Proc β) :
    undefined w >>= f = undefined w := rfl

@[simp] theorem mk_bind {α β : Type} (evs : List Event) (a : α) (f : α → Proc β) :
    (⟨evs, .ok a⟩ : Proc α) >>= f = ⟨evs ++ (f a).events, (f a).result⟩ := rfl

@[simp] theorem mk_error_bind {α β : Type} (evs : List Event) (e : Abort) (f : α → Proc β) :
    (⟨evs, .error e⟩ : Proc α) >>= f = ⟨evs, .error e⟩ := rfl

@[simp] theorem catchStd_ok {α : Type} (p : String) (d : α) (evs : List Event) (a : α) :
    catchStd p d ⟨evs, .ok a⟩ = ⟨evs, .ok a⟩ := rfl

@[simp] theorem catchStd_exception {α : Type} (p : String) (d : α) (evs : List Event) (w : String) :
    catchStd p d ⟨evs, .error (.exception w)⟩ =
      ⟨evs ++ [.log .error (p ++ ": " ++ w), .reply (.ofCode 500)], .ok d⟩ := rfl

@[simp] theorem catchStd_undefined {α : Type} (p : String) (d : α) (evs : List Event) (w : String) :
    catchStd p d ⟨evs, .error (.undefined w)⟩ = ⟨evs, .error (.undefined w)⟩ := rfl

@[simp] theorem events_sendReply (code : Nat) : (sendReply code).events = [.reply (.ofCode code)] :=
  rfl
@[simp] theorem result_sendReply (code : Nat) : (sendReply code).result = .ok () := rfl
@[simp] theorem events_sendReplyWith (code : Nat) (hs : List (String × String)) (body : String) :
    (sendReplyWith code hs body).events = [.reply ⟨code, hs, body⟩] := rfl
@[simp] theorem result_sendReplyWith (code : Nat) (hs : List (String × String)) (body : String) :
    (sendReplyWith code hs body).result = .ok () := rfl
@[simp] theorem events_undefined {α : Type} (w : String) : (undefined w : Proc α).events = [] := rfl
@[simp] theorem result_undefined {α : Type} (w : String) :
    (undefined w : Proc α).result = .error (.undefined w) := rfl

@[simp] theorem events_throwStd {α : Type} (w : String) : (throwStd w : Proc α).events = [] := rfl
@[simp] theorem result_throwStd {α : Type} (w : String) :
    (throwStd w : Proc α).result = .error (.exception w) := rfl

/-- A dispatch that answered at once: the single reply `r`, no storage
    operation, and no completion registered. -/
def Answered {σ : Type} (x : Proc (Option σ)) (r : HttpReply) : Prop :=
  replies x.events = [r] ∧ issued x.events = [] ∧ x.result = .ok none

/-- A dispatch that issued the single operation `op` on `s`, replied nothing,
    and registered its completion with the context `ctx`. -/
def Dispatched {σ : Type} (x : Proc (Option σ)) (s : Session) (op : StorageOp) (ctx : σ) : Prop :=
  replies x.events = [] ∧ issued x.events = [(s, op)] ∧ x.result = .ok (some ctx)

/-- A completion that sent the single reply `r` and issued nothing. -/
def Replied (x : Proc Unit) (r : HttpReply) : Prop :=
  replies x.events = [r] ∧ issued x.events = [] ∧ x.result = .ok ()

/-- A completion that either sent a single reply and issued nothing, or met
    undefined behaviour before it sent or issued anything. -/
def Completes (x : Proc Unit) : Prop :=
  (∃ r, x.Replied r) ∨
    ∃ w, x.result = .error (.undefined w) ∧ replies x.events = [] ∧ issued x.events = []

end Proc

/-! ## `lookup_result` -/

/-- `elliptics::lookup_result`: a node's result, read with the proxy's
    signing port. -/
structure LookupResult where
  entry : ResultEntry
  signPort : String

namespace LookupResult

/-- `host()`: the node's name by reverse resolution, followed by
    `:<signing port>` when one is set; it throws when resolution fails. -/
def host (libc : Libc) (r : LookupResult) : Except Abort String :=
  match libc.getnameinfo r.entry.address with
  | some h => .ok (if r.signPort.isEmpty then h else h ++ ":" ++ r.signPort)
  | none => .error (.exception "can not make dns lookup")

theorem host_eq_error {libc : Libc} {r : LookupResult} {e : Abort} (h : r.host libc = .error e) :
    e = .exception "can not make dns lookup" := by
  unfold host at h
  split at h <;> simp_all

/-- `group()`. -/
def group (r : LookupResult) : CInt := r.entry.command.group

/-- `status()`, `0` on success. -/
def status (r : LookupResult) : Int := r.entry.command.status

/-- `addr()`: the node's address as text, without resolution. -/
def addr (node : Node) (r : LookupResult) : String := node.convertAddr r.entry.address

/-- `path()`: `<file path>:<offset>:<size>`. -/
def path (r : LookupResult) : String :=
  let info := r.entry.fileInfo
  info.path ++ ":" ++ toString info.offset.toNat ++ ":" ++ toString info.size.toNat

/-- `full_path()`: the path stored after the file info. -/
def fullPath (r : LookupResult) : String := r.entry.fileInfo.path

end LookupResult

/-! ## The proxy -/

/-- The proxy's state, read by every handler: the namespaces by name (each
    named by its key, as `generate_namespaces` builds them), the balancer, the
    storage node and the C library, and the configuration. `checkBasicAuth`
    and `getGroups` are methods of the proxy missing from the sources, taken as
    they are. -/
structure Proxy where
  namespaces : String → Option Namespace
  namespaces_name : ∀ name ns, namespaces name = some ns → ns.name = name
  mastermind : Mastermind
  node : Node
  libc : Libc
  dieLimit : Int
  logLevel : LogLevel
  signPort : String
  checkBasicAuth : String → String → Option String → Bool
  getGroups : CInt → String → List CInt

namespace Proxy

/-- `get_session()`: a clone of the proxy's session, which has the storage
    client's default checker and filter, no user flags and the error handler
    `none`; nothing sets groups on it, so a clone has none. -/
def getSession : Session := ⟨[], .atLeastOne, .positive, 0, .none⟩

/-- `parse_lookup(entry)`. -/
def parseLookup (px : Proxy) (e : ResultEntry) : LookupResult := ⟨e, px.signPort⟩

/-- `groups_for_upload(ns)`: the balancer's groups for the namespace. -/
def groupsForUpload (px : Proxy) (ns : Namespace) : List CInt :=
  px.mastermind.getMetabalancerGroups ns.groupsCount ns.name

end Proxy

/-- Which of the members the handlers reach through a pointer are set:
    `m_elliptics_session`, which `get_session()` clones, and `m_mastermind`.
    `initialize` sets them in turn and may stop before either; `->` of one it
    never set dereferences a null pointer. -/
structure Pointers where
  session : Bool
  mastermind : Bool
  deriving DecidableEq, Repr

namespace Pointers

/-- Both set, as `initialize` leaves them when it gets past the balancer. -/
def set : Pointers := ⟨true, true⟩

/-- `get_session()`, that is `m_elliptics_session->clone()`. -/
def getSession (ptrs : Pointers) : Proc Session :=
  if ptrs.session then pure Proxy.getSession
  else Proc.undefined "get_session(): m_elliptics_session is null"

/-- `m_mastermind->`, before a call on the balancer. -/
def reachMastermind (ptrs : Pointers) : Proc Unit :=
  if ptrs.mastermind then pure () else Proc.undefined "m_mastermind is null"

@[simp] theorem getSession_set : set.getSession = pure Proxy.getSession := rfl

@[simp] theorem reachMastermind_set : set.reachMastermind = pure () := rfl

end Pointers

/-- `get_arg<T>(query, name, default)`: the item cast to `T`, or the default
    when there is no such item. -/
def getArg {α : Type} (cast : String → Except Abort α) (q : UrlQuery) (name : String)
    (dflt : α) : Except Abort α :=
  match q.itemValue name with
  | some v => cast v
  | none => .ok dflt

/-! ## Fixed proxies

To evaluate the handlers on given inputs. -/

/-- A balancer that answers `groups` to every question, and `{}` for its
    tables. -/
def Mastermind.constant (groups : List CInt) : Mastermind :=
  ⟨fun _ _ => groups, fun _ => groups, fun _ => groups, "{}", "{}", "{}", "{}"⟩

/-- The namespaces `nss`, looked up by name. -/
def namespacesOf (nss : List Namespace) (name : String) : Option Namespace :=
  nss.find? (·.name == name)

theorem namespacesOf_name (nss : List Namespace) (name : String) (ns : Namespace)
    (h : namespacesOf nss name = some ns) : ns.name = name := by
  simpa using List.find?_some h

/-- The namespace `default`, of one group and no key. -/
def defaultNamespace : Namespace := ⟨"default", 1, .atLeastOne, ""⟩

/-- A proxy with the namespaces `nss` and the balancer `m`, on a node with
    `states` live states, with die limit `1`, logging at `info`, and the
    authentication check answering `auth`. -/
def Proxy.sample (m : Mastermind) (nss : List Namespace) (states : Int) (auth : Bool) : Proxy where
  namespaces := namespacesOf nss
  namespaces_name := namespacesOf_name nss
  mastermind := m
  node := ⟨states, fun _ => [], fun _ => "127.0.0.1:1025"⟩
  libc := ⟨fun _ => some "localhost", fun _ => "Thu, 01 Jan 1970 00:00:00 GMT", fun _ => "0.00"⟩
  dieLimit := 1
  logLevel := .info
  signPort := ""
  checkBasicAuth := fun _ _ _ => auth
  getGroups := fun g f => m.getSymmetricGroups g ++ m.getCacheGroups f

/-- A node's result from group `group`, with status `0`, holding `file`
    stored with `userFlags`; the node has 16384 MiB of memory and a 4096 MiB
    file system. -/
def ResultEntry.sample (group : UInt32) (file : String) (userFlags : UInt64) : ResultEntry :=
  ⟨⟨[127, 0, 0, 1], 2⟩, ⟨[], group, 0⟩, ⟨0, UInt64.ofNat file.length, "/srv/data"⟩, userFlags, file,
    ⟨(12, 34, 56), 4096, 4096, 1048576, 524288, 1000, 2748, 16384, 8192, 4096⟩⟩

theorem getArg_cases (q : UrlQuery) (name : String) (dflt : UInt64) :
    (∃ v, getArg lexicalCastUInt64 q name dflt = .ok v) ∨
      getArg lexicalCastUInt64 q name dflt = .error badLexicalCast := by
  unfold getArg
  split
  · exact lexicalCastUInt64_cases _
  · exact .inl ⟨_, rfl⟩

open Proc in
/-- The anonymous `write(session, key, data, query)`: it sets the error
    handler `remove_on_fail`, then issues a prepare, a commit, a plain write
    or a whole write, by the query, at the query's `offset`. It returns the
    session as it leaves it. -/
def write (session : Session) (key : Key) (data : String) (q : UrlQuery) : Proc Session := do
  let session := { session with errorHandler := .removeOnFail }
  let offset ← lift (getArg lexicalCastUInt64 q "offset" 0)
  match q.itemValue "prepare" with
  | some arg =>
    let size ← lift (lexicalCastUInt64 arg)
    issue session (.writePrepare key data offset size)
  | none =>
    match q.itemValue "commit" with
    | some arg =>
      let size ← lift (lexicalCastUInt64 arg)
      issue session (.writeCommit key data offset size)
    | none =>
      if q.hasItem "plain_write" || q.hasItem "plain-write" then
        issue session (.writePlain key data offset)
      else
        issue session (.writeData key data offset 0)
  return session

theorem write_spec (key : Key) (data : String) (q : UrlQuery) :
    (∃ op, op.written = some (key, data) ∧ ∀ session : Session,
      write session key data q = ⟨[.issue { session with errorHandler := .removeOnFail } op],
        .ok { session with errorHandler := .removeOnFail }⟩) ∨
    ∀ session : Session, write session key data q = ⟨[], .error badLexicalCast⟩ := by
  rcases getArg_cases q "offset" 0 with ⟨o, ho⟩ | ho
  · cases hp : q.itemValue "prepare" with
    | some arg =>
      rcases lexicalCastUInt64_cases arg with ⟨z, hz⟩ | hz
      · exact .inl ⟨.writePrepare key data o z, rfl, by simp [write, ho, hp, hz]⟩
      · exact .inr (by simp [write, ho, hp, hz])
    | none =>
      cases hc : q.itemValue "commit" with
      | some arg =>
        rcases lexicalCastUInt64_cases arg with ⟨z, hz⟩ | hz
        · exact .inl ⟨.writeCommit key data o z, rfl, by simp [write, ho, hp, hc, hz]⟩
        · exact .inr (by simp [write, ho, hp, hc, hz])
      | none =>
        by_cases hw : (q.hasItem "plain_write" || q.hasItem "plain-write") = true
        · exact .inl ⟨.writePlain key data o, rfl, by simp [write, ho, hp, hc, hw]⟩
        · exact .inl ⟨.writeData key data o 0, rfl, by simp [write, ho, hp, hc, hw]⟩
  · exact .inr (by simp [write, ho])

end MediastorageProxy
