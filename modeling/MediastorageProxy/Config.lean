import MediastorageProxy.Run

/-!
# Configuration

`proxy::initialize` reads the proxy's configuration, a JSON document that
rapidjson has parsed, in this order:

* the three loggers, `proxy`, `elliptics` and `mastermind`, each from an
  optional `<name>-log` object (`generate_logger`);
* the storage session (`generate_session`): the node's timeouts and flags
  (`generate_node`), then the `remotes`, each added to the node or, when it
  cannot be reached, logged and skipped;
* the balancer's nodes (`generate_mastermind`), each `host` with its `port`
  (by default `10053`), a node without a host logged and skipped;
* the namespaces (`generate_namespaces`), one per member of `namespaces`, each
  with its `groups-count` and its `success-copies-num` (`any`, `quorum` or
  `all`), put into an `std::map` by `insert`, which keeps the first member of a
  name;
* `die-limit`, `eblob-style-path`, `direction-bit-num` and `base-port`, with
  their defaults.

The generators throw `std::runtime_error` when a section they need is missing
or malformed; the `try` around them catches it, logs it, and `initialize` goes
on to register the handlers. Every member after the statement that threw keeps
the value it had: the proxy runs, with no namespace when the namespaces were
not reached. A rapidjson accessor applied to a value of another type asserts:
that is undefined behaviour, which no `catch` sees. Strings pass through
`const char *`, so a name ends at its first NUL.

* `generateSession_strings`: a remote the node cannot reach is logged and
  skipped, never thrown;
* `namespaceOf_ok`: what a member of `namespaces` must hold, and the namespace
  made of it;
* `generateNamespaces_find`: the map finds under a name the first member of
  that name;
* `generateNamespaces_first_error`: a member that cannot be read makes the
  whole map fail with its error.
-/

namespace MediastorageProxy

/-! ## JSON values, as rapidjson holds them -/

/-- A JSON value parsed by rapidjson. An integer literal keeps its value
    (rapidjson's `IsInt()` holds when it fits an `int`); another number is kept
    as its text, since no accessor the proxy calls reads it. An object keeps
    its members in document order, a name given twice included. -/
inductive Json
  | null
  | bool (b : Bool)
  | int (n : Int)
  | real (text : String)
  | str (s : String)
  | arr (items : List Json)
  | obj (members : List (String × Json))

/-- The `std::string` made from a `const char *`: the text up to its first NUL. -/
def cString (s : String) : String := ⟨s.data.takeWhile (· ≠ Char.ofNat 0)⟩

namespace Json

/-- A rapidjson accessor applied to a value it does not fit: `RAPIDJSON_ASSERT`
    fails. -/
def assertFails {α : Type} (what : String) : Except Abort α :=
  .error (.undefined ("rapidjson assertion: " ++ what))

/-- `HasMember(name)`. -/
def hasMember : Json → String → Except Abort Bool
  | obj ms, name => .ok (ms.any (·.1 == name))
  | _, _ => assertFails "HasMember of a value that is not an object"

/-- `operator[](name)`: the value of the first member of the name. -/
def member : Json → String → Except Abort Json
  | obj ms, name =>
    match ms.find? (·.1 == name) with
    | some m => .ok m.2
    | none => assertFails "operator[] of a missing member"
  | _, _ => assertFails "operator[] of a value that is not an object"

/-- `MemberBegin()` to `MemberEnd()`: an object's members, in order. -/
def members : Json → Except Abort (List (String × Json))
  | obj ms => .ok ms
  | _ => assertFails "MemberBegin of a value that is not an object"

/-- `Begin()` to `End()`: an array's items, in order. -/
def items : Json → Except Abort (List Json)
  | arr vs => .ok vs
  | _ => assertFails "Begin of a value that is not an array"

/-- `GetInt()`. -/
def getInt : Json → Except Abort CInt
  | int n => if h : -2 ^ 31 ≤ n ∧ n < 2 ^ 31 then .ok ⟨n, h.1, h.2⟩
    else assertFails "GetInt of an integer beyond int"
  | _ => assertFails "GetInt of a value that is not an integer"

/-- `GetBool()`. -/
def getBool : Json → Except Abort Bool
  | bool b => .ok b
  | _ => assertFails "GetBool of a value that is not a boolean"

/-- `GetString()`, as the `std::string` the code makes of it. -/
def getString : Json → Except Abort String
  | str s => .ok (cString s)
  | _ => assertFails "GetString of a value that is not a string"

@[simp] theorem hasMember_obj (ms : List (String × Json)) (name : String) :
    (obj ms).hasMember name = .ok (ms.any (·.1 == name)) := rfl

@[simp] theorem members_obj (ms : List (String × Json)) : (obj ms).members = .ok ms := rfl

@[simp] theorem items_arr (vs : List Json) : (arr vs).items = .ok vs := rfl

@[simp] theorem getString_str (s : String) : (str s).getString = .ok (cString s) := rfl

@[simp] theorem getBool_bool (b : Bool) : (bool b).getBool = .ok b := rfl

/-- A member `operator[]` finds is one `HasMember` sees. -/
theorem hasMember_of_member {v j : Json} {name : String} (h : v.member name = .ok j) :
    v.hasMember name = .ok true := by
  cases v with
  | obj ms =>
    simp only [member] at h
    split at h
    · next m hm =>
      rw [hasMember_obj, List.any_eq_true.mpr ⟨m, List.mem_of_find?_eq_some hm, List.find?_some hm⟩]
    · simp [assertFails] at h
  | _ => simp [member, assertFails] at h

theorem getInt_ok {v : Json} {c : CInt} (h : v.getInt = .ok c) : v = .int c.val := by
  cases v <;> simp only [getInt, assertFails, reduceCtorEq] at h
  split at h
  · cases h; rfl
  · simp at h

theorem getString_ok {v : Json} {s : String} (h : v.getString = .ok s) :
    ∃ t, v = .str t ∧ cString t = s := by
  cases v <;> simp only [getString, assertFails, reduceCtorEq] at h
  exact ⟨_, rfl, by injection h⟩

end Json

/-! ## Reading members -/

/-- `get_int(config, name, def_val)`. -/
def getInt (config : Json) (name : String) (defVal : Int) : Except Abort Int := do
  if (← config.hasMember name) then return (← (← config.member name).getInt).val
  else return defVal

/-- `get_bool(config, name, def_val)`. -/
def getBool (config : Json) (name : String) (defVal : Bool) : Except Abort Bool := do
  if (← config.hasMember name) then (← config.member name).getBool
  else return defVal

/-! ## Loggers, node and session -/

/-- What a `swarm::logger` is made from: the file it writes to and its level
    (`log_mask`). The objects the generators make (logger, node, session,
    balancer) are taken to be made without throwing; their code is not in the
    sources. -/
structure LoggerConfig where
  path : String
  mask : Int
  deriving DecidableEq, Repr

/-- `generate_logger(config, name)`: `/dev/stderr` at `DNET_LOG_INFO |
    DNET_LOG_ERROR` unless the `<name>-log` object says otherwise. -/
def generateLogger (config : Json) (name : String) : Except Abort LoggerConfig := do
  let mut logPath := "/dev/stderr"
  let mut logMask : Int := (LogLevel.info.toNat ||| LogLevel.error.toNat : Nat)
  if (← config.hasMember (name ++ "-log")) then
    let log ← config.member (name ++ "-log")
    if (← log.hasMember "path") then
      logPath ← (← log.member "path").getString
    if (← log.hasMember "level") then
      logMask := (← (← log.member "level").getInt).val
  return ⟨logPath, logMask⟩

/-- The fields of `struct dnet_config` that `generate_node` sets; the rest stay
    zero. -/
structure DnetConfig where
  waitTimeout : Int
  checkTimeout : Int
  flags : Int
  deriving DecidableEq, Repr

/-- `generate_node(config, logger)`: the configuration the storage node is made
    with. -/
def generateNode (config : Json) : Except Abort DnetConfig := do
  let mut conf : DnetConfig := ⟨0, 0, 0⟩
  if (← config.hasMember "timeouts") then
    let timeouts ← config.member "timeouts"
    if (← timeouts.hasMember "wait") then
      conf := { conf with waitTimeout := (← (← timeouts.member "wait").getInt).val }
    if (← timeouts.hasMember "check") then
      conf := { conf with checkTimeout := (← (← timeouts.member "check").getInt).val }
  if (← config.hasMember "cfg-flags") then
    conf := { conf with flags := (← (← config.member "cfg-flags").getInt).val }
  return conf

/-- The storage session `generate_session` makes: its node's configuration and
    the remotes the node was added, in order. (Its error handler is `none`.) -/
structure SessionSetup where
  node : DnetConfig
  remotes : List String
  deriving DecidableEq, Repr

/-- The loop of `generate_session` over `remotes`: each host is added to the
    node by `addRemote` (`node.add_remote`), or, when that throws, the failure
    is logged and the host skipped. The hosts added, and the lines logged. -/
def addRemotes (addRemote : String → Except String Unit) :
    List Json → Except Abort (List String × List String)
  | [] => .ok ([], [])
  | it :: its => do
    let host ← it.getString
    let (added, lines) ← addRemotes addRemote its
    match addRemote host with
    | .ok () => return (host :: added, lines)
    | .error what =>
      return (added, ("Can\x27t connect to remote node " ++ host ++ " : " ++ what) :: lines)

/-- `generate_session(config, logger)`, with the lines it writes to `logger`. -/
def generateSession (config : Json) (addRemote : String → Except String Unit) :
    Except Abort (SessionSetup × List String) := do
  let node ← generateNode config
  if !(← config.hasMember "remotes") then
    throw (.exception "You should set a list of remote addresses")
  let (remotes, lines) ← addRemotes addRemote (← (← config.member "remotes").items)
  return (⟨node, remotes⟩, lines)

/-- The loop over `remotes`, when every remote is a string: the hosts
    `add_remote` accepts, in order, and a line for each one it refuses. -/
theorem addRemotes_strings (addRemote : String → Except String Unit) (hosts : List String) :
    addRemotes addRemote (hosts.map .str) =
      .ok ((hosts.map cString).filter fun h => (addRemote h).isOk,
        (hosts.map cString).filterMap fun h => match addRemote h with
          | .ok () => none
          | .error what => some ("Can\x27t connect to remote node " ++ h ++ " : " ++ what)) := by
  induction hosts with
  | nil => rfl
  | cons h hosts ih =>
    simp only [List.map_cons, addRemotes, Json.getString_str, bind, Except.bind, ih, pure,
      Except.pure]
    cases hc : addRemote (cString h) <;>
      simp [List.filter_cons, List.filterMap_cons, hc, Except.isOk, Except.toBool]

/-- `generate_session` never throws for a host the node cannot reach: for a
    list of string remotes, the session has the hosts `add_remote` accepts, in
    order, and a line is logged for each one it refuses, naming the host and
    what `add_remote` threw. -/
theorem generateSession_strings {config : Json} {node : DnetConfig} {hosts : List String}
    (addRemote : String → Except String Unit) (hn : generateNode config = .ok node)
    (hr : config.member "remotes" = .ok (.arr (hosts.map .str))) :
    generateSession config addRemote =
      .ok (⟨node, (hosts.map cString).filter fun h => (addRemote h).isOk⟩,
        (hosts.map cString).filterMap fun h => match addRemote h with
          | .ok () => none
          | .error what => some ("Can\x27t connect to remote node " ++ h ++ " : " ++ what)) := by
  simp [generateSession, hn, Json.hasMember_of_member hr, hr, addRemotes_strings, bind, Except.bind,
    pure, Except.pure]

/-- Two remotes, each a host, port and address family. -/
def twoRemotes : Json := .obj [("remotes", .arr [.str "a:1025:2", .str "b:1025:2"])]

/-- The second remote refused: the session has the first, and the line names
    the second. -/
theorem generateSession_strings_twoRemotes :
    generateSession twoRemotes (fun h => if h = "b:1025:2" then .error "timeout" else .ok ()) =
      .ok (⟨⟨0, 0, 0⟩, ["a:1025:2"]⟩, ["Can\x27t connect to remote node b:1025:2 : timeout"]) :=
  @generateSession_strings twoRemotes _ ["a:1025:2", "b:1025:2"] _ rfl rfl

/-! ## The balancer -/

/-- What `mastermind_t` is made from: the remotes, each a host and a port, and
    the period of its group information updates. -/
structure MastermindSetup where
  remotes : List (String × Int)
  groupInfoUpdatePeriod : Int
  deriving DecidableEq, Repr

/-- The loop of `generate_mastermind` over `nodes`: each node's `host` and
    `port` (by default `10053`); a node without a host is logged and skipped. -/
def mastermindRemotes : List Json → Except Abort (List (String × Int) × List String)
  | [] => .ok ([], [])
  | node :: nodes => do
    if !(← node.hasMember "host") then
      let (remotes, lines) ← mastermindRemotes nodes
      return (remotes,
        "You should set a host address in each node of mastermind settings" :: lines)
    let host ← (← node.member "host").getString
    let port ← getInt node "port" 10053
    let (remotes, lines) ← mastermindRemotes nodes
    return ((host, port) :: remotes, lines)

/-- `generate_mastermind(config, logger)`, with the lines it writes to
    `logger`. -/
def generateMastermind (config : Json) : Except Abort (MastermindSetup × List String) := do
  if !(← config.hasMember "mastermind") then
    throw (.exception "You should set settings for mastermind")
  let mastermind ← config.member "mastermind"
  if !(← mastermind.hasMember "nodes") then
    throw (.exception "You should set at least one node to connect to mastermind")
  let (remotes, lines) ← mastermindRemotes (← (← mastermind.member "nodes").items)
  let period ← getInt mastermind "group-info-update-period" 60
  return (⟨remotes, period⟩, lines)

/-! ## Namespaces -/

/-- `std::map<std::string, namespace_t>` as `generate_namespaces` fills it: each
    namespace under its own name, no name twice. The entries are kept in the
    order they were inserted; the map's own order, by name, is not observed by
    `find`. -/
structure NamespaceMap where
  entries : List Namespace
  names_nodup : (entries.map (·.name)).Nodup

namespace NamespaceMap

/-- The empty map. -/
def empty : NamespaceMap := ⟨[], List.nodup_nil⟩

/-- `find(name)`. -/
def find (m : NamespaceMap) (name : String) : Option Namespace := namespacesOf m.entries name

/-- `insert(value_type(ns.name, ns))`: no change when the name is present. -/
def insert (m : NamespaceMap) (ns : Namespace) : NamespaceMap :=
  if h : m.entries.any (·.name == ns.name) then m
  else ⟨m.entries ++ [ns], by
    rw [List.map_append, List.nodup_append]
    refine ⟨m.names_nodup, List.nodup_singleton _, fun a ha hb => h ?_⟩
    obtain ⟨e, he, rfl⟩ := List.mem_map.mp ha
    have : e.name = ns.name := by simpa using hb
    exact List.any_eq_true.mpr ⟨e, he, by simp [this]⟩⟩

theorem find_name {m : NamespaceMap} {name : String} {ns : Namespace} (h : m.find name = some ns) :
    ns.name = name :=
  namespacesOf_name _ _ _ h

@[simp] theorem find_empty (name : String) : empty.find name = none := rfl

/-- Inserting keeps what the map finds, and adds the namespace under its name
    when that name was not there. -/
theorem find_insert (m : NamespaceMap) (ns : Namespace) (name : String) :
    (m.insert ns).find name = (m.find name).or (if ns.name = name then some ns else none) := by
  unfold insert
  split
  · next h =>
    obtain ⟨e, he, hname⟩ := List.any_eq_true.mp h
    cases hf : m.find name with
    | some _ => rfl
    | none =>
      rw [Option.none_or, if_neg]
      rintro rfl
      exact absurd (List.find?_eq_none.mp hf e he) (by simpa using hname)
  · simp only [find, namespacesOf, List.find?_append, List.find?_singleton, beq_iff_eq]

end NamespaceMap

/-- The body of the loop of `generate_namespaces`, for the member `name`: the
    namespace of its `groups-count` and its `success-copies-num`, which must be
    present (checked in this order) and the latter one of `all`, `quorum` and
    `any`. Nothing sets its authentication key. -/
def namespaceOf (name : String) (value : Json) : Except Abort Namespace := do
  if !(← value.hasMember "groups-count") then
    throw (.exception ("Missing \x27groups-count\x27 in \x27" ++ name ++ "\x27 namespace"))
  if !(← value.hasMember "success-copies-num") then
    throw (.exception ("Missing \x27success-copies-num\x27 in \x27" ++ name ++ "\x27 namespace"))
  let groupsCount ← (← value.member "groups-count").getInt
  let scn ← (← value.member "success-copies-num").getString
  let checker ←
    if scn = "all" then pure Checker.all
    else if scn = "quorum" then pure Checker.quorum
    else if scn = "any" then pure Checker.atLeastOne
    else throw (.exception ("Unknown type of success-copies-num \x27" ++ scn ++ "\x27 in \x27" ++
      name ++ "\x27 namespace. Allowed types: any, quorum, all."))
  return ⟨name, groupsCount.val, checker, ""⟩

/-- The loop of `generate_namespaces`: each member's namespace inserted into
    `res`, in order, under the member's name. -/
def insertNamespaces : NamespaceMap → List (String × Json) → Except Abort NamespaceMap
  | res, [] => .ok res
  | res, (name, value) :: ms => do
    insertNamespaces (res.insert (← namespaceOf (cString name) value)) ms

/-- `generate_namespaces(config)`. -/
def generateNamespaces (config : Json) : Except Abort NamespaceMap := do
  if !(← config.hasMember "namespaces") then
    throw (.exception "You should set a dict of namespaces")
  insertNamespaces .empty (← (← config.member "namespaces").members)

/-- What `generate_namespaces` makes of a member: its `groups-count`, an
    integer that fits an `int`, and its `success-copies-num`, a string which,
    cut at its first NUL, is `all`, `quorum` or `any`. -/
theorem namespaceOf_ok {name : String} {value : Json} {ns : Namespace} :
    namespaceOf name value = .ok ns ↔ ∃ n s c, value.member "groups-count" = .ok (.int n) ∧
      -2 ^ 31 ≤ n ∧ n < 2 ^ 31 ∧ value.member "success-copies-num" = .ok (.str s) ∧
      (cString s = "all" ∧ c = Checker.all ∨ cString s = "quorum" ∧ c = .quorum ∨
        cString s = "any" ∧ c = .atLeastOne) ∧ ns = ⟨name, n, c, ""⟩ := by
  -- The values a completed body read are a row of the table.
  have key : ∀ {g sv : Json} {gc : CInt} {scn : String} {c : Checker},
      value.member "groups-count" = .ok g → g.getInt = .ok gc →
      value.member "success-copies-num" = .ok sv → sv.getString = .ok scn →
      (scn = "all" ∧ c = .all ∨ scn = "quorum" ∧ c = .quorum ∨ scn = "any" ∧ c = .atLeastOne) →
      ∃ n s c', value.member "groups-count" = .ok (.int n) ∧ -2 ^ 31 ≤ n ∧ n < 2 ^ 31 ∧
        value.member "success-copies-num" = .ok (.str s) ∧
        (cString s = "all" ∧ c' = Checker.all ∨ cString s = "quorum" ∧ c' = .quorum ∨
          cString s = "any" ∧ c' = .atLeastOne) ∧
        (⟨name, gc.val, c, ""⟩ : Namespace) = ⟨name, n, c', ""⟩ := by
    intro g sv gc scn c hg hgc hs hsc hc
    obtain rfl := Json.getInt_ok hgc
    obtain ⟨t, rfl, rfl⟩ := Json.getString_ok hsc
    exact ⟨_, t, _, hg, gc.ge, gc.lt, hs, hc, rfl⟩
  constructor
  · intro h
    simp only [namespaceOf, bind, Except.bind, pure, Except.pure] at h
    repeat' split at h
    all_goals cases h
    all_goals
      exact key ‹_› ‹_› ‹_› ‹_› (by first
        | exact .inl ⟨‹_›, rfl⟩ | exact .inr (.inl ⟨‹_›, rfl⟩) | exact .inr (.inr ⟨‹_›, rfl⟩))
  · rintro ⟨n, s, c, hg, hlo, hhi, hs, hc, rfl⟩
    simp only [namespaceOf, Json.hasMember_of_member hg, Json.hasMember_of_member hs, hg, hs,
      bind, Except.bind, pure, Except.pure, Json.getInt, dif_pos (And.intro hlo hhi),
      Json.getString_str, Bool.not_true]
    rcases hc with ⟨h1, rfl⟩ | ⟨h1, rfl⟩ | ⟨h1, rfl⟩ <;>
      simp only [Bool.false_eq_true, ↓reduceIte, h1, String.reduceEq]

theorem namespaceOf_name {name : String} {value : Json} {ns : Namespace}
    (h : namespaceOf name value = .ok ns) : ns.name = name := by
  obtain ⟨_, _, _, -, -, -, -, -, rfl⟩ := namespaceOf_ok.mp h
  rfl

/-- The loop of `generate_namespaces`: when it completes, every member was
    read, and the map finds under a name what it found before, then the
    namespace of the first member of that name. -/
theorem insertNamespaces_find {res m : NamespaceMap} {ms : List (String × Json)}
    (h : insertNamespaces res ms = .ok m) :
    (∀ p ∈ ms, ∃ ns, namespaceOf (cString p.1) p.2 = .ok ns) ∧ ∀ name, m.find name =
      (res.find name).or ((ms.find? fun p => cString p.1 == name).bind
        fun p => (namespaceOf name p.2).toOption) := by
  induction ms generalizing res with
  | nil =>
    cases h
    simp
  | cons p ms ih =>
    obtain ⟨raw, value⟩ := p
    cases hp : namespaceOf (cString raw) value with
    | error e => simp [insertNamespaces, hp, bind, Except.bind] at h
    | ok ns =>
      simp only [insertNamespaces, hp, bind, Except.bind] at h
      obtain ⟨hall, hfind⟩ := ih h
      refine ⟨List.forall_mem_cons.2 ⟨⟨ns, hp⟩, hall⟩, fun name => ?_⟩
      rw [hfind, NamespaceMap.find_insert, namespaceOf_name hp]
      by_cases hn : cString raw = name
      · subst hn
        simp [hp, Except.toOption, Option.or_assoc]
      · simp [hn, List.find?_cons]

/-- The loop of `generate_namespaces` throws what the first member it cannot
    read throws. -/
theorem insertNamespaces_error {res : NamespaceMap} {pre rest : List (String × Json)}
    {p : String × Json} {e : Abort} (hpre : ∀ q ∈ pre, ∃ ns, namespaceOf (cString q.1) q.2 = .ok ns)
    (hp : namespaceOf (cString p.1) p.2 = .error e) :
    insertNamespaces res (pre ++ p :: rest) = .error e := by
  induction pre generalizing res with
  | nil => simp [insertNamespaces, hp, bind, Except.bind]
  | cons q pre ih =>
    obtain ⟨ns, hq⟩ := hpre q (List.mem_cons_self _ _)
    simp only [List.cons_append, insertNamespaces, hq, bind, Except.bind]
    exact ih fun q' hq' => hpre q' (List.mem_cons_of_mem _ hq')

/-- A configuration `generate_namespaces` reads: its `namespaces` object. -/
theorem generateNamespaces_members {config : Json} {m : NamespaceMap}
    (h : generateNamespaces config = .ok m) :
    ∃ ms, config.member "namespaces" = .ok (.obj ms) ∧ insertNamespaces .empty ms = .ok m := by
  cases hv : config.member "namespaces" with
  | error e =>
    simp only [generateNamespaces, hv, bind, Except.bind, pure, Except.pure] at h
    split at h
    · cases h
    · split_ifs at h
  | ok v =>
    simp only [generateNamespaces, Json.hasMember_of_member hv, hv, bind, Except.bind, Bool.not_true,
      Bool.false_eq_true, ↓reduceIte, pure, Except.pure] at h
    cases v with
    | obj ms => exact ⟨ms, rfl, h⟩
    | _ => cases h

/-- `generate_namespaces` reads every member of `namespaces`; the map finds
    under a name the namespace of the first member whose name, cut at its
    first NUL, is that name. -/
theorem generateNamespaces_find {config : Json} {m : NamespaceMap}
    (h : generateNamespaces config = .ok m) :
    ∃ ms, config.member "namespaces" = .ok (.obj ms) ∧
      (∀ p ∈ ms, ∃ ns, namespaceOf (cString p.1) p.2 = .ok ns) ∧
      ∀ name, m.find name = (ms.find? fun p => cString p.1 == name).bind
        fun p => (namespaceOf name p.2).toOption := by
  obtain ⟨ms, hv, hins⟩ := generateNamespaces_members h
  obtain ⟨hall, hfind⟩ := insertNamespaces_find hins
  exact ⟨ms, hv, hall, fun name => by rw [hfind, NamespaceMap.find_empty, Option.none_or]⟩

/-- A namespace of two groups, any of which may succeed. -/
def anyOfTwo : Json := .obj [("groups-count", .int 2), ("success-copies-num", .str "any")]

/-- Two members named `default`, the second with three groups. -/
def twoDefaults : Json :=
  .obj [("namespaces", .obj [("default", anyOfTwo),
    ("default", .obj [("groups-count", .int 3), ("success-copies-num", .str "all")])])]

/-- Of the two members named `default`, the map holds the first. -/
theorem generateNamespaces_find_twoDefaults :
    generateNamespaces twoDefaults = .ok (NamespaceMap.empty.insert ⟨"default", 2, .atLeastOne, ""⟩) ∧
      ∃ ms, twoDefaults.member "namespaces" = .ok (.obj ms) ∧
        (∀ p ∈ ms, ∃ ns, namespaceOf (cString p.1) p.2 = .ok ns) ∧
        ∀ name, (NamespaceMap.empty.insert ⟨"default", 2, .atLeastOne, ""⟩).find name =
          (ms.find? fun p => cString p.1 == name).bind fun p => (namespaceOf name p.2).toOption :=
  ⟨rfl, generateNamespaces_find rfl⟩

/-- One member `generate_namespaces` cannot read, after members it can: it
    throws what that member throws, whatever follows. -/
theorem generateNamespaces_first_error {config : Json} {ms pre rest : List (String × Json)}
    {p : String × Json} {e : Abort} (hv : config.member "namespaces" = .ok (.obj ms))
    (hms : ms = pre ++ p :: rest) (hpre : ∀ q ∈ pre, ∃ ns, namespaceOf (cString q.1) q.2 = .ok ns)
    (hp : namespaceOf (cString p.1) p.2 = .error e) :
    generateNamespaces config = .error e := by
  simp only [generateNamespaces, Json.hasMember_of_member hv, hv, bind, Except.bind, Bool.not_true,
    Bool.false_eq_true, ↓reduceIte, pure, Except.pure, hms, Json.members_obj, insertNamespaces_error hpre hp]

/-- The members `a`, `b` and `c`, `b` with a checker of no known type. -/
def unknownChecker : Json :=
  .obj [("namespaces", .obj [("a", anyOfTwo),
    ("b", .obj [("groups-count", .int 2), ("success-copies-num", .str "most")]), ("c", anyOfTwo)])]

/-- `b` stops the loop: there is no map, not even one with `a`. -/
theorem generateNamespaces_first_error_unknownChecker :
    generateNamespaces unknownChecker = .error (.exception
      "Unknown type of success-copies-num \x27most\x27 in \x27b\x27 namespace. Allowed types: any, quorum, all.") :=
  @generateNamespaces_first_error unknownChecker _ [("a", anyOfTwo)] [("c", anyOfTwo)]
    ("b", .obj [("groups-count", .int 2), ("success-copies-num", .str "most")]) _ rfl rfl
    (List.forall_mem_singleton.2 ⟨_, rfl⟩) rfl


end MediastorageProxy
