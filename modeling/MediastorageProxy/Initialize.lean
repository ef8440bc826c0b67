import MediastorageProxy.Config

/-!
# Initialization

`proxy::initialize` runs a `try` block of one statement per member it sets, in
order: the three loggers, the storage session, the balancer, the namespaces,
then `die-limit`, `eblob-style-path`, `direction-bit-num` and `base-port`. A
statement that throws does so before it sets its member, so the members of the
statements before it keep their new values and the others their old ones. The
`catch` logs what was thrown to the proxy logger, or to `std::cerr` when that
logger is not set; `initialize` then registers the handlers (`route`) and
returns `true`. The handlers read the namespaces and the die limit it leaves
(`Proxy.configure`), and reach the session and the balancer through pointers
it may have left null (`Members.pointers`).

* `runStatements_namespaces`: a run of statements that keep the namespaces,
  around one that may set them, leaves the namespaces as they were, or as that
  one set them after every statement before it completed;
* `initializeProxy_namespaces`: the proxy serves every namespace of its
  configuration or none, and none when the session, the balancer or the
  namespaces could not be made;
* `initializeProxy_refuses_storage`: when one of them throws, `initialize`
  returns; every delete is then answered `400`, and every upload too, unless
  the session was never made: the upload's `get_session()` then reaches
  through a null pointer. Nothing is written or removed.
-/

namespace MediastorageProxy

/-! ## The `try` block -/

/-- The loggers of the proxy. -/
inductive Logger
  | proxy
  | elliptics
  | mastermind
  deriving DecidableEq, Repr

/-- A line `initialize` writes: to one of the proxy's loggers, at a level, or
    to `std::cerr`. -/
inductive BootLine
  | log (logger : Logger) (level : LogLevel) (text : String)
  | cerr (text : String)
  deriving DecidableEq, Repr

/-- The members of `proxy` that `initialize` sets. Each is `none` until a
    statement sets it, its value before not being in the sources;
    `m_namespaces` starts as an empty map. -/
structure Members where
  proxyLogger : Option LoggerConfig
  ellipticsLogger : Option LoggerConfig
  mastermindLogger : Option LoggerConfig
  ellipticsSession : Option SessionSetup
  mastermind : Option MastermindSetup
  namespaces : NamespaceMap
  dieLimit : Option Int
  eblobStylePath : Option Bool
  directionBitNum : Option Int
  basePort : Option Int

/-- The members of a proxy `initialize` has not run on. -/
def Members.init : Members := ⟨none, none, none, none, none, .empty, none, none, none, none⟩

/-- A statement of the `try` block: from the members, those it leaves and the
    lines it writes, or what it throws. -/
abbrev Statement := Members → Except Abort (Members × List BootLine)

/-- `m_member.reset(value)` or `m_member = value`: the value is computed, with
    the lines it writes, then set by `set`; what the computation throws is
    thrown before anything is set. -/
def assign {α : Type} (value : Except Abort (α × List BootLine)) (set : Members → α → Members) :
    Statement :=
  fun m => value.map fun r => (set m r.1, r.2)

/-- A value computed without writing a line. -/
def silently {α : Type} (value : Except Abort α) : Except Abort (α × List BootLine) :=
  value.map fun a => (a, [])

/-- A value computed with the lines it writes to `logger`, at `info`. -/
def loggedTo {α : Type} (logger : Logger) (value : Except Abort (α × List String)) :
    Except Abort (α × List BootLine) :=
  value.map fun r => (r.1, r.2.map (.log logger .info))

/-- `m_elliptics_session.reset(generate_session(config, *m_elliptics_logger))`:
    the session writes to the elliptics logger. -/
def sessionStatement (config : Json) (addRemote : String → Except String Unit) : Statement :=
  assign (loggedTo .elliptics (generateSession config addRemote)) fun m s =>
    { m with ellipticsSession := some s }

/-- `m_mastermind = generate_mastermind(config, cocaine_logger_t(*m_mastermind_logger))`:
    the balancer writes to the mastermind logger. -/
def mastermindStatement (config : Json) : Statement :=
  assign (loggedTo .mastermind (generateMastermind config)) fun m mm =>
    { m with mastermind := some mm }

/-- The statements before `m_namespaces = generate_namespaces(config)`. -/
def bootStatements (config : Json) (addRemote : String → Except String Unit) : List Statement :=
  [assign (silently (generateLogger config "proxy")) fun m l => { m with proxyLogger := some l },
   assign (silently (generateLogger config "elliptics")) fun m l =>
    { m with ellipticsLogger := some l },
   assign (silently (generateLogger config "mastermind")) fun m l =>
    { m with mastermindLogger := some l },
   sessionStatement config addRemote, mastermindStatement config]

/-- `m_namespaces = generate_namespaces(config)`. -/
def namespacesStatement (config : Json) : Statement :=
  assign (silently (generateNamespaces config)) fun m nss => { m with namespaces := nss }

/-- The statements after it. -/
def settingStatements (config : Json) : List Statement :=
  [assign (silently (getInt config "die-limit" 1)) fun m v => { m with dieLimit := some v },
   assign (silently (getBool config "eblob-style-path" true)) fun m v =>
    { m with eblobStylePath := some v },
   assign (silently (getInt config "direction-bit-num" 16)) fun m v =>
    { m with directionBitNum := some v },
   assign (silently (getInt config "base-port" 1024)) fun m v => { m with basePort := some v }]

/-- The `try` block of `initialize`. -/
def initStatements (config : Json) (addRemote : String → Except String Unit) : List Statement :=
  bootStatements config addRemote ++ namespacesStatement config :: settingStatements config

/-- The statements `ss` in order, up to the first that throws: the members
    they leave, the lines they write, and what was thrown. -/
def runStatements : List Statement → Members → Members × List BootLine × Option Abort
  | [], m => (m, [], none)
  | s :: ss, m =>
    match s m with
    | .ok (m', lines) =>
      let r := runStatements ss m'
      (r.1, lines ++ r.2.1, r.2.2)
    | .error e => (m, [], some e)

/-- `proxy::initialize(config)`, from the members `m`, with `addRemote` the
    storage node's `add_remote`: the members it leaves and the lines it
    writes. An exception is caught and logged; undefined behaviour is not. -/
def initializeProxy (config : Json) (addRemote : String → Except String Unit) (m : Members) :
    Except Abort (Members × List BootLine) :=
  match runStatements (initStatements config addRemote) m with
  | (m', lines, none) => .ok (m', lines)
  | (m', lines, some (.exception what)) =>
    .ok (m', lines ++ [if m'.proxyLogger.isSome then .log .proxy .error what else .cerr what])
  | (_, _, some (.undefined what)) => .error (.undefined what)

/-- The proxy the handlers see once `initialize` has left the members `m`: its
    namespaces are those of `m_namespaces`, its die limit `m_die_limit` when
    that was set. The session and the balancer it reaches through pointers,
    which `m` may have left null (`Members.pointers`); the handlers run on it
    as `Handler.runWith m.pointers (px.configure m)`. -/
def Proxy.configure (px : Proxy) (m : Members) : Proxy :=
  { px with
    namespaces := m.namespaces.find
    namespaces_name := fun _ _ h => NamespaceMap.find_name h
    dieLimit := m.dieLimit.getD px.dieLimit }

/-- Which of `m_elliptics_session` and `m_mastermind` the members `m` have set. -/
def Members.pointers (m : Members) : Pointers := ⟨m.ellipticsSession.isSome, m.mastermind.isSome⟩

/-! ## What a run of statements leaves -/

/-- A statement that leaves the namespaces as they are. -/
def KeepsNamespaces (s : Statement) : Prop :=
  ∀ m m' lines, s m = .ok (m', lines) → m'.namespaces = m.namespaces

theorem ok_of_map_ok {ε α β : Type} {x : Except ε α} {f : α → β} {b : β} (h : x.map f = .ok b) :
    ∃ a, x = .ok a ∧ f a = b := by
  cases x with
  | error e => cases h
  | ok a => exact ⟨a, rfl, by injection h⟩

theorem assign_keepsNamespaces {α : Type} {value : Except Abort (α × List BootLine)}
    {set : Members → α → Members} (hset : ∀ m a, (set m a).namespaces = m.namespaces) :
    KeepsNamespaces (assign value set) := fun m _ _ h => by
  obtain ⟨r, -, hr⟩ := ok_of_map_ok h
  rw [← (Prod.mk.inj hr).1, hset]

theorem bootStatements_keepNamespaces (config : Json) (addRemote : String → Except String Unit) :
    ∀ s ∈ bootStatements config addRemote, KeepsNamespaces s := by
  simp only [bootStatements, List.mem_cons, List.mem_singleton, List.not_mem_nil, or_false]
  rintro s (rfl | rfl | rfl | rfl | rfl) <;> exact assign_keepsNamespaces fun _ _ => rfl

theorem settingStatements_keepNamespaces (config : Json) :
    ∀ s ∈ settingStatements config, KeepsNamespaces s := by
  simp only [settingStatements, List.mem_cons, List.mem_singleton, List.not_mem_nil, or_false]
  rintro s (rfl | rfl | rfl | rfl) <;> exact assign_keepsNamespaces fun _ _ => rfl

/-- Statements that keep the namespaces keep them over a run. -/
theorem runStatements_keeps {ss : List Statement} (hss : ∀ s ∈ ss, KeepsNamespaces s)
    (m : Members) : (runStatements ss m).1.namespaces = m.namespaces := by
  induction ss generalizing m with
  | nil => rfl
  | cons s ss ih =>
    simp only [runStatements]
    split
    · next m' lines h =>
      rw [ih (fun t ht => hss t (List.mem_cons_of_mem _ ht)) m',
        hss s (List.mem_cons_self _ _) _ _ _ h]
    · rfl

/-- A run of statements that keep the namespaces around `x`: the namespaces
    are as they were, or as `x` left them, every statement before it having
    completed. -/
theorem runStatements_namespaces {pre ts : List Statement} {x : Statement}
    (hpre : ∀ s ∈ pre, KeepsNamespaces s) (hts : ∀ s ∈ ts, KeepsNamespaces s) (m : Members) :
    (runStatements (pre ++ x :: ts) m).1.namespaces = m.namespaces ∨
      (∀ s ∈ pre, ∃ m₀ r, s m₀ = .ok r) ∧ ∃ m₀ m₁ lines, x m₀ = .ok (m₁, lines) ∧
        (runStatements (pre ++ x :: ts) m).1.namespaces = m₁.namespaces := by
  induction pre generalizing m with
  | nil =>
    simp only [List.nil_append, runStatements]
    split
    · next m₁ lines h =>
      exact .inr ⟨fun _ hs => absurd hs (List.not_mem_nil _), m, m₁, lines, h,
        runStatements_keeps hts m₁⟩
    · exact .inl rfl
  | cons s pre ih =>
    simp only [List.cons_append, runStatements]
    split
    · next m' lines h =>
      rcases ih (fun t ht => hpre t (List.mem_cons_of_mem _ ht)) m' with h' | ⟨hall, hx⟩
      · exact .inl (h'.trans (hpre s (List.mem_cons_self _ _) _ _ _ h))
      · exact .inr ⟨List.forall_mem_cons.2 ⟨⟨m, _, h⟩, hall⟩, hx⟩
    · exact .inl rfl

/-- What `initialize` returns is what its `try` block left. -/
theorem initializeProxy_members {config : Json} {addRemote : String → Except String Unit}
    {m m' : Members} {lines : List BootLine} (h : initializeProxy config addRemote m = .ok (m', lines)) :
    m' = (runStatements (initStatements config addRemote) m).1 := by
  unfold initializeProxy at h
  split at h
  · next heq => cases h; rw [heq]
  · next heq => cases h; rw [heq]
  · cases h

/-! ## The namespaces the proxy serves -/

/-- A statement that completes has computed its value. -/
theorem assign_ok_value {α : Type} {value : Except Abort (α × List BootLine)}
    {set : Members → α → Members} {m : Members} {r : Members × List BootLine}
    (h : assign value set m = .ok r) : ∃ a, value = .ok a :=
  (ok_of_map_ok h).imp fun _ h => h.1

/-- After `initialize`, the proxy has every namespace of its configuration, or
    none: none when the session, the balancer or the namespaces could not be
    made, as the statements after the one that threw do not run. -/
theorem initializeProxy_namespaces {config : Json} {addRemote : String → Except String Unit}
    {m : Members} {lines : List BootLine} (h : initializeProxy config addRemote .init = .ok (m, lines)) :
    m.namespaces = .empty ∨ (∃ s, generateSession config addRemote = .ok s) ∧
      (∃ mm, generateMastermind config = .ok mm) ∧ generateNamespaces config = .ok m.namespaces := by
  rw [initializeProxy_members h, initStatements]
  rcases runStatements_namespaces (bootStatements_keepNamespaces config addRemote)
    (settingStatements_keepNamespaces config) .init with hm | ⟨hall, m₀, m₁, ls, hx, hm⟩
  · exact .inl hm
  obtain ⟨_, _, hs⟩ := hall (sessionStatement config addRemote) (by simp [bootStatements])
  obtain ⟨_, _, hmm⟩ := hall (mastermindStatement config) (by simp [bootStatements])
  obtain ⟨_, hs⟩ := assign_ok_value hs
  obtain ⟨_, hmm⟩ := assign_ok_value hmm
  obtain ⟨r, hr, hr'⟩ := ok_of_map_ok hx
  obtain ⟨nss, hnss, rfl⟩ := ok_of_map_ok hr
  cases hr'
  exact .inr ⟨(ok_of_map_ok hs).imp fun _ h => h.1, (ok_of_map_ok hmm).imp fun _ h => h.1,
    hm ▸ hnss⟩

/-- A configuration with a remote, a balancer node and the namespace
    `default`. -/
def served : Json :=
  .obj [("remotes", .arr [.str "a:1025:2"]),
    ("mastermind", .obj [("nodes", .arr [.obj [("host", .str "localhost")]])]),
    ("namespaces", .obj [("default", anyOfTwo)])]

/-- What `initialize` leaves of `served`: every member, with its defaults. -/
def servedMembers : Members where
  proxyLogger := some ⟨"/dev/stderr", 3⟩
  ellipticsLogger := some ⟨"/dev/stderr", 3⟩
  mastermindLogger := some ⟨"/dev/stderr", 3⟩
  ellipticsSession := some ⟨⟨0, 0, 0⟩, ["a:1025:2"]⟩
  mastermind := some ⟨[("localhost", 10053)], 60⟩
  namespaces := NamespaceMap.empty.insert ⟨"default", 2, .atLeastOne, ""⟩
  dieLimit := some 1
  eblobStylePath := some true
  directionBitNum := some 16
  basePort := some 1024

/-- `served` is read to the end, its namespace included. -/
theorem initializeProxy_namespaces_served :
    initializeProxy served (fun _ => .ok ()) .init = .ok (servedMembers, []) ∧
      (servedMembers.namespaces = .empty ∨
        (∃ s, generateSession served (fun _ => .ok ()) = .ok s) ∧
        (∃ mm, generateMastermind served = .ok mm) ∧
        generateNamespaces served = .ok servedMembers.namespaces) :=
  ⟨rfl, initializeProxy_namespaces rfl⟩

/-! ## When the `try` block stops early -/

/-- When the loggers are made and the first of the session, the balancer and
    the namespaces to fail throws, the `try` block stops there and
    `initialize` returns: with no namespace, and with the session set exactly
    when it was made. -/
theorem initializeProxy_of_throw {config : Json} {addRemote : String → Except String Unit}
    (hlog : ∀ name ∈ ["proxy", "elliptics", "mastermind"], ∃ l, generateLogger config name = .ok l)
    (hfail : (∃ e, generateSession config addRemote = .error (.exception e)) ∨
      (∃ s, generateSession config addRemote = .ok s) ∧
        ((∃ e, generateMastermind config = .error (.exception e)) ∨
          (∃ mm, generateMastermind config = .ok mm) ∧
            ∃ e, generateNamespaces config = .error (.exception e))) :
    ∃ m lines, initializeProxy config addRemote .init = .ok (m, lines) ∧ m.namespaces = .empty ∧
      m.ellipticsSession.isSome = (generateSession config addRemote).isOk := by
  obtain ⟨l1, h1⟩ := hlog "proxy" (by simp)
  obtain ⟨l2, h2⟩ := hlog "elliptics" (by simp)
  obtain ⟨l3, h3⟩ := hlog "mastermind" (by simp)
  rcases hfail with ⟨e, hs⟩ | ⟨⟨s, hs⟩, ⟨e, hmm⟩ | ⟨⟨mm, hmm⟩, e, hns⟩⟩
  · -- the session threw: only the loggers are set
    simp [initializeProxy, initStatements, bootStatements, runStatements, assign, silently,
      sessionStatement, loggedTo, h1, h2, h3, hs, Except.map, Except.isOk, Except.toBool,
      Members.init]
  · -- the balancer threw: the session is set
    simp [initializeProxy, initStatements, bootStatements, runStatements, assign, silently,
      sessionStatement, mastermindStatement, loggedTo, h1, h2, h3, hs, hmm, Except.map, Except.isOk,
      Except.toBool, Members.init]
  · -- the namespaces threw: the session and the balancer are set
    simp [initializeProxy, initStatements, bootStatements, runStatements, assign, silently,
      sessionStatement, mastermindStatement, namespacesStatement, loggedTo, h1, h2, h3, hs, hmm, hns,
      Except.map, Except.isOk, Except.toBool, Members.init]

/-! ## What the handlers then do -/

section NoNamespace

variable (ptrs : Pointers) {px : Proxy} (hns : ∀ n, px.namespaces n = none) (req : HttpRequest)
  (buffer : String) (results : List ResultEntry) (error : ErrorInfo) (spentMs : Nat)

include hns

/-- A proxy with no namespace resolves every request to `namespace_t()`. -/
theorem getFileInfo_noNamespace : ∃ f, px.getFileInfo req = .ok (f, Namespace.empty) := by
  obtain ⟨⟨f, n⟩, hp, -⟩ := getFilename_ok req
  exact ⟨f, by rw [Proxy.getFileInfo_of_getFilename hp, hns]; rfl⟩

/-- A proxy with no namespace answers every delete `400` before it takes a
    session, and removes nothing. -/
theorem runWith_delete_noNamespace :
    replies (Handler.delete.runWith ptrs px req buffer results error spentMs).events =
        [.ofCode 400] ∧
      issued (Handler.delete.runWith ptrs px req buffer results error spentMs).events = [] := by
  obtain ⟨f, hfi⟩ := getFileInfo_noNamespace hns req
  exact (complete_answered _ (by
    simp [reqDelete.onRequestWith, hfi, Namespace.empty, String.isEmpty_iff, Proc.Answered])).imp_right And.left

/-- With its session set, a proxy with no namespace answers every upload
    `400`, and writes nothing. -/
theorem runWith_upload_noNamespace (hs : ptrs.session = true) :
    replies (Handler.upload.runWith ptrs px req buffer results error spentMs).events =
        [.ofCode 400] ∧
      issued (Handler.upload.runWith ptrs px req buffer results error spentMs).events = [] := by
  obtain ⟨f, hfi⟩ := getFileInfo_noNamespace hns req
  exact (complete_answered _ (by
    simp [reqUpload.onRequestWith, Pointers.getSession, hs, hfi, Namespace.empty, String.isEmpty_iff,
      Proc.Answered])).imp_right And.left

end NoNamespace

/-- With its session never set, the upload takes `get_session()` before it
    resolves the namespace: it stops there, having replied nothing and written
    nothing. -/
theorem runWith_upload_nullSession {ptrs : Pointers} (hs : ptrs.session = false) (px : Proxy)
    (req : HttpRequest) (buffer : String) (results : List ResultEntry) (error : ErrorInfo)
    (spentMs : Nat) :
    replies (Handler.upload.runWith ptrs px req buffer results error spentMs).events = [] ∧
      issued (Handler.upload.runWith ptrs px req buffer results error spentMs).events = [] ∧
      ∃ w, (Handler.upload.runWith ptrs px req buffer results error spentMs).result =
        .error (.undefined w) := by
  simp [Handler.runWith, complete, reqUpload.onRequestWith, Pointers.getSession, hs]

/-- When the loggers are made and the first of the session, the balancer and
    the namespaces to fail throws, `initialize` returns, and the proxy has no
    namespace: every later delete is answered `400`; every later upload too
    when the session was made, and when it was not, the upload's
    `get_session()` reaches through the null session. Nothing is written or
    removed. -/
theorem initializeProxy_refuses_storage {config : Json} {addRemote : String → Except String Unit}
    (hlog : ∀ name ∈ ["proxy", "elliptics", "mastermind"], ∃ l, generateLogger config name = .ok l)
    (hfail : (∃ e, generateSession config addRemote = .error (.exception e)) ∨
      (∃ s, generateSession config addRemote = .ok s) ∧
        ((∃ e, generateMastermind config = .error (.exception e)) ∨
          (∃ mm, generateMastermind config = .ok mm) ∧
            ∃ e, generateNamespaces config = .error (.exception e)))
    (px : Proxy) (req : HttpRequest) (buffer : String) (results : List ResultEntry)
    (error : ErrorInfo) (spentMs : Nat) :
    ∃ m lines, initializeProxy config addRemote .init = .ok (m, lines) ∧
      replies (Handler.delete.runWith m.pointers (px.configure m) req buffer results error
        spentMs).events = [.ofCode 400] ∧
      issued (Handler.delete.runWith m.pointers (px.configure m) req buffer results error
        spentMs).events = [] ∧
      issued (Handler.upload.runWith m.pointers (px.configure m) req buffer results error
        spentMs).events = [] ∧
      if (generateSession config addRemote).isOk then
        replies (Handler.upload.runWith m.pointers (px.configure m) req buffer results error
          spentMs).events = [.ofCode 400]
      else
        replies (Handler.upload.runWith m.pointers (px.configure m) req buffer results error
          spentMs).events = [] ∧
        ∃ w, (Handler.upload.runWith m.pointers (px.configure m) req buffer results error
          spentMs).result = .error (.undefined w) := by
  obtain ⟨m, lines, hi, hm, hs⟩ := initializeProxy_of_throw hlog hfail
  have hns : ∀ n, (px.configure m).namespaces n = none := fun n => by
    simp [Proxy.configure, hm, NamespaceMap.find_empty]
  obtain ⟨hdr, hdi⟩ := runWith_delete_noNamespace m.pointers hns req buffer results error spentMs
  refine ⟨m, lines, hi, hdr, hdi, ?_⟩
  cases hok : (generateSession config addRemote).isOk
  · obtain ⟨hur, hui, hres⟩ := @runWith_upload_nullSession m.pointers (hs.trans hok)
      (px.configure m) req buffer results error spentMs
    exact ⟨hui, hur, hres⟩
  · obtain ⟨hur, hui⟩ := runWith_upload_noNamespace m.pointers hns req buffer results error
      spentMs (hs.trans hok)
    exact ⟨hui, hur⟩

/-- A configuration with a balancer and a namespace, but no remotes. -/
def noRemotes : Json :=
  .obj [("mastermind", .obj [("nodes", .arr [.obj [("host", .str "localhost")]])]),
    ("namespaces", .obj [("default", anyOfTwo)])]

/-- Without remotes the session is never made: `/upload/f` is then refused as
    a delete would be, and as an upload it reaches through the null session. -/
theorem initializeProxy_refuses_storage_noRemotes :
    generateSession noRemotes (fun _ => .ok ()) =
        .error (.exception "You should set a list of remote addresses") ∧
      ∃ m lines, initializeProxy noRemotes (fun _ => .ok ()) .init = .ok (m, lines) ∧
        replies (Handler.delete.runWith m.pointers
          ((Proxy.sample (.constant [groupFive]) [defaultNamespace] 1 true).configure m)
          (.ofUrl "/upload/f" (by decide)) "p" [] ⟨0, ""⟩ 0).events = [.ofCode 400] ∧
        replies (Handler.upload.runWith m.pointers
          ((Proxy.sample (.constant [groupFive]) [defaultNamespace] 1 true).configure m)
          (.ofUrl "/upload/f" (by decide)) "p" [] ⟨0, ""⟩ 0).events = [] ∧
        ∃ w, (Handler.upload.runWith m.pointers
          ((Proxy.sample (.constant [groupFive]) [defaultNamespace] 1 true).configure m)
          (.ofUrl "/upload/f" (by decide)) "p" [] ⟨0, ""⟩ 0).result = .error (.undefined w) := by
  have hs : generateSession noRemotes (fun _ => .ok ()) =
      .error (.exception "You should set a list of remote addresses") := rfl
  obtain ⟨m, lines, hi, hdr, -, -, hu⟩ := @initializeProxy_refuses_storage noRemotes _
    (fun name hn => by
      simp only [List.mem_cons, List.mem_singleton, List.not_mem_nil, or_false] at hn
      rcases hn with rfl | rfl | rfl <;> exact ⟨_, rfl⟩)
    (.inl ⟨_, hs⟩) (Proxy.sample (.constant [groupFive]) [defaultNamespace] 1 true)
    (.ofUrl "/upload/f" (by decide)) "p" [] ⟨0, ""⟩ 0
  rw [hs] at hu
  exact ⟨hs, m, lines, hi, hdr, hu⟩

end MediastorageProxy
