import MediastorageProxy.Get
import MediastorageProxy.Delete
import MediastorageProxy.DownloadInfo
import MediastorageProxy.Monitoring

/-!
# Requests, from routing to the last reply

`proxy::initialize` registers a handler per path: by prefix for the storage
handlers, exactly for the others. A request's run is its handler's dispatch,
then — exactly when the dispatch registered a completion on the operation it
issued — the completion, handed the storage's results and error.

What every run does:

* `run_repliesOnce`: every handler but delete sends exactly one reply, or
  meets undefined behaviour before it sends any; no reply precedes an
  operation;
* `run_delete_replies`: delete sends one reply, preceded by the challenge when
  the request's credentials fail for a resolved namespace;
* `run_issued_preconditions`: get, download info and delete issue their
  operation only on a session with groups;
* `run_reads_only`: only upload and delete change what the storage holds;
* `ping_failing_blocks_mutations`: when ping answers `500`, no upload and no
  delete reaches the storage, while gets are served as before;
* `locator_addresses`: the locator of a `200` to an upload, through get and
  download info, dispatches on the key the upload wrote; through delete, it is
  routed only without a namespace suffix, and removes another key.
-/

namespace MediastorageProxy

open Proc

/-- The handlers the proxy registers. -/
inductive Handler
  | upload
  | get
  | delete
  | downloadInfo
  | statLog
  | ping
  | cache
  deriving DecidableEq, Repr

/-- The path of a request: its URL before the query. -/
def HttpRequest.path (req : HttpRequest) : String := ⟨req.url.data.takeWhile (· ≠ '?')⟩

/-- The handlers of `proxy::initialize`, by the path: `prefix_match` for the
    storage handlers, `exact_match` for the others; none for another path. -/
def route (path : String) : Option Handler :=
  if "/upload".data.isPrefixOf path.data then some .upload
  else if "/get/".data.isPrefixOf path.data then some .get
  else if "/delete/".data.isPrefixOf path.data then some .delete
  else if "/download_info/".data.isPrefixOf path.data ||
      "/download-info/".data.isPrefixOf path.data then some .downloadInfo
  else if path = "/stat-log" || path = "/stat_log" then some .statLog
  else if path = "/ping" || path = "/stat" then some .ping
  else if path = "/cache" then some .cache
  else none

/-- A dispatch, then the completion it registered, if it registered one. -/
def complete {σ : Type} (dispatch : Proc (Option σ)) (finish : σ → Proc Unit) : Proc Unit :=
  dispatch >>= fun
    | some ctx => finish ctx
    | none => pure ()

/-- A request's run under the handler `h`, on a proxy whose members are
    reached through `ptrs`: the dispatch of the request and its body, then the
    completion with the storage's `results` and `error`. `spentMs` is the time
    the upload's last log line reports. -/
def Handler.runWith (ptrs : Pointers) (px : Proxy) (req : HttpRequest) (buffer : String)
    (results : List ResultEntry) (error : ErrorInfo) (spentMs : Nat) : Handler → Proc Unit
  | .upload => complete (reqUpload.onRequestWith ptrs px req buffer) fun ctx =>
      reqUpload.onFinished px ctx results error spentMs
  | .get => complete (reqGet.onRequestWith ptrs px req) fun ctx =>
      reqGet.onFinished px ctx results error
  | .delete => complete (reqDelete.onRequestWith ptrs px req) fun _ => reqDelete.onFinished error
  | .downloadInfo => complete (reqDownloadInfo.onRequestWith ptrs px req) fun _ =>
      reqDownloadInfo.onFinished px results error
  | .statLog => complete (reqStatLog.onRequestWith ptrs px req) fun _ =>
      reqStatLog.onFinished px results error
  | .ping => reqPing.onRequestWith ptrs px req
  | .cache => reqCache.onRequestWith ptrs px req

/-- A request's run under the handler `h` on a proxy whose members are set. -/
def Handler.run (px : Proxy) (req : HttpRequest) (buffer : String) (results : List ResultEntry)
    (error : ErrorInfo) (spentMs : Nat) (h : Handler) : Proc Unit :=
  h.runWith .set px req buffer results error spentMs

section RunEquations

variable (px : Proxy) (req : HttpRequest) (buffer : String) (results : List ResultEntry)
  (error : ErrorInfo) (spentMs : Nat)

theorem Handler.run_upload : Handler.upload.run px req buffer results error spentMs =
    complete (reqUpload.onRequest px req buffer) fun ctx =>
      reqUpload.onFinished px ctx results error spentMs := rfl

theorem Handler.run_get : Handler.get.run px req buffer results error spentMs =
    complete (reqGet.onRequest px req) fun ctx => reqGet.onFinished px ctx results error := rfl

theorem Handler.run_delete : Handler.delete.run px req buffer results error spentMs =
    complete (reqDelete.onRequest px req) fun _ => reqDelete.onFinished error := rfl

theorem Handler.run_downloadInfo : Handler.downloadInfo.run px req buffer results error spentMs =
    complete (reqDownloadInfo.onRequest px req) fun _ =>
      reqDownloadInfo.onFinished px results error := rfl

theorem Handler.run_statLog : Handler.statLog.run px req buffer results error spentMs =
    complete (reqStatLog.onRequest px req) fun _ => reqStatLog.onFinished px results error := rfl

theorem Handler.run_ping : Handler.ping.run px req buffer results error spentMs =
    reqPing.onRequest px req := rfl

theorem Handler.run_cache : Handler.cache.run px req buffer results error spentMs =
    reqCache.onRequest px req := rfl

end RunEquations

/-- Events in which every storage operation issued comes before the first
    reply. -/
def IssuesFirst (evs : List Event) : Prop :=
  ∃ pre post, evs = pre ++ post ∧ replies pre = [] ∧ issued post = []

/-- A run that sent exactly one reply, or met undefined behaviour before it
    sent any, and sent no reply before a storage operation. -/
def RepliesOnce (x : Proc Unit) : Prop :=
  ((replies x.events).length = 1 ∨ replies x.events = [] ∧ ∃ w, x.result = .error (.undefined w)) ∧
    IssuesFirst x.events

theorem issuesFirst_of_issued_nil {evs : List Event} (h : issued evs = []) : IssuesFirst evs :=
  ⟨[], evs, rfl, rfl, h⟩

theorem Proc.Completes.issued_nil {x : Proc Unit} (h : x.Completes) : issued x.events = [] := by
  obtain ⟨r, -, h, -⟩ | ⟨w, -, -, h⟩ := h <;> exact h

section Complete

variable {σ : Type} {x : Proc (Option σ)} (f : σ → Proc Unit)

theorem complete_none (h : x.result = .ok none) : complete x f = ⟨x.events, .ok ()⟩ := by
  simp [complete, bind_of_ok h]

theorem complete_some {ctx : σ} (h : x.result = .ok (some ctx)) :
    complete x f = ⟨x.events ++ (f ctx).events, (f ctx).result⟩ :=
  bind_of_ok h _

theorem complete_events  :
    ∃ rest, (complete x f).events = x.events ++ rest := by
  cases h : x.result with
  | ok o => cases o <;> simp [complete, bind_def, Proc.bind, h]
  | error e => exact ⟨[], by simp [complete, bind_def, Proc.bind, h]⟩

theorem complete_issued (hf : ∀ ctx, issued (f ctx).events = []) :
    issued (complete x f).events = issued x.events := by
  cases h : x.result with
  | ok o => cases o <;> simp [complete, bind_def, Proc.bind, h, hf]
  | error e => simp [complete, bind_def, Proc.bind, h]

theorem complete_answered {r : HttpReply} (h : x.Answered r) :
    replies (complete x f).events = [r] ∧ issued (complete x f).events = [] ∧
      (complete x f).result = .ok () := by
  obtain ⟨hrep, hiss, hres⟩ := h
  simp [complete_none f hres, hrep, hiss]

theorem complete_dispatched {s : Session} {op : StorageOp} {ctx : σ} (h : x.Dispatched s op ctx) :
    replies (complete x f).events = replies (f ctx).events ∧
      issued (complete x f).events = (s, op) :: issued (f ctx).events ∧
      (complete x f).result = (f ctx).result := by
  obtain ⟨hrep, hiss, hres⟩ := h
  simp [complete_some f hres, hrep, hiss]

theorem complete_repliesOnce
    (h : (∃ r, x.Answered r) ∨ ∃ s op ctx, x.Dispatched s op ctx ∧ (f ctx).Completes) :
    RepliesOnce (complete x f) := by
  rcases h with ⟨r, hr⟩ | ⟨s, op, ctx, hd, hc⟩
  · exact ⟨.inl (by simp [(complete_answered f hr).1]),
      issuesFirst_of_issued_nil (complete_answered f hr).2.1⟩
  · -- the dispatch issues and replies nothing; the completion replies and issues nothing
    have hfirst : IssuesFirst (complete x f).events :=
      ⟨x.events, (f ctx).events, by simp [complete_some f hd.2.2], hd.1, hc.issued_nil⟩
    rcases hc with ⟨r, hrep, -, -⟩ | ⟨w, hw, hrep, -⟩
    · exact ⟨.inl (by simp [(complete_dispatched f hd).1, hrep]), hfirst⟩
    · exact ⟨.inr ⟨by simp [(complete_dispatched f hd).1, hrep], w,
        (complete_dispatched f hd).2.2.trans hw⟩, hfirst⟩

end Complete

theorem Proc.Replied.completes {x : Proc Unit} {r : HttpReply} (h : x.Replied r) : x.Completes :=
  .inl ⟨r, h⟩

theorem Proc.Replied.repliesOnce {x : Proc Unit} {r : HttpReply} (h : x.Replied r) : RepliesOnce x :=
  ⟨.inl (by simp [h.1]), issuesFirst_of_issued_nil h.2.1⟩

section Runs

variable (px : Proxy) (req : HttpRequest) (buffer : String) (results : List ResultEntry)
  (error : ErrorInfo) (spentMs : Nat)

theorem upload_dispatch_settles :
    (∃ r, (reqUpload.onRequest px req buffer).Answered r) ∨
      ∃ s op ctx, (reqUpload.onRequest px req buffer).Dispatched s op ctx := by
  obtain ⟨f, ns, -, h⟩ := reqUpload_onRequest_spec px req buffer
  by_cases hn : ns.name = ""
  · exact .inl ⟨_, (if_pos hn).mp h⟩
  by_cases hs : px.node.stateNum < px.dieLimit
  · exact .inl ⟨_, by rwa [if_neg hn, if_pos hs] at h⟩
  rw [if_neg hn, if_neg hs] at h
  obtain h | ⟨ctx, op, hd, -⟩ := h
  · exact .inl ⟨_, h⟩
  · exact .inr ⟨_, _, _, hd⟩

theorem get_dispatch_settles :
    (∃ r, (reqGet.onRequest px req).Answered r) ∨
      ∃ s op ctx, (reqGet.onRequest px req).Dispatched s op ctx := by
  obtain ⟨s, k, -, h⟩ := reqGet_onRequest_spec px req
  split_ifs at h
  · exact .inl ⟨_, h⟩
  split at h
  · exact .inr ⟨_, _, _, h⟩
  · exact .inl ⟨_, h⟩

theorem downloadInfo_dispatch_settles :
    (∃ r, (reqDownloadInfo.onRequest px req).Answered r) ∨
      ∃ s op ctx, (reqDownloadInfo.onRequest px req).Dispatched s op ctx := by
  obtain ⟨s, k, -, h⟩ := reqDownloadInfo_onRequest_spec px req
  split_ifs at h
  · exact .inl ⟨_, h⟩
  · exact .inr ⟨_, _, _, h⟩

/-- Every handler but delete sends exactly one reply, or meets undefined
    behaviour before it sends any; no reply precedes a storage operation. -/
theorem run_repliesOnce (h : Handler) (hd : h ≠ .delete) :
    RepliesOnce (h.run px req buffer results error spentMs) := by
  cases h with
  | upload =>
    refine complete_repliesOnce _ ((upload_dispatch_settles px req buffer).imp id ?_)
    exact fun ⟨s, op, ctx, h⟩ => ⟨s, op, ctx, h, reqUpload_onFinished_completes ..⟩
  | get =>
    refine complete_repliesOnce _ ((get_dispatch_settles px req).imp id ?_)
    exact fun ⟨s, op, ctx, h⟩ => ⟨s, op, ctx, h, reqGet_onFinished_completes ..⟩
  | delete => exact absurd rfl hd
  | downloadInfo =>
    refine complete_repliesOnce _ ((downloadInfo_dispatch_settles px req).imp id ?_)
    exact fun ⟨s, op, ctx, h⟩ =>
      ⟨s, op, ctx, h, (reqDownloadInfo_onFinished_replied px results error).choose_spec.completes⟩
  | statLog =>
    exact complete_repliesOnce _ (.inr ⟨_, _, _, reqStatLog_onRequest_dispatched px req,
      (reqStatLog_onFinished_replied px results error).choose_spec.completes⟩)
  | ping => exact (reqPing_onRequest_replied px req).repliesOnce
  | cache => exact (reqCache_onRequest_replied px req).repliesOnce

/-- A get of `/get/5/f` that the storage answers with nothing. -/
theorem run_repliesOnce_get :
    RepliesOnce (Handler.get.run (Proxy.sample (.constant [groupFive]) [defaultNamespace] 1 true)
      (.ofUrl "/get/5/f" (by decide)) "" [] ⟨0, ""⟩ 0) :=
  run_repliesOnce _ _ "" [] ⟨0, ""⟩ 0 .get (by decide)

/-- Delete sends one reply, after the challenge when the credentials fail for
    a resolved namespace. -/
theorem run_delete_replies :
    ∃ f ns, px.getFileInfo req = .ok (f, ns) ∧ ∃ r,
      replies (Handler.delete.run px req buffer results error spentMs).events =
        (if ns.name ≠ "" ∧ px.checkBasicAuth ns.name ns.authKey (req.header "Authorization") = false
          then [challenge ns.name] else []) ++ [r] := by
  obtain ⟨f, ns, hfi, h⟩ := reqDelete_onRequest_spec px req
  refine ⟨f, ns, hfi, ?_⟩
  by_cases hn : ns.name = ""
  · exact ⟨.ofCode 400, by simp [Handler.run_delete, (complete_answered _ ((if_pos hn).mp h)).1, hn]⟩
  rw [if_neg hn] at h
  obtain ⟨evs, hev, ⟨r, hrep, -, hres⟩ | ⟨-, -, -, -, -, -, -, -, hrep, -, hres⟩⟩ := h
  · refine ⟨r, ?_⟩
    cases ha : px.checkBasicAuth ns.name ns.authKey (req.header "Authorization") <;>
    simp [Handler.run_delete, complete_none _ hres, hev, hrep, ha, hn]
  · obtain ⟨r, hr, -, -⟩ | ⟨w, hw, -⟩ := reqDelete_onFinished_completes error
    · refine ⟨r, ?_⟩
      cases ha : px.checkBasicAuth ns.name ns.authKey (req.header "Authorization") <;>
      simp [Handler.run_delete, complete_some _ hres, hev, hrep, hr, ha, hn]
    · exact absurd hw (by simp [reqDelete.onFinished]; split <;> simp)

/-- `/delete/5/f` with credentials the check refuses: the challenge, then the
    `200` of the removal the dispatch goes on to issue. -/
theorem run_delete_unauthorized_twice :
    replies (Handler.delete.run (Proxy.sample (.constant [groupFive]) [defaultNamespace] 1 false)
        (.ofUrl "/delete/5/f" (by decide)) "" [] ⟨0, ""⟩ 0).events =
        [challenge "default", .ofCode 200] ∧
      issued (Handler.delete.run (Proxy.sample (.constant [groupFive]) [defaultNamespace] 1 false)
        (.ofUrl "/delete/5/f" (by decide)) "" [] ⟨0, ""⟩ 0).events =
        [({ Proxy.getSession with groups := [groupFive, groupFive], filter := .all },
          .remove ⟨"default.f"⟩)] := by
  decide

/-- A failed credentials check: delete's first reply is the challenge, sent
    before any storage operation; upload never consults the check. -/
theorem auth_challenge_first (px : Proxy) (req : HttpRequest) (buffer : String)
    (results : List ResultEntry) (error : ErrorInfo) (spentMs : Nat) :
    (∀ f ns, px.getFileInfo req = .ok (f, ns) → ns.name ≠ "" →
      px.checkBasicAuth ns.name ns.authKey (req.header "Authorization") = false →
      ∃ evs, (Handler.delete.run px req buffer results error spentMs).events =
        .log .info ("Delete: handle request: " ++ req.url) :: .reply (challenge ns.name) :: evs) ∧
    ∀ auth, Handler.upload.run { px with checkBasicAuth := auth } req buffer results error spentMs =
      Handler.upload.run px req buffer results error spentMs := by
  refine ⟨fun f ns hfi hn ha => ?_, fun _ => rfl⟩
  obtain ⟨f', ns', hfi', h⟩ := reqDelete_onRequest_spec px req
  obtain ⟨rfl, rfl⟩ : f = f' ∧ ns = ns' := by simpa [hfi] using hfi'
  obtain ⟨evs, hev, -⟩ := (if_neg hn).mp h
  obtain ⟨rest, hrest⟩ := complete_events (x := reqDelete.onRequest px req) fun _ =>
    reqDelete.onFinished error
  exact ⟨evs ++ rest, by simp [Handler.run_delete, hrest, hev, ha]⟩

/-- A delete of `/delete/5/f` refused by the check. -/
theorem auth_challenge_first_sample :
    ∃ evs, (Handler.delete.run (Proxy.sample (.constant [groupFive]) [defaultNamespace] 1 false)
      (.ofUrl "/delete/5/f" (by decide)) "" [] ⟨0, ""⟩ 0).events =
        .log .info ("Delete: handle request: " ++ "/delete/5/f") :: .reply (challenge "default") ::
          evs :=
  (auth_challenge_first _ _ "" [] ⟨0, ""⟩ 0).1 "5/f" defaultNamespace (by decide) (by decide)
    (by decide)

/-- `/upload/f` refused by the credentials check: the upload writes the file
    and replies `200`. -/
theorem run_upload_unauthorized_writes :
    (Proxy.sample (.constant [groupFive]) [defaultNamespace] 1 false).getFileInfo
        (.ofUrl "/upload/f" (by decide)) = .ok ("f", defaultNamespace) ∧
      (Proxy.sample (.constant [groupFive]) [defaultNamespace] 1 false).checkBasicAuth
        defaultNamespace.name defaultNamespace.authKey
        ((HttpRequest.ofUrl "/upload/f" (by decide)).header "Authorization") = false ∧
      issued (Handler.upload.run (Proxy.sample (.constant [groupFive]) [defaultNamespace] 1 false)
        (.ofUrl "/upload/f" (by decide)) "p" [] ⟨0, ""⟩ 0).events =
        [({ Proxy.getSession with groups := [groupFive], errorHandler := .removeOnFail },
          .writeData ⟨"f"⟩ (pack (.ofData "p")) 0 0)] ∧
      (replies (Handler.upload.run (Proxy.sample (.constant [groupFive]) [defaultNamespace] 1 false)
        (.ofUrl "/upload/f" (by decide)) "p" [] ⟨0, ""⟩ 0).events).map (·.code) = [200] := by
  decide

/-- Get, download info and delete issue their operation only on a session
    with groups; delete, only for a resolved namespace and with `die_limit`
    live states. -/
theorem run_issued_preconditions (h : Handler) (hh : h = .get ∨ h = .downloadInfo ∨ h = .delete)
    (s : Session) (op : StorageOp)
    (hs : (s, op) ∈ issued (h.run px req buffer results error spentMs).events) :
    s.groups ≠ [] ∧ (h = .delete →
      (∃ f ns, px.getFileInfo req = .ok (f, ns) ∧ ns.name ≠ "") ∧ px.dieLimit ≤ px.node.stateNum) := by
  rcases hh with rfl | rfl | rfl
  · rw [Handler.run_get, complete_issued _ fun _ => (reqGet_onFinished_completes ..).issued_nil] at hs
    exact ⟨(reqGet_onRequest_issued hs).1, by simp⟩
  · rw [Handler.run_downloadInfo, complete_issued _ fun _ =>
      (reqDownloadInfo_onFinished_replied px results error).choose_spec.completes.issued_nil] at hs
    obtain ⟨s', k, -, hg, rfl, -⟩ := reqDownloadInfo_onRequest_issued hs
    exact ⟨hg, by simp⟩
  · rw [Handler.run_delete, complete_issued _ fun _ =>
      (reqDelete_onFinished_completes error).issued_nil] at hs
    obtain ⟨f, ns, tok, g, filename, hfi, hn, -, -, -, hgr, hst, rfl, -⟩ :=
      reqDelete_onRequest_issued hs
    exact ⟨hgr, fun _ => ⟨⟨f, ns, hfi, hn⟩, hst⟩⟩

/-- The removal `/delete/5/f` issues. -/
theorem run_issued_preconditions_delete :
    [groupFive, groupFive] ≠ [] ∧ (Handler.delete = .delete →
      (∃ f ns, (Proxy.sample (.constant [groupFive]) [defaultNamespace] 1 true).getFileInfo
        (.ofUrl "/delete/5/f" (by decide)) = .ok (f, ns) ∧ ns.name ≠ "") ∧
      (Proxy.sample (.constant [groupFive]) [defaultNamespace] 1 true).dieLimit ≤
        (Proxy.sample (.constant [groupFive]) [defaultNamespace] 1 true).node.stateNum) :=
  run_issued_preconditions _ _ "" [] ⟨0, ""⟩ 0 .delete (.inr (.inr rfl))
    { Proxy.getSession with groups := [groupFive, groupFive], filter := .all } (.remove ⟨"default.f"⟩)
    (by decide)

/-- `/upload/f` when the balancer has no groups for the namespace: the
    dispatch issues the write on a session without groups, and replies
    nothing. -/
theorem run_upload_no_groups_writes :
    (Proxy.sample (.constant []) [defaultNamespace] 1 true).groupsForUpload defaultNamespace = [] ∧
      replies (reqUpload.onRequest (Proxy.sample (.constant []) [defaultNamespace] 1 true)
        (.ofUrl "/upload/f" (by decide)) "p").events = [] ∧
      issued (reqUpload.onRequest (Proxy.sample (.constant []) [defaultNamespace] 1 true)
        (.ofUrl "/upload/f" (by decide)) "p").events =
        [({ Proxy.getSession with groups := [], errorHandler := .removeOnFail },
          .writeData ⟨"f"⟩ (pack (.ofData "p")) 0 0)] := by
  decide

/-- A `200` to an upload carries the `<post>` document of the write its
    dispatch issued: under the key of the file name, in the balancer's groups,
    with the least of them in its locator. -/
theorem run_upload_ok {r : HttpReply}
    (h : r ∈ replies (Handler.upload.run px req buffer results error spentMs).events)
    (hc : r.code = 200) :
    ∃ f ns ctx op g, px.getFileInfo req = .ok (f, ns) ∧ ns.name ≠ "" ∧
      issued (Handler.upload.run px req buffer results error spentMs).events = [(ctx.session, op)] ∧
      op.written = some (⟨f⟩, ctx.content) ∧ ctx.key = ⟨f⟩ ∧
      ctx.session.groups = px.groupsForUpload ns ∧ minElement ctx.session.groups = some g ∧
      r.body = postDocument px ctx results g := by
  obtain ⟨f, ns, hfi, hs⟩ := reqUpload_onRequest_spec px req buffer
  have answered (c : Nat) (hc' : c ≠ 200)
      (ha : (reqUpload.onRequest px req buffer).Answered (.ofCode c)) : False := by
    simp only [Handler.run_upload, (complete_answered _ ha).1, List.mem_singleton] at h
    exact hc' (by simpa [h, HttpReply.ofCode] using hc)
  by_cases hn : ns.name = ""
  · exact (answered 400 (by decide) ((if_pos hn).mp hs)).elim
  by_cases hst : px.node.stateNum < px.dieLimit
  · exact (answered 500 (by decide) (by rwa [if_neg hn, if_pos hst] at hs)).elim
  rw [if_neg hn, if_neg hst] at hs
  obtain hs | ⟨ctx, op, hd, hop, hkey, hgroups, -⟩ := hs
  · exact (answered 500 (by decide) hs).elim
  obtain ⟨hrep, hiss, -⟩ := complete_dispatched
    (fun ctx => reqUpload.onFinished px ctx results error spentMs) hd
  rw [Handler.run_upload, hrep] at h
  obtain ⟨g, hg, hb⟩ := reqUpload_onFinished_ok h hc
  exact ⟨f, ns, ctx, op, g, hfi, hn, by rw [Handler.run_upload, hiss,
    (reqUpload_onFinished_completes ..).issued_nil], hop, hkey, hgroups, hg, hb⟩

/-- Only upload and delete change what the storage holds: every operation a
    run of get, download info, stat log, ping or cache issues is a read. -/
theorem run_reads_only (h : Handler) (hh : h ≠ .upload ∧ h ≠ .delete) (s : Session)
    (op : StorageOp) (hs : (s, op) ∈ issued (h.run px req buffer results error spentMs).events) :
    op.isMutation = false := by
  cases h with
  | upload => exact absurd rfl hh.1
  | delete => exact absurd rfl hh.2
  | get =>
    rw [Handler.run_get, complete_issued _ fun _ => (reqGet_onFinished_completes ..).issued_nil] at hs
    obtain ⟨-, -, -, _, _, rfl⟩ := reqGet_onRequest_issued hs
    rfl
  | downloadInfo =>
    rw [Handler.run_downloadInfo, complete_issued _ fun _ =>
      (reqDownloadInfo_onFinished_replied px results error).choose_spec.completes.issued_nil] at hs
    obtain ⟨-, -, -, -, -, rfl⟩ := reqDownloadInfo_onRequest_issued hs
    rfl
  | statLog =>
    rw [Handler.run_statLog, complete_issued _ fun _ =>
      (reqStatLog_onFinished_replied px results error).choose_spec.completes.issued_nil,
      (reqStatLog_onRequest_dispatched px req).2.1] at hs
    obtain ⟨-, rfl⟩ := Prod.mk.inj (List.mem_singleton.mp hs)
    rfl
  | ping => simp [Handler.run_ping, (reqPing_onRequest_replied px req).2.1] at hs
  | cache => simp [Handler.run_cache, (reqCache_onRequest_replied px req).2.1] at hs

/-- The read `/get/5/f` issues. -/
theorem run_reads_only_get :
    (Handler.get ≠ .upload ∧ Handler.get ≠ .delete) ∧ (StorageOp.readData ⟨"f"⟩ 0 0).isMutation = false :=
  ⟨by decide, run_reads_only (Proxy.sample (.constant [groupFive]) [defaultNamespace] 1 true)
    (.ofUrl "/get/5/f" (by decide)) "" [] ⟨0, ""⟩ 0 .get (by decide)
    { Proxy.getSession with groups := [groupFive, groupFive] } (.readData ⟨"f"⟩ 0 0) (by decide)⟩

/-- The health check and the storage's guard agree: when `ping` answers `500`
    (fewer than `die_limit` live states), no upload and no delete reaches the
    storage. Gets and download infos do not read the die limit: they are
    served as under any other. -/
theorem ping_failing_blocks_mutations (reqP : HttpRequest)
    (hping : replies (reqPing.onRequest px reqP).events = [.ofCode 500]) :
    issued (Handler.upload.run px req buffer results error spentMs).events = [] ∧
      issued (Handler.delete.run px req buffer results error spentMs).events = [] ∧
      ∀ d, Handler.get.run { px with dieLimit := d } req buffer results error spentMs =
          Handler.get.run px req buffer results error spentMs ∧
        Handler.downloadInfo.run { px with dieLimit := d } req buffer results error spentMs =
          Handler.downloadInfo.run px req buffer results error spentMs := by
  have hst : px.node.stateNum < px.dieLimit := by
    by_contra hn
    have h := (reqPing_onRequest_replied px reqP).1
    rw [hping, if_neg hn] at h
    simp [HttpReply.ofCode] at h
  refine ⟨?_, ?_, fun _ => ⟨rfl, rfl⟩⟩
  · obtain ⟨f, ns, -, hs⟩ := reqUpload_onRequest_spec px req buffer
    by_cases hn : ns.name = ""
    · exact (complete_answered _ ((if_pos hn).mp hs)).2.1
    · exact (complete_answered _ (by rwa [if_neg hn, if_pos hst] at hs)).2.1
  · rw [Handler.run_delete, complete_issued _ fun _ => (reqDelete_onFinished_completes error).issued_nil]
    refine List.eq_nil_iff_forall_not_mem.mpr fun ⟨s, op⟩ h => ?_
    obtain ⟨-, -, -, -, -, -, -, -, -, -, -, hle, -⟩ := reqDelete_onRequest_issued h
    exact absurd hst (not_lt.mpr hle)

/-- A proxy with no live state: `/ping` answers `500`, and neither
    `/upload/f` nor `/delete/5/f` reaches the storage. -/
theorem ping_failing_blocks_mutations_down :
    replies (reqPing.onRequest (Proxy.sample (.constant [groupFive]) [defaultNamespace] 0 true)
        (.ofUrl "/ping" (by decide))).events = [.ofCode 500] ∧
      issued (Handler.upload.run (Proxy.sample (.constant [groupFive]) [defaultNamespace] 0 true)
        (.ofUrl "/upload/f" (by decide)) "p" [] ⟨0, ""⟩ 0).events = [] ∧
      issued (Handler.delete.run (Proxy.sample (.constant [groupFive]) [defaultNamespace] 0 true)
        (.ofUrl "/delete/5/f" (by decide)) "p" [] ⟨0, ""⟩ 0).events = [] :=
  have hping : replies (reqPing.onRequest (Proxy.sample (.constant [groupFive]) [defaultNamespace] 0 true)
      (.ofUrl "/ping" (by decide))).events = [.ofCode 500] := by decide
  ⟨hping, (ping_failing_blocks_mutations _ (.ofUrl "/upload/f" (by decide)) "p" [] ⟨0, ""⟩ 0 _ hping).1,
    (ping_failing_blocks_mutations _ (.ofUrl "/delete/5/f" (by decide)) "p" [] ⟨0, ""⟩ 0 _ hping).2.1⟩

end Runs

/-! ## Locators

The upload's reply names the object `/<group>/<name>`. The get and download
info of that locator dispatch on the key the upload wrote, in the groups the
balancer gives for the group and the name; delete is routed only when the
upload's URL had no namespace suffix, and then removes another key,
`default.<name>`. -/

theorem path_of_not_mem {req : HttpRequest} (h : '?' ∉ req.url.data) : req.path = req.url := by
  simp only [HttpRequest.path]
  rw [List.takeWhile_eq_self_iff.mpr fun c hc => by simpa using ne_of_mem_of_not_mem hc h]

/-- `prepare_session` of `/<verb>/<group>/<name>`: the balancer's groups of the
    group and the name, and the name as the key. -/
theorem prepareSession_locator (px : Proxy) {req : HttpRequest} {v f : String} {g : CInt}
    (hurl : req.url = "/" ++ v ++ "/" ++ toString g ++ "/" ++ f) (hv : '/' ∉ v.data)
    (hf : '?' ∉ f.data) :
    (px.prepareSession req).result = .ok ({ Proxy.getSession with
      groups := px.mastermind.getSymmetricGroups g ++ px.mastermind.getCacheGroups f }, ⟨f⟩) := by
  rw [prepareSession_of_eq (q := "") (by rw [String.append_empty]; exact hurl) hv
    (not_mem_toString (by decide) (by decide) g) hf (.inl rfl)]
  simp [tokenGroups, lexicalCastInt_toString]

/-- What `/delete/<group>/<name>` issues: the removal of `default.<name>`,
    from the proxy's groups of the group and the name, for a group that is
    not negative (its `-` would leave the namespace empty), with `default`
    registered, groups, and `die_limit` live states. -/
theorem reqDelete_locator_issued (px : Proxy) {req : HttpRequest} {f : String} {g : CInt}
    (hurl : req.url = "/delete/" ++ toString g ++ "/" ++ f) (hf : '?' ∉ f.data) {s : Session}
    {op : StorageOp} (h : (s, op) ∈ issued (reqDelete.onRequest px req).events) :
    (0 ≤ g.val ∧ (px.namespaces "default").isSome ∧ px.getGroups g f ≠ [] ∧
      px.dieLimit ≤ px.node.stateNum) ∧
      s = { Proxy.getSession with groups := px.getGroups g f, filter := .all } ∧
      op = .remove ⟨"default." ++ f⟩ := by
  obtain ⟨f₀, ns, tok, g', filename, hfi, hn, hs, ht, hcast, hgr, hst, rfl, rfl⟩ :=
    reqDelete_onRequest_issued h
  have hurl' : req.url = "/" ++ "delete" ++ "/" ++ (toString g ++ "/" ++ f) := by
    rw [hurl]; simp [String.append_assoc]
  by_cases hd : '-' ∈ (toString g ++ "/" ++ f).data
  · -- the namespace is empty, and delete stops before it removes anything
    obtain ⟨fn, hname⟩ := getFilename_dash_after_slash hurl' (by decide) (by decide) hd
    rw [Proxy.getFileInfo_of_getFilename hname] at hfi
    obtain ⟨-, rfl⟩ := Prod.mk.inj (Except.ok.inj hfi)
    exact absurd (px.name_of_getD _ hn) hn
  have hslash : '/' ∉ (toString g).data := not_mem_toString (by decide) (by decide) g
  have hname := getFilename_default (t := "") (by rw [hurl', String.append_empty]) (by decide)
    (by decide) (by simp [not_mem_toString (c := '?') (by decide) (by decide) g, hf]) hd
    (.inl rfl) (by decide)
  rw [Proxy.getFileInfo_of_getFilename hname] at hfi
  obtain ⟨rfl, rfl⟩ := Prod.mk.inj (Except.ok.inj hfi)
  obtain ⟨htok, hfile⟩ := append_cons_inj_of_not_mem
    (hs.symm.trans (by simp : (toString g ++ "/" ++ f).data = (toString g).data ++ '/' :: f.data))
    ht hslash
  obtain rfl : tok = toString g := String.ext htok
  obtain rfl : filename = f := String.ext hfile
  obtain rfl : g' = g := by simpa [lexicalCastInt_toString] using hcast.symm
  refine ⟨⟨Int.not_lt.mp fun hneg => hd ?_, ?_, hgr, hst⟩, rfl, by simp [px.name_of_getD _ hn]⟩
  · exact List.mem_append_left _ (List.mem_append_left _ (minus_mem_toString hneg))
  · cases hns : px.namespaces "default" with
    | none => simp [hns, Namespace.empty] at hn
    | some _ => rfl

/-- `/delete/<group>/<name>`, for a name free of `?` and `-`: the dispatch
    removes `default.<name>`, from the proxy's groups of the group and the
    name, exactly when the group is not negative, the namespace `default` is
    registered, those groups are not empty and `die_limit` states are live;
    otherwise it issues nothing. -/
theorem reqDelete_locator (px : Proxy) {req : HttpRequest} {f : String} {g : CInt}
    (hurl : req.url = "/delete/" ++ toString g ++ "/" ++ f) (hf : '?' ∉ f.data)
    (hf' : '-' ∉ f.data) :
    issued (reqDelete.onRequest px req).events =
      if 0 ≤ g.val ∧ (px.namespaces "default").isSome ∧ px.getGroups g f ≠ [] ∧
          px.dieLimit ≤ px.node.stateNum then
        [({ Proxy.getSession with groups := px.getGroups g f, filter := .all },
          .remove ⟨"default." ++ f⟩)]
      else [] := by
  split_ifs with hc
  · obtain ⟨hg, hns, hgr, hst⟩ := hc
    obtain ⟨ns, hns⟩ := Option.isSome_iff_exists.mp hns
    have hdash : '-' ∉ (toString g).data := fun h => by
      rcases isDigit_of_mem_toString h with h | ⟨h, -⟩
      · exact absurd h (by decide)
      · omega
    have hurl' : req.url = "/" ++ "delete" ++ "/" ++ (toString g ++ "/" ++ f) := by
      rw [hurl]; simp [String.append_assoc]
    have hname := getFilename_default (t := "") (by rw [hurl', String.append_empty]) (by decide)
      (by decide) (by simp [not_mem_toString (c := '?') (by decide) (by decide) g, hf])
      (by simp [hdash, hf']) (.inl rfl) (by decide)
    have hfi : px.getFileInfo req = _ := Proxy.getFileInfo_of_getFilename hname
    rw [hns, Option.getD_some] at hfi
    rw [reqDelete_onRequest_removes hfi (by simp [px.namespaces_name _ _ hns])
      (by simp : (toString g ++ "/" ++ f).data = (toString g).data ++ '/' :: f.data)
      (not_mem_toString (by decide) (by decide) g) (lexicalCastInt_toString g) hgr hst,
      px.namespaces_name _ _ hns]
    rfl
  · exact List.eq_nil_iff_forall_not_mem.mpr fun ⟨s, op⟩ h =>
      hc (reqDelete_locator_issued px hurl hf h).1

/-- The locator `/<g>/<f>` of a `200` to `/upload<s>/<f>`, for a namespace
    suffix `s`: the upload wrote the key `f`, in groups whose least is `g`.
    `/get/<g>/<f>` and `/download-info/<g>/<f>` are routed to get and download
    info, which read and look up the key `f`, in the balancer's groups of `g`
    and `f` when it has some (and answer `404` when it has none).
    `/delete<s>/<g>/<f>` is routed to delete only when `s` is empty, and then
    removes `default.<f>`, never `f`, when `g` is not negative, `default` is
    registered, the groups are not empty and enough states are live. -/
theorem locator_addresses (px : Proxy) (s f buffer : String) (results : List ResultEntry)
    (error : ErrorInfo) (spentMs : Nat) (hs : s = "" ∨ ∃ n, s = "-" ++ n ∧ '/' ∉ n.data ∧ '?' ∉ n.data)
    (hf : '?' ∉ f.data) (reqU : HttpRequest) (hU : reqU.url = "/upload" ++ s ++ "/" ++ f)
    (r : HttpReply) (hr : r ∈ replies (Handler.upload.run px reqU buffer results error spentMs).events)
    (hc : r.code = 200) :
    route reqU.path = some .upload ∧
      ∃ ctx op g, issued (Handler.upload.run px reqU buffer results error spentMs).events =
          [(ctx.session, op)] ∧ op.written = some (⟨f⟩, ctx.content) ∧ ctx.key = ⟨f⟩ ∧
        minElement ctx.session.groups = some g ∧ r.body = postDocument px ctx results g ∧
        (∀ reqG : HttpRequest, reqG.url = "/get/" ++ toString g ++ "/" ++ f → reqG.query = ⟨[]⟩ →
          route reqG.path = some .get ∧
          if px.mastermind.getSymmetricGroups g ++ px.mastermind.getCacheGroups f = [] then
            (reqGet.onRequest px reqG).Answered (.ofCode 404)
          else (reqGet.onRequest px reqG).Dispatched { Proxy.getSession with
              groups := px.mastermind.getSymmetricGroups g ++ px.mastermind.getCacheGroups f }
            (.readData ⟨f⟩ 0 0) ⟨reqG.query, reqG.header "If-Modified-Since"⟩) ∧
        (∀ reqI : HttpRequest, reqI.url = "/download-info/" ++ toString g ++ "/" ++ f →
          route reqI.path = some .downloadInfo ∧
          if px.mastermind.getSymmetricGroups g ++ px.mastermind.getCacheGroups f = [] then
            (reqDownloadInfo.onRequest px reqI).Answered (.ofCode 404)
          else (reqDownloadInfo.onRequest px reqI).Dispatched { Proxy.getSession with
              groups := px.mastermind.getSymmetricGroups g ++ px.mastermind.getCacheGroups f,
              filter := .all } (.lookup ⟨f⟩) ()) ∧
        ∀ reqD : HttpRequest, reqD.url = "/delete" ++ s ++ "/" ++ toString g ++ "/" ++ f →
          if s = "" then route reqD.path = some .delete ∧
            issued (reqDelete.onRequest px reqD).events =
              if 0 ≤ g.val ∧ (px.namespaces "default").isSome ∧ px.getGroups g f ≠ [] ∧
                  px.dieLimit ≤ px.node.stateNum then
                [({ Proxy.getSession with groups := px.getGroups g f, filter := .all },
                  .remove ⟨"default." ++ f⟩)]
              else []
          else route reqD.path = none := by
  have hsl : '/' ∉ ("upload" ++ s).data := by
    rcases hs with rfl | ⟨n, rfl, hn, -⟩ <;> simp [*]
  obtain ⟨n, hname⟩ := getFilename_file (v := "upload" ++ s)
    (by rw [hU, show "/upload" = "/" ++ "upload" from rfl]; simp only [String.append_assoc]) hsl hf
  obtain ⟨f', ns, ctx, op, g, hfi, hns, hiss, hop, hkey, -, hg, hb⟩ :=
    run_upload_ok px reqU buffer results error spentMs hr hc
  rw [Proxy.getFileInfo_of_getFilename hname] at hfi
  obtain ⟨rfl, rfl⟩ := Prod.mk.inj (Except.ok.inj hfi)
  have hslash : '/' ∉ (toString g).data := not_mem_toString (by decide) (by decide) g
  have hquery : '?' ∉ (toString g).data := not_mem_toString (by decide) (by decide) g
  have hq : ∀ p : String, '?' ∉ p.data → '?' ∉ (p ++ toString g ++ "/" ++ f).data := fun p hp => by
    simp [hp, hquery, hf]
  refine ⟨?_, ctx, op, g, hiss, hop, hkey, hg, hb, fun reqG hG hq0 => ⟨?_, ?_⟩,
    fun reqI hI => ⟨?_, ?_⟩, fun reqD hD => ?_⟩
  · rw [path_of_not_mem (by rw [hU]; rcases hs with rfl | ⟨n, rfl, -, hn⟩ <;> simp [hf, *])]
    rw [hU]; simp [route, String.append_assoc]
  · rw [path_of_not_mem (by rw [hG]; exact hq _ (by decide)), hG]; simp [route]
  · obtain ⟨s₀, k, hk, h⟩ := reqGet_onRequest_spec px reqG
    rw [prepareSession_locator px (v := "get") (g := g) (by rw [hG]; simp [String.append_assoc])
      (by decide) hf] at hk
    obtain ⟨rfl, rfl⟩ := Prod.mk.inj (Except.ok.inj hk)
    simpa [hq0, getArg, UrlQuery.itemValue] using h
  · rw [path_of_not_mem (by rw [hI]; exact hq _ (by decide)), hI]; simp [route]
  · obtain ⟨s₀, k, hk, h⟩ := reqDownloadInfo_onRequest_spec px reqI
    rw [prepareSession_locator px (v := "download-info") (g := g)
      (by rw [hI]; simp [String.append_assoc])
      (by decide) hf] at hk
    obtain ⟨rfl, rfl⟩ := Prod.mk.inj (Except.ok.inj hk)
    exact h
  · rcases hs with rfl | ⟨n, rfl, -, hn⟩
    · have hD' : reqD.url = "/delete/" ++ toString g ++ "/" ++ f := by
        rw [hD, String.append_empty]; rfl
      -- a `-` in the name would have left the upload without a namespace
      have hdash : '-' ∉ f.data := fun hd => by
        obtain ⟨fn, hfn⟩ := getFilename_dash_after_slash (v := "upload")
          (by rw [hU, String.append_empty]; rfl) (by decide) (by decide) hd
        obtain ⟨-, rfl⟩ := Prod.mk.inj (Except.ok.inj (hname.symm.trans hfn))
        exact hns (px.name_of_getD _ hns)
      refine (if_pos rfl).mpr ⟨?_, reqDelete_locator px hD' hf hdash⟩
      rw [path_of_not_mem (by rw [hD']; exact hq _ (by decide)), hD']; simp [route]
    · refine (if_neg fun h => absurd (congrArg String.length h)
        (by simp [show "-".length = 1 from rfl])).mpr ?_
      rw [path_of_not_mem (by rw [hD]; simp [hn, hquery, hf]), hD]
      simp [route, String.ext_iff]

set_option maxRecDepth 20000 in
/-- The `200` to `/upload/f`, the balancer answering `[5]` to everything: the
    locator is `/5/f`, and `/get/5/f` reads `f` from the groups `[5, 5]`. -/
theorem locator_addresses_sample :
    (reqGet.onRequest (Proxy.sample (.constant [groupFive]) [defaultNamespace] 1 true)
      (.ofUrl "/get/5/f" (by decide))).Dispatched
      { Proxy.getSession with groups := [groupFive, groupFive] } (.readData ⟨"f"⟩ 0 0)
      ⟨⟨[]⟩, none⟩ := by
  have hrep : (⟨200, [("Content-Length", toString (postDocument
      (Proxy.sample (.constant [groupFive]) [defaultNamespace] 1 true)
      ⟨{ Proxy.getSession with groups := [groupFive], errorHandler := .removeOnFail }, ⟨"f"⟩,
        pack (.ofData "p")⟩ [] groupFive).length), ("Content-Type", "text/plain")],
      postDocument (Proxy.sample (.constant [groupFive]) [defaultNamespace] 1 true)
        ⟨{ Proxy.getSession with groups := [groupFive], errorHandler := .removeOnFail }, ⟨"f"⟩,
          pack (.ofData "p")⟩ [] groupFive⟩ : HttpReply) ∈
      replies (Handler.upload.run (Proxy.sample (.constant [groupFive]) [defaultNamespace] 1 true)
        (.ofUrl "/upload/f" (by decide)) "p" [] ⟨0, ""⟩ 0).events := by
    decide
  have hiss : issued (Handler.upload.run (Proxy.sample (.constant [groupFive]) [defaultNamespace] 1 true)
      (.ofUrl "/upload/f" (by decide)) "p" [] ⟨0, ""⟩ 0).events =
      [({ Proxy.getSession with groups := [groupFive], errorHandler := .removeOnFail },
        .writeData ⟨"f"⟩ (pack (.ofData "p")) 0 0)] := by
    decide
  obtain ⟨-, ctx, op, g, hiss', -, -, hg, -, hget, -⟩ := locator_addresses
    (Proxy.sample (.constant [groupFive]) [defaultNamespace] 1 true) "" "f" "p" [] ⟨0, ""⟩ 0
    (.inl rfl) (by decide) (.ofUrl "/upload/f" (by decide)) rfl _ hrep rfl
  obtain ⟨hs, -⟩ := Prod.mk.inj (List.cons.inj (hiss.symm.trans hiss')).1
  obtain rfl : g = groupFive := by
    rw [← hs] at hg
    exact (Option.some.inj hg).symm
  obtain ⟨-, hd⟩ := hget (.ofUrl "/get/5/f" (by decide)) rfl rfl
  exact (if_neg (by decide)).mp hd

/-- `/upload/f` into group 5 completes with `200` and the locator `/5/f`;
    `/delete/5/f` then removes `default.f`, not the key `f` the upload
    wrote. -/
theorem locator_delete_other_key :
    issued (Handler.upload.run (Proxy.sample (.constant [groupFive]) [defaultNamespace] 1 true)
        (.ofUrl "/upload/f" (by decide)) "p" [] ⟨0, ""⟩ 0).events =
        [({ Proxy.getSession with groups := [groupFive], errorHandler := .removeOnFail },
          .writeData ⟨"f"⟩ (pack (.ofData "p")) 0 0)] ∧
      (replies (Handler.upload.run (Proxy.sample (.constant [groupFive]) [defaultNamespace] 1 true)
        (.ofUrl "/upload/f" (by decide)) "p" [] ⟨0, ""⟩ 0).events).map (·.body) =
        [postDocument (Proxy.sample (.constant [groupFive]) [defaultNamespace] 1 true)
          ⟨{ Proxy.getSession with groups := [groupFive], errorHandler := .removeOnFail }, ⟨"f"⟩,
            pack (.ofData "p")⟩ [] groupFive] ∧
      issued (Handler.delete.run (Proxy.sample (.constant [groupFive]) [defaultNamespace] 1 true)
        (.ofUrl "/delete/5/f" (by decide)) "" [] ⟨0, ""⟩ 0).events =
        [({ Proxy.getSession with groups := [groupFive, groupFive], filter := .all },
          .remove ⟨"default.f"⟩)] := by
  decide

end MediastorageProxy
