import MediastorageProxy.Url

/-!
# Download info

`req_download_info`: the dispatch takes the session and key `prepare_session`
gives (404 when the session has no groups) and looks the key up in every
group, with the filter that delivers failed results too. The completion
replies 404 or 500 on a storage error; otherwise it describes the first
result without an error — the node's host name, resolved by the C library,
and the file's path — and replies 503 when every result failed.

* `reqDownloadInfo_onRequest_spec`: the dispatch answers 404, 500, or issues
  the lookup;
* `reqDownloadInfo_onFinished_replied`: the completion always replies once;
* `reqDownloadInfo_onFinished_ok`: a `200` describes the first result without
  an error.
-/

namespace MediastorageProxy

open Proc

/-- `req_download_info::on_request`, reaching the proxy's members through `ptrs`. -/
def reqDownloadInfo.onRequestWith (ptrs : Pointers) (px : Proxy) (req : HttpRequest) :
    Proc (Option Unit) :=
  catchStd "Download info request error" none do
    log .info ("Download info: handle request: " ++ req.url)
    let (session, key) ← px.prepareSessionWith ptrs req
    if session.groups.isEmpty then
      sendReply 404
      return none
    let session := { session with filter := .all }
    log .debug "Download info: looking up"
    issue session (.lookup key)
    return some ()

/-- `req_download_info::on_request` on a proxy whose members are set. -/
def reqDownloadInfo.onRequest (px : Proxy) (req : HttpRequest) : Proc (Option Unit) :=
  reqDownloadInfo.onRequestWith .set px req

/-- The body describing one copy of a file: its node's host and its path. The
    region is always `-1`. -/
def downloadInfoDocument (host path : String) : String :=
  "<?xml version=\"1.0\" encoding=\"utf-8\"?>" ++ "<download-info>" ++ "<host>" ++ host ++
    "</host>" ++ "<path>" ++ path ++ "</path>" ++ "<region>" ++ "-1" ++ "</region>" ++
    "</download-info>"

/-- `req_download_info::on_finished`. The loop over the results stops at the
    first without an error; the time it reads is not used. -/
def reqDownloadInfo.onFinished (px : Proxy) (slr : List ResultEntry) (error : ErrorInfo) :
    Proc Unit :=
  catchStd "Download info finish error" () do
    log .debug "Download info: prepare response"
    if error.isSet then
      log .error error.message
      sendReply (if error.code = enoent then 404 else 500)
      return
    match slr.find? (!·.hasError) with
    | some it =>
      let entry := px.parseLookup it
      let host ← lift (entry.host px.libc)
      let str := downloadInfoDocument host entry.path
      sendReplyWith 200 [("Content-Length", toString str.length), ("Content-Type", "text/xml")] str
    | none =>
      log .debug "Download info: sending response"
      sendReply 503

theorem reqDownloadInfo_onRequest_spec (px : Proxy) (req : HttpRequest) :
    ∃ s k, (px.prepareSession req).result = .ok (s, k) ∧
      if s.groups = [] then (reqDownloadInfo.onRequest px req).Answered (.ofCode 404)
      else (reqDownloadInfo.onRequest px req).Dispatched { s with filter := .all } (.lookup k) () := by
  obtain ⟨g, f, -, hr, hrep, hiss⟩ := prepareSession_spec px req
  refine ⟨_, _, hr, ?_⟩
  rw [Proxy.prepareSession] at hr hrep hiss
  by_cases hg : (tokenGroups px.mastermind g f).getD [] = [] <;>
  simp [reqDownloadInfo.onRequest, reqDownloadInfo.onRequestWith, bind_of_ok hr, hg, hiss, hrep, Answered, Dispatched]

/-- The dispatch looks up, if anything, the key `prepare_session` gives, with
    its session's groups. -/
theorem reqDownloadInfo_onRequest_issued {px : Proxy} {req : HttpRequest} {s : Session}
    {op : StorageOp} (h : (s, op) ∈ issued (reqDownloadInfo.onRequest px req).events) :
    ∃ s' k, (px.prepareSession req).result = .ok (s', k) ∧ s'.groups ≠ [] ∧
      s = { s' with filter := .all } ∧ op = .lookup k := by
  obtain ⟨s', k, hr, hd⟩ := reqDownloadInfo_onRequest_spec px req
  split_ifs at hd with hg
  · simp [hd.2.1] at h
  · simp only [hd.2.1, List.mem_singleton, Prod.mk.injEq] at h
    exact ⟨s', k, hr, hg, h.1, h.2⟩

theorem reqDownloadInfo_onFinished_replied (px : Proxy) (slr : List ResultEntry)
    (error : ErrorInfo) : ∃ r, (reqDownloadInfo.onFinished px slr error).Replied r := by
  cases herr : error.isSet
  · cases hit : slr.find? (!·.hasError) with
    | none => exact ⟨.ofCode 503, by simp [reqDownloadInfo.onFinished, herr, hit, Replied]⟩
    | some it =>
      cases hh : (px.parseLookup it).host px.libc with
      | ok host =>
        let str := downloadInfoDocument host (px.parseLookup it).path
        exact ⟨⟨200, [("Content-Length", toString str.length), ("Content-Type", "text/xml")], str⟩,
          by simp [reqDownloadInfo.onFinished, herr, hit, hh, Replied, str]⟩
      | error e =>
        exact ⟨.ofCode 500, by
          simp [reqDownloadInfo.onFinished, herr, hit, hh, LookupResult.host_eq_error hh, Replied]⟩
  · exact ⟨.ofCode (if error.code = enoent then 404 else 500),
      by simp [reqDownloadInfo.onFinished, herr, Replied]⟩

/-- A `200` from the completion carries the document of the first result
    without an error, with its node's resolved host. -/
theorem reqDownloadInfo_onFinished_ok {px : Proxy} {slr : List ResultEntry} {error : ErrorInfo}
    {r : HttpReply} (h : r ∈ replies (reqDownloadInfo.onFinished px slr error).events)
    (hc : r.code = 200) :
    ∃ e host, slr.find? (!·.hasError) = some e ∧ (px.parseLookup e).host px.libc = .ok host ∧
      r.body = downloadInfoDocument host (px.parseLookup e).path := by
  cases herr : error.isSet
  · cases hit : slr.find? (!·.hasError) with
    | none =>
      simp [reqDownloadInfo.onFinished, herr, hit] at h
      simp [h, HttpReply.ofCode] at hc
    | some it =>
      cases hh : (px.parseLookup it).host px.libc with
      | ok host =>
        simp [reqDownloadInfo.onFinished, herr, hit, hh] at h
        exact ⟨it, host, rfl, hh, by rw [h]⟩
      | error e =>
        simp [reqDownloadInfo.onFinished, herr, hit, hh, LookupResult.host_eq_error hh] at h
        simp [h, HttpReply.ofCode] at hc
  · simp [reqDownloadInfo.onFinished, herr] at h
    split at h <;> simp [h, HttpReply.ofCode] at hc

end MediastorageProxy
