import MediastorageProxy.Upload

/-!
# Get

`req_get`: the dispatch takes the session and key `prepare_session` gives
(404 when the session has no groups) and issues a read at the query's
`offset` and `size`. The completion replies 404 or 500 on a storage error;
otherwise it unpacks the first result's data as a data container — with
embeds when the query asks for them or the stored user flags carry
`UF_EMBEDS` — and, when a timestamp is embedded, formats it with `gmtime_r`
and `strftime`: 304 when it equals the request's `If-Modified-Since`, else a
`Last-Modified` header. The body is the container's payload.

* `reqGet_onRequest_spec`: the dispatch answers 404 or 500, or issues the read;
* `reqGet_onFinished_completes`: the completion replies once, or meets
  undefined behaviour: `front()` of no results, or `strftime` of the `NULL`
  that `gmtime_r` returns for a year beyond `tm_year`;
* `reqGet_onFinished_conditional`: `If-Modified-Since` turns the `200` into a
  bare `304` exactly when it is the reply's `Last-Modified`, and otherwise
  changes nothing;
* `reqGet_returns_uploaded_payload`: what an upload stored comes back as the
  payload when the upload or the get asks for embeds, and as the whole packed
  container when neither does.
-/

namespace MediastorageProxy

open Proc

/-- What the get request object holds between dispatch and completion: the
    query (`m_query_list`) and the request's `If-Modified-Since` header,
    bound into the completion. -/
structure GetContext where
  query : UrlQuery
  ifModifiedSince : Option String
  deriving DecidableEq, Repr

/-- `req_get::on_request`, reaching the proxy's members through `ptrs`. -/
def reqGet.onRequestWith (ptrs : Pointers) (px : Proxy) (req : HttpRequest) :
    Proc (Option GetContext) :=
  catchStd "Get request error" none do
    log .info ("Get: handle request: " ++ req.url)
    let (session, key) ← px.prepareSessionWith ptrs req
    if session.groups.isEmpty then
      sendReply 404
      return none
    let queryList := req.query
    let offset ← lift (getArg lexicalCastUInt64 queryList "offset" 0)
    let size ← lift (getArg lexicalCastUInt64 queryList "size" 0)
    log .debug "Get: reading data"
    issue session (.readData key offset size)
    return some ⟨queryList, req.header "If-Modified-Since"⟩

/-- `req_get::on_request` on a proxy whose members are set. -/
def reqGet.onRequest (px : Proxy) (req : HttpRequest) : Proc (Option GetContext) :=
  reqGet.onRequestWith .set px req

/-- Whether the completion unpacks a result with embeds: the query asks for
    them, or the stored user flags carry `UF_EMBEDS`. -/
def embedsWanted (q : UrlQuery) (userFlags : UInt64) : Bool :=
  q.hasItem "embed" || q.hasItem "embed_timestamp" || (userFlags &&& ufEmbeds) != 0

/-- `req_get::on_finished`. -/
def reqGet.onFinished (px : Proxy) (ctx : GetContext) (srr : List ResultEntry)
    (error : ErrorInfo) : Proc Unit :=
  catchStd "Get finish error" () do
    log .debug "Get: prepare response"
    if error.isSet then
      log .error error.message
      sendReply (if error.code = enoent then 404 else 500)
      return
    let rr ← match srr.head? with
      | some rr => pure rr
      | none => undefined "front() of an empty result"
    let dc ← lift (unpack rr.file (embedsWanted ctx.query rr.userFlags))
    let lastModified ← match dc.getTimestamp with
      | some ts => do
        let tm ← match gmtimeR (timeT ts.tvSec) with
          | some tm => pure tm
          | none => undefined "strftime of the null tm gmtime_r returned"
        pure (some (px.libc.strftime tm))
      | none => pure none
    if lastModified.isSome && ctx.ifModifiedSince == lastModified then
      sendReply 304
      return
    let resStr := dc.data
    log .debug "Get: sending response"
    sendReplyWith 200 (lastModified.toList.map (("Last-Modified", ·)) ++
      [("Content-Length", toString resStr.length), ("Content-Type", "text/plain")]) resStr

theorem reqGet_onRequest_spec (px : Proxy) (req : HttpRequest) :
    ∃ s k, (px.prepareSession req).result = .ok (s, k) ∧
      if s.groups = [] then (reqGet.onRequest px req).Answered (.ofCode 404)
      else match getArg lexicalCastUInt64 req.query "offset" 0,
          getArg lexicalCastUInt64 req.query "size" 0 with
        | .ok offset, .ok size => (reqGet.onRequest px req).Dispatched s (.readData k offset size)
            ⟨req.query, req.header "If-Modified-Since"⟩
        | _, _ => (reqGet.onRequest px req).Answered (.ofCode 500)
    := by
  obtain ⟨g, f, h, hr, hrep, hiss⟩ := prepareSession_spec px req
  refine ⟨_, _, hr, ?_⟩
  rw [Proxy.prepareSession] at hr hrep hiss
  by_cases hg : (tokenGroups px.mastermind g f).getD [] = [] <;>
  rcases getArg_cases req.query "offset" 0 with ⟨o, ho⟩ | ho <;>
  rcases getArg_cases req.query "size" 0 with ⟨z, hz⟩ | hz <;>
  simp [reqGet.onRequest, reqGet.onRequestWith, bind_of_ok hr, hg, ho, hz, hiss, hrep, Answered, Dispatched,
    badLexicalCast]

/-- The dispatch reads, if anything, with the session and the key
    `prepare_session` gives. -/
theorem reqGet_onRequest_issued {px : Proxy} {req : HttpRequest} {s : Session} {op : StorageOp}
    (h : (s, op) ∈ issued (reqGet.onRequest px req).events) :
    s.groups ≠ [] ∧ ∃ k, (px.prepareSession req).result = .ok (s, k) ∧ ∃ o z, op = .readData k o z := by
  obtain ⟨s', k, hr, hd⟩ := reqGet_onRequest_spec px req
  split_ifs at hd with hg
  · simp [hd.2.1] at h
  split at hd
  · simp only [hd.2.1, List.mem_singleton, Prod.mk.injEq] at h
    obtain ⟨rfl, rfl⟩ := h
    exact ⟨hg, k, hr, _, _, rfl⟩
  · simp [hd.2.1] at h

/-! ## Completion -/

section Completion

variable (px : Proxy) (ctx : GetContext) (srr : List ResultEntry) (rr : ResultEntry)
  (rest : List ResultEntry) (error : ErrorInfo)

theorem reqGet_onFinished_error (herr : error.isSet = true) :
    (reqGet.onFinished px ctx srr error).Replied
      (.ofCode (if error.code = enoent then 404 else 500)) := by
  simp [reqGet.onFinished, herr, Replied]

theorem reqGet_onFinished_empty (herr : error.isSet = false) :
    ∃ w, (reqGet.onFinished px ctx [] error).result = .error (.undefined w) ∧
      replies (reqGet.onFinished px ctx [] error).events = [] ∧
      issued (reqGet.onFinished px ctx [] error).events = [] := by
  simp [reqGet.onFinished, herr]

/-- A stored container that unpacks: the reply is `304` — only when a
    timestamp is embedded — or `200` with the container's payload, unless
    `gmtime_r` fails on the timestamp. -/
theorem reqGet_onFinished_of_unpack {dc : DataContainer} (herr : error.isSet = false)
    (hdc : unpack rr.file (embedsWanted ctx.query rr.userFlags) = .ok dc)
    (hts : ∀ ts, dc.getTimestamp = some ts → (gmtimeR (timeT ts.tvSec)).isSome) :
    ∃ r, (reqGet.onFinished px ctx (rr :: rest) error).Replied r ∧
      (r = .ofCode 304 ∧ dc.getTimestamp.isSome ∨ r.code = 200 ∧ r.body = dc.data) := by
  cases hg : dc.getTimestamp with
  | none =>
    exact ⟨⟨200, [("Content-Length", toString dc.data.length), ("Content-Type", "text/plain")],
      dc.data⟩, by simp [reqGet.onFinished, herr, hdc, hg, Replied], .inr ⟨rfl, rfl⟩⟩
  | some ts =>
    obtain ⟨tm, htm⟩ := Option.isSome_iff_exists.mp (hts ts hg)
    by_cases hims : ctx.ifModifiedSince = some (px.libc.strftime tm)
    · exact ⟨_, by simp [reqGet.onFinished, herr, hdc, hg, htm, hims, Replied], .inl ⟨rfl, rfl⟩⟩
    · exact ⟨⟨200, [("Last-Modified", px.libc.strftime tm),
        ("Content-Length", toString dc.data.length), ("Content-Type", "text/plain")], dc.data⟩,
        by simp [reqGet.onFinished, herr, hdc, hg, htm, hims, Replied], .inr ⟨rfl, rfl⟩⟩

/-- `gmtime_r` fails on the embedded timestamp: `strftime` is handed `NULL`. -/
theorem reqGet_onFinished_gmtime_null {dc : DataContainer} {t : Timespec}
    (herr : error.isSet = false)
    (hdc : unpack rr.file (embedsWanted ctx.query rr.userFlags) = .ok dc)
    (hts : dc.getTimestamp = some t) (hnull : gmtimeR (timeT t.tvSec) = none) :
    ∃ w, (reqGet.onFinished px ctx (rr :: rest) error).result = .error (.undefined w) ∧
      replies (reqGet.onFinished px ctx (rr :: rest) error).events = [] := by
  simp [reqGet.onFinished, herr, hdc, hts, hnull]

theorem reqGet_onFinished_completes :
    (reqGet.onFinished px ctx srr error).Completes := by
  cases herr : error.isSet
  · cases srr with
    | nil => exact .inr (by simpa using reqGet_onFinished_empty px ctx error herr)
    | cons rr rest =>
      cases hdc : unpack rr.file (embedsWanted ctx.query rr.userFlags) with
      | error e => cases e <;> simp [reqGet.onFinished, herr, hdc, Completes, Replied]
      | ok dc =>
        cases hg : dc.getTimestamp with
        | none =>
          obtain ⟨r, hr, -⟩ := reqGet_onFinished_of_unpack px ctx rr rest error herr hdc (by simp [hg])
          exact .inl ⟨r, hr⟩
        | some ts =>
          cases htm : gmtimeR (timeT ts.tvSec) with
          | none =>
            obtain ⟨w, hw, hrep⟩ := reqGet_onFinished_gmtime_null px ctx rr rest error herr hdc hg htm
            exact .inr ⟨w, hw, hrep, by simp [reqGet.onFinished, herr, hdc, hg, htm]⟩
          | some tm =>
            obtain ⟨r, hr, -⟩ := reqGet_onFinished_of_unpack px ctx rr rest error herr hdc
              (by simp [hg, htm])
            exact .inl ⟨r, hr⟩
  · exact .inl ⟨_, reqGet_onFinished_error px ctx srr error herr⟩

end Completion

/-- Revalidation: the request's `If-Modified-Since` changes nothing, unless it
    is the `Last-Modified` of the `200` the get sends without it; the get then
    replies a bare `304`. -/
theorem reqGet_onFinished_conditional (px : Proxy) (q : UrlQuery) (srr : List ResultEntry)
    (error : ErrorInfo) :
    (∀ ims, reqGet.onFinished px ⟨q, ims⟩ srr error = reqGet.onFinished px ⟨q, none⟩ srr error ∨
      ∃ lm r, ims = some lm ∧ (reqGet.onFinished px ⟨q, none⟩ srr error).Replied r ∧ r.code = 200 ∧
        ("Last-Modified", lm) ∈ r.headers ∧
        (reqGet.onFinished px ⟨q, ims⟩ srr error).Replied (.ofCode 304)) ∧
    ∀ r lm, (reqGet.onFinished px ⟨q, none⟩ srr error).Replied r → ("Last-Modified", lm) ∈ r.headers →
      (reqGet.onFinished px ⟨q, some lm⟩ srr error).Replied (.ofCode 304) := by
  -- A completion that does not read `If-Modified-Since` and sends no `Last-Modified`.
  have blind (x : Proc Unit) (hx : ∀ ims, reqGet.onFinished px ⟨q, ims⟩ srr error = x)
      (hlm : ∀ lm r, x.Replied r → ("Last-Modified", lm) ∉ r.headers) :
      (∀ ims, reqGet.onFinished px ⟨q, ims⟩ srr error = reqGet.onFinished px ⟨q, none⟩ srr error ∨
        ∃ lm r, ims = some lm ∧ (reqGet.onFinished px ⟨q, none⟩ srr error).Replied r ∧
          r.code = 200 ∧ ("Last-Modified", lm) ∈ r.headers ∧
          (reqGet.onFinished px ⟨q, ims⟩ srr error).Replied (.ofCode 304)) ∧
      ∀ r lm, (reqGet.onFinished px ⟨q, none⟩ srr error).Replied r →
        ("Last-Modified", lm) ∈ r.headers →
        (reqGet.onFinished px ⟨q, some lm⟩ srr error).Replied (.ofCode 304) :=
    ⟨fun ims => .inl ((hx ims).trans (hx none).symm),
      fun r lm hr hm => absurd hm (hlm lm r (hx none ▸ hr))⟩
  cases herr : error.isSet
  · cases srr with
    | nil => exact blind _ (fun _ => by simp [reqGet.onFinished, herr]; rfl) (by simp [Replied])
    | cons rr rest =>
      cases hdc : unpack rr.file (embedsWanted q rr.userFlags) with
      | error e =>
        cases e
        · exact blind _ (fun _ => by simp [reqGet.onFinished, herr, hdc]; rfl)
            (by simp [Replied, HttpReply.ofCode])
        · exact blind _ (fun _ => by simp [reqGet.onFinished, herr, hdc]; rfl) (by simp [Replied])
      | ok dc =>
        cases hg : dc.getTimestamp with
        | none =>
          exact blind _ (fun _ => by simp [reqGet.onFinished, herr, hdc, hg]; rfl) (by simp [Replied])
        | some ts =>
          cases htm : gmtimeR (timeT ts.tvSec) with
          | none =>
            exact blind _ (fun _ => by simp [reqGet.onFinished, herr, hdc, hg, htm]; rfl) (by simp [Replied])
          | some tm =>
            have hrun (ims : Option String) : reqGet.onFinished px ⟨q, ims⟩ (rr :: rest) error =
                if ims = some (px.libc.strftime tm) then
                  ⟨[.log .debug "Get: prepare response", .reply (.ofCode 304)], .ok ()⟩
                else ⟨[.log .debug "Get: prepare response", .log .debug "Get: sending response",
                  .reply ⟨200, [("Last-Modified", px.libc.strftime tm),
                    ("Content-Length", toString dc.data.length), ("Content-Type", "text/plain")],
                    dc.data⟩], .ok ()⟩ := by
              by_cases hims : ims = some (px.libc.strftime tm) <;>
                simp [reqGet.onFinished, herr, hdc, hg, htm, hims]
            refine ⟨fun ims => ?_, fun r lm hr hlm => ?_⟩
            · by_cases hims : ims = some (px.libc.strftime tm)
              · exact .inr ⟨_, _, hims, by simp [hrun, Replied]; rfl, by rfl, by simp,
                  by simp [hrun, hims, Replied]⟩
              · exact .inl (by simp [hrun, hims])
            · simp [hrun, Replied] at hr
              subst hr
              obtain rfl : lm = px.libc.strftime tm := by simpa using hlm
              simp [hrun, Replied]
  · exact blind _ (fun _ => by simp [reqGet.onFinished, herr]; rfl)
      (by simp [Replied, HttpReply.ofCode])

/-! ## From upload to get -/

theorem embedsWanted_ufEmbeds (q : UrlQuery) : embedsWanted q ufEmbeds = true := by
  have : ufEmbeds &&& ufEmbeds ≠ 0 := by decide
  simp [embedsWanted, this]

theorem embedsWanted_zero (q : UrlQuery) :
    embedsWanted q 0 = (q.hasItem "embed" || q.hasItem "embed_timestamp") := by
  have : (0 : UInt64) &&& ufEmbeds = 0 := by decide
  simp [embedsWanted, this]

/-- The payload an upload stored comes back from a get of the stored bytes
    and user flags: when the upload or the get asks for embeds, as the body of
    a `200` (or as a `304`), provided `gmtime_r` takes the timestamp the
    upload embeds; when neither does, the body is the whole packed container,
    its embed count included. -/
theorem reqGet_returns_uploaded_payload (px : Proxy) (reqU : HttpRequest) (p : String)
    (ctxU : UploadContext) (ctx : GetContext) (rr : ResultEntry) (rest : List ResultEntry)
    (error : ErrorInfo) (hU : (reqUpload.onRequest px reqU p).result = .ok (some ctxU))
    (hfile : rr.file = ctxU.content) (hflags : rr.userFlags = ctxU.session.userFlags)
    (herr : error.isSet = false)
    (hts : (reqU.query.hasItem "embed" || reqU.query.hasItem "embed_timestamp") = true →
      ∀ tv, getArg lexicalCastUInt64 reqU.query "timestamp" 0 = .ok tv →
        (gmtimeR (timeT tv)).isSome) :
    ∃ r, (reqGet.onFinished px ctx (rr :: rest) error).Replied r ∧
      if reqU.query.hasItem "embed" || reqU.query.hasItem "embed_timestamp" ||
          ctx.query.hasItem "embed" || ctx.query.hasItem "embed_timestamp" then
        r = .ofCode 304 ∨ r.code = 200 ∧ r.body = p
      else r.code = 200 ∧ r.body = pack (.ofData p) := by
  obtain ⟨dc, hcontent, hdata, hdc⟩ := reqUpload_onRequest_content hU
  split_ifs at hdc with hue
  · -- The upload embedded a timestamp and marked the flags: the get unpacks it.
    obtain ⟨tv, htv, hemb, hfl⟩ := hdc
    have hunp : unpack rr.file (embedsWanted ctx.query rr.userFlags) = .ok dc := by
      rw [hfile, hflags, hfl, hcontent, embedsWanted_ufEmbeds]
      exact unpack_pack dc (by simp [hemb])
    obtain ⟨r, hr, hr'⟩ := reqGet_onFinished_of_unpack px ctx rr rest error herr hunp
      (by simpa [DataContainer.getTimestamp, hemb] using hts hue tv htv)
    refine ⟨r, hr, ?_⟩
    rw [if_pos (by simp_all)]
    exact hr'.imp (·.1) fun h => ⟨h.1, h.2.trans hdata⟩
  · -- No embeds: the get unpacks them only when it asks for them.
    obtain ⟨hemb, hfl⟩ := hdc
    have hdc' : dc = .ofData p := by
      cases dc
      simp_all [DataContainer.ofData]
    subst hdc'
    have hnone : (DataContainer.ofData p).getTimestamp = none := rfl
    cases hg : ctx.query.hasItem "embed" || ctx.query.hasItem "embed_timestamp"
    · have hunp : unpack rr.file (embedsWanted ctx.query rr.userFlags) =
          .ok ⟨pack (.ofData p), []⟩ := by
        rw [hfile, hflags, hfl, embedsWanted_zero, hg, hcontent, unpack_false]
      obtain ⟨r, hr, hr'⟩ := reqGet_onFinished_of_unpack px ctx rr rest error herr hunp
        (by simp [DataContainer.getTimestamp])
      refine ⟨r, hr, ?_⟩
      rw [if_neg (by simp_all)]
      simpa [DataContainer.getTimestamp] using hr'
    · have hunp : unpack rr.file (embedsWanted ctx.query rr.userFlags) = .ok (.ofData p) := by
        rw [hfile, hflags, hfl, embedsWanted_zero, hg, hcontent]
        exact unpack_pack _ (by simp [DataContainer.ofData])
      obtain ⟨r, hr, hr'⟩ := reqGet_onFinished_of_unpack px ctx rr rest error herr hunp
        (by simp [hnone])
      refine ⟨r, hr, ?_⟩
      rw [if_pos (by simp_all)]
      exact .inr (by simpa [DataContainer.getTimestamp, DataContainer.ofData] using hr')

/-- `/upload/f` with the body `p`, stored as it was written and read back by a
    get of `/get/5/f` with the same user flags, the read tag, which is `0`. -/
theorem reqGet_returns_uploaded_payload_sample :
    ∃ r, (reqGet.onFinished (Proxy.sample (.constant [groupFive]) [defaultNamespace] 1 true)
        ⟨⟨[("embed", "")]⟩, none⟩ [.sample 5 (pack (.ofData "p")) 0] ⟨0, ""⟩).Replied r ∧
      (r = .ofCode 304 ∨ r.code = 200 ∧ r.body = "p") := by
  obtain ⟨r, hr, h⟩ := reqGet_returns_uploaded_payload
    (Proxy.sample (.constant [groupFive]) [defaultNamespace] 1 true) (.ofUrl "/upload/f" (by decide))
    "p" _ ⟨⟨[("embed", "")]⟩, none⟩ (.sample 5 (pack (.ofData "p")) 0) [] ⟨0, ""⟩ rfl rfl rfl rfl
    (fun _ tv htv => by cases htv; decide)
  exact ⟨r, hr, by simpa [UrlQuery.hasItem] using h⟩

/-- `/upload/f` with the body `p` and no `embed`, and a get that asks for no
    embeds: the get replies `200` with the packed container — eight bytes of
    embed count, then `p` — as its body, not `p`. -/
theorem reqGet_upload_without_embeds :
    (reqUpload.onRequest (Proxy.sample (.constant [groupFive]) [defaultNamespace] 1 true)
        (.ofUrl "/upload/f" (by decide)) "p").result =
        .ok (some ⟨{ Proxy.getSession with groups := [groupFive], errorHandler := .removeOnFail },
          ⟨"f"⟩, pack (.ofData "p")⟩) ∧
      ∃ r, (reqGet.onFinished (Proxy.sample (.constant [groupFive]) [defaultNamespace] 1 true)
          ⟨⟨[]⟩, none⟩ [.sample 5 (pack (.ofData "p")) 0] ⟨0, ""⟩).Replied r ∧
        r ≠ .ofCode 304 ∧ r.body ≠ "p" :=
  ⟨rfl, ⟨200, [("Content-Length", "9"), ("Content-Type", "text/plain")], pack (.ofData "p")⟩,
    ⟨rfl, rfl, rfl⟩, by decide, by decide⟩

/-- An upload that embeds a timestamp `gmtime_r` cannot take: the get of what
    it stored hands `strftime` the `NULL` that `gmtime_r` returns. -/
theorem reqGet_uploaded_timestamp_undefined (px : Proxy) (reqU : HttpRequest) (p : String)
    (ctxU : UploadContext) (ctx : GetContext) (rr : ResultEntry) (rest : List ResultEntry)
    (error : ErrorInfo) (hU : (reqUpload.onRequest px reqU p).result = .ok (some ctxU))
    (hfile : rr.file = ctxU.content) (hflags : rr.userFlags = ctxU.session.userFlags)
    (herr : error.isSet = false) (hemb : reqU.query.hasItem "embed" = true) {tv : UInt64}
    (htv : getArg lexicalCastUInt64 reqU.query "timestamp" 0 = .ok tv)
    (hnull : gmtimeR (timeT tv) = none) :
    ∃ w, (reqGet.onFinished px ctx (rr :: rest) error).result = .error (.undefined w) := by
  obtain ⟨dc, hcontent, -, hdc⟩ := reqUpload_onRequest_content hU
  obtain ⟨tv', htv', hemb', hfl⟩ := (if_pos (by simp [hemb])).mp hdc
  obtain rfl : tv = tv' := by simpa [htv] using htv'
  have hunp : unpack rr.file (embedsWanted ctx.query rr.userFlags) = .ok dc := by
    rw [hfile, hflags, hfl, hcontent, embedsWanted_ufEmbeds]
    exact unpack_pack dc (by simp [hemb'])
  obtain ⟨w, hw, -⟩ := reqGet_onFinished_gmtime_null px ctx rr rest error (t := ⟨tv, 0⟩) herr hunp
    (by simp [DataContainer.getTimestamp, hemb']) hnull
  exact ⟨w, hw⟩

/-- An upload of `p` to `/upload/f` asking to embed the timestamp `10^18`. -/
def overflowUpload : HttpRequest :=
  ⟨"/upload/f", by decide, ⟨[("embed", ""), ("timestamp", "1000000000000000000")]⟩, []⟩

/-- `get_arg<uint64_t>` takes the timestamp, but its year does not fit
    `tm_year`: the get of what the upload stored faults formatting
    `Last-Modified`. -/
theorem reqGet_timestamp_overflow :
    ∃ ctxU, (reqUpload.onRequest (Proxy.sample (.constant [groupFive]) [defaultNamespace] 1 true)
        overflowUpload "p").result = .ok (some ctxU) ∧
      ∃ w, (reqGet.onFinished (Proxy.sample (.constant [groupFive]) [defaultNamespace] 1 true)
        ⟨⟨[]⟩, none⟩
        [.sample 5 ctxU.content ctxU.session.userFlags] ⟨0, ""⟩).result = .error (.undefined w) := by
  have hU : (reqUpload.onRequest (Proxy.sample (.constant [groupFive]) [defaultNamespace] 1 true)
      overflowUpload "p").result = .ok (some ⟨{ Proxy.getSession with
        groups := [groupFive], userFlags := ufEmbeds, errorHandler := .removeOnFail }, ⟨"f"⟩,
        pack ⟨"p", [.timestamp ⟨1000000000000000000, 0⟩]⟩⟩) := by decide
  exact ⟨_, hU, reqGet_uploaded_timestamp_undefined _ _ "p" _ _ _ [] ⟨0, ""⟩
    hU rfl rfl rfl rfl rfl (by decide)⟩

end MediastorageProxy
