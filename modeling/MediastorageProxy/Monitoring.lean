import MediastorageProxy.Proxy

/-!
# Ping, cache and stat log

The handlers that report on the proxy rather than on stored files:

* `req_ping` replies 200, or 500 when the node has fewer than `die_limit` live
  states;
* `req_cache` replies with the balancer's tables the query names, as one JSON
  object, each table once and separated by commas (`cacheDocument_blocks`);
* `req_stat_log` asks every node for its statistics and renders one `<stat>`
  element per node.

The stat log writes every element to one `std::ostringstream`, and writes the
file system id of each node after `std::hex`, which stays set: every integer
of the elements after the first is written in hexadecimal
(`statElements_cons`).
-/

namespace MediastorageProxy

open Proc

/-! ## Ping -/

/-- `req_ping::on_request`, reaching the proxy's members through `ptrs`: the
    live states are those of `get_session()`. -/
def reqPing.onRequestWith (ptrs : Pointers) (px : Proxy) (req : HttpRequest) : Proc Unit :=
  catchStd "Ping request error" () do
    log .info ("Ping: handle request: " ++ req.url)
    let _session ← ptrs.getSession
    let code := if px.node.stateNum < px.dieLimit then 500 else 200
    sendReply code

/-- `req_ping::on_request` on a proxy whose members are set. -/
def reqPing.onRequest (px : Proxy) (req : HttpRequest) : Proc Unit :=
  reqPing.onRequestWith .set px req

theorem reqPing_onRequest_replied (px : Proxy) (req : HttpRequest) :
    (reqPing.onRequest px req).Replied
      (.ofCode (if px.node.stateNum < px.dieLimit then 500 else 200)) := by
  simp [reqPing.onRequest, reqPing.onRequestWith, Replied]

theorem foldl_append (l : List String) (a b : String) :
    l.foldl (· ++ ·) (a ++ b) = a ++ l.foldl (· ++ ·) b := by
  induction l generalizing b with
  | nil => rfl
  | cons x l ih => simp only [List.foldl_cons, String.append_assoc, ih]

theorem join_cons (s : String) (l : List String) : String.join (s :: l) = s ++ String.join l := by
  have h := foldl_append l s ""
  rwa [String.append_empty] at h

/-! ## Cache -/

/-- The balancer's tables `req_cache` can render, by the query item that asks
    for each, in the order it writes them. -/
def cacheTables (m : Mastermind) : List (String × String) :=
  [("group-weights", m.jsonGroupWeights), ("symmetric-groups", m.jsonSymmetricGroups),
    ("bad-groups", m.jsonBadGroups), ("cache-groups", m.jsonCacheGroups)]

/-- One table's block of `req_cache::on_request`: when the query names it, a
    `,` and a line break if a table was written before (`g`), then the table
    under its name. (The first block has no separator branch: `g` is still
    false there.) -/
def cacheBlock (q : UrlQuery) (acc : String × Bool) (t : String × String) : String × Bool :=
  if q.hasItem t.1 then
    ((if acc.2 then acc.1 ++ ",\n" else acc.1) ++ "\"" ++ t.1 ++ "\" : " ++ t.2, true)
  else acc

/-- The body of a cache reply. -/
def cacheDocument (m : Mastermind) (q : UrlQuery) : String :=
  let (oss, g) := (cacheTables m).foldl (cacheBlock q) ("\x7b\n", false)
  oss ++ (if g then "\n" else "") ++ "\x7d\n"

/-- `req_cache::on_request`, reaching the proxy's members through `ptrs`: each
    table the query names is read through `m_mastermind`. -/
def reqCache.onRequestWith (ptrs : Pointers) (px : Proxy) (req : HttpRequest) : Proc Unit :=
  catchStd "Cache request error" () do
    log .info ("Cache: handle request: " ++ req.url)
    if (cacheTables px.mastermind).any fun t => req.query.hasItem t.1 then ptrs.reachMastermind
    let resStr := cacheDocument px.mastermind req.query
    log .debug "Cache: sending response"
    sendReplyWith 200 [("Content-Length", toString resStr.length), ("Content-Type", "text/plain")]
      resStr

/-- `req_cache::on_request` on a proxy whose members are set. -/
def reqCache.onRequest (px : Proxy) (req : HttpRequest) : Proc Unit :=
  reqCache.onRequestWith .set px req

theorem reqCache_onRequest_replied (px : Proxy) (req : HttpRequest) :
    (reqCache.onRequest px req).Replied ⟨200, [("Content-Length",
      toString (cacheDocument px.mastermind req.query).length), ("Content-Type", "text/plain")],
      cacheDocument px.mastermind req.query⟩ := by
  simp [reqCache.onRequest, reqCache.onRequestWith, Replied]

/-- The blocks of the tables the query names, from the stream `s` with the
    flag `g`: written in order, separated by `,` and a line break, after one
    when a table was written before. -/
theorem foldl_cacheBlock (q : UrlQuery) (ts : List (String × String)) (s : String) (g : Bool) :
    ts.foldl (cacheBlock q) (s, g) =
      if ts.filter (fun t => q.hasItem t.1) = [] then (s, g)
      else ((if g then s ++ ",\n" else s) ++ String.join
        (((ts.filter fun t => q.hasItem t.1).map fun t => "\"" ++ t.1 ++ "\" : " ++ t.2).intersperse
          ",\n"), true) := by
  induction ts generalizing s g with
  | nil => rfl
  | cons t ts ih =>
    rw [List.foldl_cons, ih]
    by_cases ht : q.hasItem t.1 = true
    · simp only [List.filter_cons, ht, if_true, List.cons_ne_nil, if_false, cacheBlock]
      split
      · next hnil => simp [hnil, join_cons, String.join, String.append_assoc]
      · next hne =>
        obtain ⟨u, us, hu⟩ := List.exists_cons_of_ne_nil hne
        simp [hu, join_cons, String.append_assoc]
    · simp only [List.filter_cons, ht, Bool.false_eq_true, if_false, cacheBlock]

/-- The cache document is `{`, the blocks of the tables the query names in the
    order of `cacheTables`, separated by `,` and a line break, a line break
    after the last, and `}`: the flag `g` never lets a separator lead, trail
    or double. -/
theorem cacheDocument_blocks (m : Mastermind) (q : UrlQuery) :
    cacheDocument m q = "\x7b\n" ++ String.join
        ((((cacheTables m).filter fun t => q.hasItem t.1).map
          fun t => "\"" ++ t.1 ++ "\" : " ++ t.2).intersperse ",\n") ++
      (if (cacheTables m).filter (fun t => q.hasItem t.1) = [] then "" else "\n") ++ "\x7d\n" := by
  unfold cacheDocument
  rw [foldl_cacheBlock]
  by_cases hf : (cacheTables m).filter (fun t => q.hasItem t.1) = []
  · simp [hf, String.join]
  · simp [hf]

/-- Two tables named out of order come in the order of `cacheTables`. -/
example : cacheDocument (.constant []) ⟨[("bad-groups", ""), ("group-weights", "")]⟩ =
    "\x7b\n\"group-weights\" : \x7b\x7d,\n\"bad-groups\" : \x7b\x7d\n\x7d\n" := by
  decide

/-- No table named: no line between the braces. -/
example : cacheDocument (.constant []) ⟨[("g", "")]⟩ = "\x7b\n\x7d\n" := by decide

/-! ## Stat log -/

/-- `req_stat_log::on_request`, reaching the proxy's members through `ptrs`. -/
def reqStatLog.onRequestWith (ptrs : Pointers) (_px : Proxy) (req : HttpRequest) :
    Proc (Option Unit) :=
  catchStd "Stat log request error" none do
    log .info ("Stat log: handle request: " ++ req.url)
    let session ← ptrs.getSession
    log .debug "Stat log: process 'stat_log'"
    issue session .statLog
    return some ()

/-- `req_stat_log::on_request` on a proxy whose members are set. -/
def reqStatLog.onRequest (px : Proxy) (req : HttpRequest) : Proc (Option Unit) :=
  reqStatLog.onRequestWith .set px req

theorem reqStatLog_onRequest_dispatched (px : Proxy) (req : HttpRequest) :
    (reqStatLog.onRequest px req).Dispatched Proxy.getSession .statLog () := by
  simp [reqStatLog.onRequest, reqStatLog.onRequestWith, Dispatched]

/-- One node's `<stat>` element, written to a stream whose integer base is
    `base`, with the base it leaves the stream in: the load averages through
    `std::fixed` and `std::setprecision(2)`, the memory figures, the sizes in
    MiB (in 64-bit arithmetic) and the file count in `base`, and the file
    system id after `std::hex`. -/
def statElement (px : Proxy) (base : Basefield) (e : ResultEntry) : String × Basefield :=
  let st := e.statistics
  ("<stat addr=\"" ++ px.node.convertAddr e.address ++ "\" id=\"" ++
    dumpIdLenRaw e.command.id dnetIdSize ++ "\">" ++
    "<la>" ++ px.libc.formatLa st.la.1 ++ " " ++ px.libc.formatLa st.la.2.1 ++ " " ++
      px.libc.formatLa st.la.2.2 ++ "</la>" ++
    "<memtotal>" ++ putUInt64 base st.vmTotal ++ "</memtotal>" ++
    "<memfree>" ++ putUInt64 base st.vmFree ++ "</memfree>" ++
    "<memcached>" ++ putUInt64 base st.vmCached ++ "</memcached>" ++
    "<storage_size>" ++ putUInt64 base (st.frsize * st.blocks / 1024 / 1024) ++ "</storage_size>" ++
    "<available_size>" ++ putUInt64 base (st.bavail * st.bsize / 1024 / 1024) ++
      "</available_size>" ++
    "<files>" ++ putUInt64 base st.files ++ "</files>" ++
    "<fsid>" ++ putUInt64 .hex st.fsid ++ "</fsid>" ++ "</stat>", .hex)

/-- The loop of `req_stat_log::on_finished` over the nodes' results: their
    elements in order, each written in the base the one before left. -/
def statElements (px : Proxy) : Basefield → List ResultEntry → String
  | _, [] => ""
  | base, e :: es => (statElement px base e).1 ++ statElements px (statElement px base e).2 es

/-- `req_stat_log::on_finished`. -/
def reqStatLog.onFinished (px : Proxy) (ssr : List ResultEntry) (error : ErrorInfo) :
    Proc Unit :=
  catchStd "Stat log finish error" () do
    log .debug "Stat log: prepare response"
    if error.isSet then
      log .error error.message
      sendReply 500
      return
    let body := "<?xml version=\"1.0\" encoding=\"utf-8\"?>" ++ "<data>\n" ++
      statElements px .dec ssr ++ "</data>"
    log .debug "Stat log: sending response"
    sendReplyWith 200 [("Content-Type", "text/xml"), ("Content-Length", toString body.length)] body

@[simp] theorem statElement_base (px : Proxy) (base : Basefield) (e : ResultEntry) :
    (statElement px base e).2 = .hex := rfl

theorem statElements_hex (px : Proxy) (es : List ResultEntry) :
    statElements px .hex es = String.join (es.map fun e => (statElement px .hex e).1) := by
  induction es with
  | nil => rfl
  | cons e es ih => simp [statElements, ih, join_cons]

set_option maxRecDepth 8000 in
/-- Two nodes in the same state: the second's element differs from the
    first's, its integers written in hexadecimal (`4000` memory, not
    `16384`). -/
theorem reqStatLog_later_nodes_hex :
    (replies (reqStatLog.onFinished (Proxy.sample (.constant []) [] 1 true)
        [.sample 5 "" 0, .sample 5 "" 0] ⟨0, ""⟩).events).map (·.body) =
        ["<?xml version=\"1.0\" encoding=\"utf-8\"?>" ++ "<data>\n" ++
          (statElement (Proxy.sample (.constant []) [] 1 true) .dec (.sample 5 "" 0)).1 ++
          (statElement (Proxy.sample (.constant []) [] 1 true) .hex (.sample 5 "" 0)).1 ++
          "</data>"] ∧
      (statElement (Proxy.sample (.constant []) [] 1 true) .hex (.sample 5 "" 0)).1 ≠
        (statElement (Proxy.sample (.constant []) [] 1 true) .dec (.sample 5 "" 0)).1 := by
  decide

theorem reqStatLog_onFinished_replied (px : Proxy) (ssr : List ResultEntry) (error : ErrorInfo) :
    ∃ r, (reqStatLog.onFinished px ssr error).Replied r := by
  cases herr : error.isSet
  · let body := "<?xml version=\"1.0\" encoding=\"utf-8\"?>" ++ "<data>\n" ++
      statElements px .dec ssr ++ "</data>"
    exact ⟨⟨200, [("Content-Type", "text/xml"), ("Content-Length", toString body.length)], body⟩,
      by simp [reqStatLog.onFinished, herr, Replied, body]⟩
  · exact ⟨.ofCode 500, by simp [reqStatLog.onFinished, herr, Replied]⟩

end MediastorageProxy
