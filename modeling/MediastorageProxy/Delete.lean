import MediastorageProxy.Url

/-!
# Delete

`req_delete` as `src/delete.cpp` writes it. The dispatch resolves the
namespace from the URL (400 when it cannot) and checks the request's
`Authorization` header for it, sending `401` with a `WWW-Authenticate`
challenge when the check fails. It then cuts the file name `get_file_info`
gives at its first `/` into a group and a name (400 when there is no `/` or the
group is not an `int`), takes the proxy's `get_groups` of the two (404 when
there are none), requires `die_limit` live states (or throws), and removes
the key `<namespace>.<name>` from every group. The completion replies 404 or
500 on a storage error, else 200.

Every reply of the dispatch is followed by a `return` but the `401`: after it,
the dispatch goes on as when the check passes.

* `reqDelete_onRequest_spec`: what the dispatch sends and issues, case by case;
  a failed check adds the challenge in front of the rest;
* `reqDelete_onFinished_completes`: the completion replies once.
-/

namespace MediastorageProxy

open Proc

/-- The reply to a failed credentials check: `401`, with the challenge of the
    namespace's realm. -/
def challenge (realm : String) : HttpReply :=
  ⟨401, [("WWW-Authenticate", "Basic realm=\"" ++ realm ++ "\"")], ""⟩

/-- `req_delete::on_request`, reaching the proxy's members through `ptrs`: it
    takes `get_session()` once the credentials are checked. -/
def reqDelete.onRequestWith (ptrs : Pointers) (px : Proxy) (req : HttpRequest) :
    Proc (Option Unit) :=
  catchStd "Delete request error" none do
    log .info ("Delete: handle request: " ++ req.url)
    let fileInfo ← lift (px.getFileInfo req)
    if fileInfo.2.name.isEmpty then
      log .info "Delete: cannot determine a namespace"
      sendReply 400
      return none
    unless px.checkBasicAuth fileInfo.2.name fileInfo.2.authKey (req.header "Authorization") do
      sendReplyWith 401 [("WWW-Authenticate", "Basic realm=\"" ++ fileInfo.2.name ++ "\"")] ""
    let session ← ptrs.getSession
    let groupKey := fileInfo.1
    let pos := find groupKey '/' 0
    if pos = npos then
      log .info "Delete: cannot determine a group from key"
      sendReply 400
      return none
    let filename ← lift (substr groupKey (sizeAdd pos 1) npos)
    let group ← lift (substr groupKey 0 pos)
    match lexicalCastInt group with
    | .error _ =>
      log .info "Delete: cannot determine a group from key"
      sendReply 400
      return none
    | .ok g =>
      let session := { session with groups := px.getGroups g filename }
      let key : Key := ⟨fileInfo.2.name ++ "." ++ filename⟩
      if session.groups.isEmpty then
        sendReply 404
        return none
      if px.node.stateNum < px.dieLimit then
        throwStd "Too low number of existing states"
      let session := { session with filter := .all }
      log .debug "Delete: removing data"
      issue session (.remove key)
      return some ()

/-- `req_delete::on_request` on a proxy whose members are set. -/
def reqDelete.onRequest (px : Proxy) (req : HttpRequest) : Proc (Option Unit) :=
  reqDelete.onRequestWith .set px req

/-- `req_delete::on_finished`, which has no `try`. -/
def reqDelete.onFinished (error : ErrorInfo) : Proc Unit := do
  if error.isSet then
    log .error error.message
    sendReply (if error.code = enoent then 404 else 500)
    return
  log .debug "Delete: sending reply"
  sendReply 200

theorem reqDelete_onFinished_completes (error : ErrorInfo) :
    (reqDelete.onFinished error).Completes := by
  cases herr : error.isSet
  · exact .inl ⟨.ofCode 200, by simp [reqDelete.onFinished, herr, Replied]⟩
  · exact .inl ⟨.ofCode (if error.code = enoent then 404 else 500),
      by simp [reqDelete.onFinished, herr, Replied]⟩

theorem substr_after_first {s : String} {l r : List Char} {c : Char} (hs : s.data = l ++ c :: r)
    (hlt : s.length < npos) : substr s (sizeAdd l.length 1) npos = .ok ⟨r⟩ := by
  have hlen : s.length = l.length + r.length + 1 := by
    rw [← length_data, hs]; simp; omega
  rw [sizeAdd_of_lt (by unfold npos at hlt; omega), substr_of_le (by omega) (by unfold npos at hlt ⊢; omega)]
  simp [hs]

theorem substr_before_first {s : String} {l r : List Char} {c : Char} (hs : s.data = l ++ c :: r) :
    substr s 0 l.length = .ok ⟨l⟩ :=
  substr_of_eq_append (l := []) (r := c :: r) (by simpa using hs)

theorem reqDelete_onRequest_spec (px : Proxy) (req : HttpRequest) :
    ∃ f ns, px.getFileInfo req = .ok (f, ns) ∧
      if ns.name = "" then (reqDelete.onRequest px req).Answered (.ofCode 400)
      else ∃ evs, (reqDelete.onRequest px req).events =
          .log .info ("Delete: handle request: " ++ req.url) ::
            ((if px.checkBasicAuth ns.name ns.authKey (req.header "Authorization") then []
              else [.reply (challenge ns.name)]) ++ evs) ∧
        ((∃ r, replies evs = [r] ∧ issued evs = [] ∧
            (reqDelete.onRequest px req).result = .ok none) ∨
          ∃ tok g filename, f.data = tok.data ++ '/' :: filename.data ∧ '/' ∉ tok.data ∧
            lexicalCastInt tok = .ok g ∧ px.getGroups g filename ≠ [] ∧
            px.dieLimit ≤ px.node.stateNum ∧ replies evs = [] ∧
            issued evs = [({ Proxy.getSession with groups := px.getGroups g filename, filter := .all },
              .remove ⟨ns.name ++ "." ++ filename⟩)] ∧
            (reqDelete.onRequest px req).result = .ok (some ())) := by
  obtain ⟨f, ns, hfi, hlt⟩ := px.getFileInfo_ok req
  refine ⟨f, ns, hfi, ?_⟩
  by_cases hn : ns.name = ""
  · simp [reqDelete.onRequest, reqDelete.onRequestWith, hfi, hn, String.isEmpty_iff, Answered]
  rw [if_neg hn]
  by_cases hpos : find f '/' 0 = npos
  · refine ⟨[.log .info "Delete: cannot determine a group from key", .reply (.ofCode 400)],
      And.imp_right (fun h => Or.inl ⟨_, rfl, rfl, h⟩) ?_⟩
    simp [reqDelete.onRequest, reqDelete.onRequestWith, ↓unless_sendReplyWith_bind, hfi,
      String.isEmpty_iff, hn, hpos,
      challenge]
  obtain ⟨l, r, hs, hl, hfind⟩ := find_zero_of_ne_npos hpos
  have hne : l.length ≠ npos := hfind ▸ hpos
  have hcut := substr_after_first hs hlt
  have htok := substr_before_first hs
  cases hg : lexicalCastInt ⟨l⟩ with
  | error e =>
    refine ⟨[.log .info "Delete: cannot determine a group from key", .reply (.ofCode 400)],
      And.imp_right (fun h => Or.inl ⟨_, rfl, rfl, h⟩) ?_⟩
    simp [reqDelete.onRequest, reqDelete.onRequestWith, ↓unless_sendReplyWith_bind, hfi,
      String.isEmpty_iff, hn, hfind, hne,
      hcut, htok, hg, challenge]
  | ok g =>
    by_cases hgr : px.getGroups g ⟨r⟩ = []
    · refine ⟨[.reply (.ofCode 404)], And.imp_right (fun h => Or.inl ⟨_, rfl, rfl, h⟩) ?_⟩
      simp [reqDelete.onRequest, reqDelete.onRequestWith, ↓unless_sendReplyWith_bind, hfi,
        String.isEmpty_iff, hn, hfind,
        hne, hcut, htok, hg, hgr, challenge]
    by_cases hst : px.node.stateNum < px.dieLimit
    · refine ⟨[.log .error "Delete request error: Too low number of existing states",
        .reply (.ofCode 500)], And.imp_right (fun h => Or.inl ⟨_, rfl, rfl, h⟩) ?_⟩
      simp [reqDelete.onRequest, reqDelete.onRequestWith, ↓unless_sendReplyWith_bind, hfi,
        String.isEmpty_iff, hn, hfind,
        hne, hcut, htok, hg, hgr, hst, challenge]
    · refine ⟨[.log .debug "Delete: removing data", .issue { Proxy.getSession with
          groups := px.getGroups g ⟨r⟩, filter := .all } (.remove ⟨ns.name ++ "." ++ String.mk r⟩)],
        And.imp_right
          (fun h => Or.inr ⟨⟨l⟩, g, ⟨r⟩, hs, hl, hg, hgr, not_lt.mp hst, rfl, rfl, h⟩) ?_⟩
      simp [reqDelete.onRequest, reqDelete.onRequestWith, ↓unless_sendReplyWith_bind, hfi,
        String.isEmpty_iff, hn, hfind,
        hne, hcut, htok, hg, hgr, hst, challenge]

/-- The dispatch removes, if anything, `<namespace>.<name>` for a resolved
    namespace, from the groups of the group token before the first `/`, with
    `die_limit` live states. -/
theorem reqDelete_onRequest_issued {px : Proxy} {req : HttpRequest} {s : Session} {op : StorageOp}
    (h : (s, op) ∈ issued (reqDelete.onRequest px req).events) :
    ∃ f ns tok g filename, px.getFileInfo req = .ok (f, ns) ∧ ns.name ≠ "" ∧
      f.data = tok.data ++ '/' :: filename.data ∧ '/' ∉ tok.data ∧ lexicalCastInt tok = .ok g ∧
      px.getGroups g filename ≠ [] ∧ px.dieLimit ≤ px.node.stateNum ∧
      s = { Proxy.getSession with groups := px.getGroups g filename, filter := .all } ∧
      op = .remove ⟨ns.name ++ "." ++ filename⟩ := by
  obtain ⟨f, ns, hfi, hd⟩ := reqDelete_onRequest_spec px req
  by_cases hn : ns.name = ""
  · simp [((if_pos hn).mp hd).2.1] at h
  rw [if_neg hn] at hd
  obtain ⟨evs, hev, ⟨r, -, hiss, -⟩ | ⟨tok, g, filename, hs, ht, hg, hgr, hst, -, hiss, -⟩⟩ := hd <;>
  simp only [hev, hiss, issued_cons_log, issued_append, issued_ite_reply, List.nil_append,
    List.not_mem_nil, List.mem_singleton, Prod.mk.injEq] at h
  exact ⟨f, ns, tok, g, filename, hfi, hn, hs, ht, hg, hgr, hst, h.1, h.2⟩

/-- The dispatch removes `<namespace>.<name>` for a resolved namespace and a
    group token that parses, when the groups of the token and the name are not
    empty and `die_limit` states are live, whatever the credentials check
    answers. -/
theorem reqDelete_onRequest_removes {px : Proxy} {req : HttpRequest} {f tok filename : String}
    {ns : Namespace} {g : CInt} (hfi : px.getFileInfo req = .ok (f, ns)) (hn : ns.name ≠ "")
    (hs : f.data = tok.data ++ '/' :: filename.data) (ht : '/' ∉ tok.data)
    (hg : lexicalCastInt tok = .ok g) (hgr : px.getGroups g filename ≠ [])
    (hst : px.dieLimit ≤ px.node.stateNum) :
    issued (reqDelete.onRequest px req).events =
      [({ Proxy.getSession with groups := px.getGroups g filename, filter := .all },
        .remove ⟨ns.name ++ "." ++ filename⟩)] := by
  obtain ⟨f', ns', hfi', hlt⟩ := px.getFileInfo_ok req
  obtain ⟨rfl, rfl⟩ := Prod.mk.inj (Except.ok.inj (hfi.symm.trans hfi'))
  obtain ⟨l⟩ := tok
  obtain ⟨r⟩ := filename
  have hfind : find f '/' 0 = l.length := find_of_eq_append hs (Nat.zero_le _) (by simpa using ht)
  have hne : l.length ≠ npos := by
    have : f.length = l.length + r.length + 1 := by rw [← length_data, hs]; simp; omega
    omega
  simp [reqDelete.onRequest, reqDelete.onRequestWith, ↓unless_sendReplyWith_bind, hfi,
    String.isEmpty_iff, hn, hfind, hne, substr_after_first hs hlt, substr_before_first hs, hg, hgr,
    not_lt.mpr hst]

end MediastorageProxy
