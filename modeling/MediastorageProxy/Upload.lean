import MediastorageProxy.Url

/-!
# Upload

`req_upload`: the dispatch takes `get_session()`, resolves the namespace from
the URL (400 when it cannot), takes the namespace's checker and the balancer's
groups for it,
requires `die_limit` live states (or throws), wraps the body in a data
container — with a timestamp when the query asks for `embed` or
`embed_timestamp`, marking the session's user flags with `UF_EMBEDS` — and
issues the write the query selects. The completion replies 500 when the
storage reports an error, after logging the groups written and the groups
missed (`setDifference` of the sorted lists), and otherwise renders the
`<post>` document.

The dispatch never consults the credentials check, and issues its write
whatever groups the balancer gives, none included.

* `reqUpload_onRequest_spec`: the dispatch answers 400 or 500, or issues one
  write of the packed container under the key of the file name;
* `reqUpload_onRequest_content`: what a write it issues stores, by the query;
* `reqUpload_onFinished_completes`: the completion replies once, unless the
  session had no groups;
* `count_setDifference`, `coe_setDifference`: on sorted ranges `setDifference`
  is the difference of multisets;
* `reqUpload_onFinished_bad_groups`: after a storage error the logged bad groups
  are sorted and, with the written groups, partition the targeted ones.
-/

namespace MediastorageProxy

open Proc

/-- `UF_EMBEDS`, the user flag of a write whose data embeds records. -/
def ufEmbeds : UInt64 := 1

/-- What the upload request object holds between dispatch and completion:
    `m_session`, `m_key` and `m_content`. -/
structure UploadContext where
  session : Session
  key : Key
  content : String
  deriving DecidableEq, Repr

/-- The headers as the debug log line of a dispatch writes them. -/
def headersDump (headers : List (String × String)) : String :=
  "Headers:\n" ++ String.join (headers.map fun h => h.1 ++ ": " ++ h.2 ++ "\n")

/-- `req_upload::on_request`, reaching the proxy's members through `ptrs`:
    it takes `get_session()` before it resolves the namespace. -/
def reqUpload.onRequestWith (ptrs : Pointers) (px : Proxy) (req : HttpRequest) (buffer : String) :
    Proc (Option UploadContext) :=
  catchStd "Upload request ERROR" none do
    log .info ("Upload: handle request: " ++ req.url ++ "; body size: " ++ toString buffer.length)
    logAt px.logLevel .debug (headersDump req.headers)
    let session ← ptrs.getSession
    let fileInfo ← lift (px.getFileInfo req)
    if fileInfo.2.name.isEmpty then
      log .info "Upload: Cannot determine a namespace"
      sendReply 400
      return none
    let key : Key := ⟨fileInfo.1⟩
    let session := { session with checker := fileInfo.2.resultChecker }
    ptrs.reachMastermind
    let session := { session with groups := px.groupsForUpload fileInfo.2 }
    let queryList := req.query
    if px.node.stateNum < px.dieLimit then
      throwStd "Too low number of existing states"
    let dc := DataContainer.ofData buffer
    let dc ← if queryList.hasItem "embed" || queryList.hasItem "embed_timestamp" then do
        let tvSec ← lift (getArg lexicalCastUInt64 queryList "timestamp" 0)
        pure (dc.setTimestamp ⟨tvSec, 0⟩)
      else pure dc
    let session := if dc.embedsCount ≠ 0 then { session with userFlags := session.userFlags ||| ufEmbeds }
      else session
    let content := pack dc
    logAt px.logLevel .info ("Upload: writing content by key=" ++ key.remote ++ " into groups=[" ++
      joinGroups session.groups ++ "]")
    let session ← write session key content queryList
    return some ⟨session, key, content⟩

/-- `req_upload::on_request` on a proxy whose members are set. -/
def reqUpload.onRequest (px : Proxy) (req : HttpRequest) (buffer : String) :
    Proc (Option UploadContext) :=
  reqUpload.onRequestWith .set px req buffer

theorem reqUpload_onRequest_spec (px : Proxy) (req : HttpRequest) (buffer : String) :
    ∃ f ns, px.getFileInfo req = .ok (f, ns) ∧
      if ns.name = "" then (reqUpload.onRequest px req buffer).Answered (.ofCode 400)
      else if px.node.stateNum < px.dieLimit then
        (reqUpload.onRequest px req buffer).Answered (.ofCode 500)
      else (reqUpload.onRequest px req buffer).Answered (.ofCode 500) ∨
        ∃ ctx op, (reqUpload.onRequest px req buffer).Dispatched ctx.session op ctx ∧
          op.written = some (⟨f⟩, ctx.content) ∧ ctx.key = ⟨f⟩ ∧
          ctx.session.groups = px.groupsForUpload ns ∧ ctx.session.checker = ns.resultChecker ∧
          ∃ dc, ctx.content = pack dc ∧ dc.data = buffer ∧
            if req.query.hasItem "embed" || req.query.hasItem "embed_timestamp" then
              ∃ tv, getArg lexicalCastUInt64 req.query "timestamp" 0 = .ok tv ∧
                dc.embeds = [.timestamp ⟨tv, 0⟩] ∧ ctx.session.userFlags = ufEmbeds
            else dc.embeds = [] ∧ ctx.session.userFlags = 0 := by
  obtain ⟨f, ns, hfi, -⟩ := px.getFileInfo_ok req
  refine ⟨f, ns, hfi, ?_⟩
  by_cases hn : ns.name = ""
  · simp [reqUpload.onRequest, reqUpload.onRequestWith, hfi, hn, String.isEmpty_iff, Answered]
  by_cases hs : px.node.stateNum < px.dieLimit
  · simp [reqUpload.onRequest, reqUpload.onRequestWith, hfi, hn, String.isEmpty_iff, hs, Answered]
  simp only [hn, hs, if_false]
  by_cases he : (req.query.hasItem "embed" || req.query.hasItem "embed_timestamp") = true
  · rcases getArg_cases req.query "timestamp" 0 with ⟨tv, htv⟩ | htv
    · rcases write_spec ⟨f⟩ (pack ⟨buffer, [.timestamp ⟨tv, 0⟩]⟩) req.query
        with ⟨op, hop, hw⟩ | hw
      · refine .inr ⟨⟨{ Proxy.getSession with
              checker := ns.resultChecker, groups := px.groupsForUpload ns,
              userFlags := Proxy.getSession.userFlags ||| ufEmbeds, errorHandler := .removeOnFail },
            ⟨f⟩, pack ⟨buffer, [.timestamp ⟨tv, 0⟩]⟩⟩, op, ?_, hop, rfl, rfl, rfl, _, rfl, rfl, ?_⟩
        · simp [reqUpload.onRequest, reqUpload.onRequestWith, hfi, hn, String.isEmpty_iff, hs,
          he, htv, hw, Dispatched,
            DataContainer.embedsCount, DataContainer.setTimestamp, DataContainer.ofData]
        · simp only [he, if_true]
          exact ⟨tv, htv, rfl, rfl⟩
      · exact .inl (by simp [reqUpload.onRequest, reqUpload.onRequestWith, hfi, hn,
        String.isEmpty_iff, hs, he, htv, hw,
          Answered, DataContainer.embedsCount, DataContainer.setTimestamp, DataContainer.ofData,
          badLexicalCast])
    · exact .inl (by simp [reqUpload.onRequest, reqUpload.onRequestWith, hfi, hn,
      String.isEmpty_iff, hs, he, htv,
        Answered, badLexicalCast])
  · rcases write_spec ⟨f⟩ (pack ⟨buffer, []⟩) req.query with ⟨op, hop, hw⟩ | hw
    · refine .inr ⟨⟨{ Proxy.getSession with
          checker := ns.resultChecker, groups := px.groupsForUpload ns, errorHandler := .removeOnFail },
        ⟨f⟩, pack ⟨buffer, []⟩⟩, op, ?_, hop, rfl, rfl, rfl, _, rfl, rfl, ?_⟩
      · simp [reqUpload.onRequest, reqUpload.onRequestWith, hfi, hn, String.isEmpty_iff, hs, he,
        hw, Dispatched,
          DataContainer.embedsCount, DataContainer.ofData]
      · simp [he, Proxy.getSession]
    · exact .inl (by simp [reqUpload.onRequest, reqUpload.onRequestWith, hfi, hn,
      String.isEmpty_iff, hs, he, hw,
        Answered, DataContainer.embedsCount, DataContainer.ofData, badLexicalCast])

/-- The dispatch writes, if anything, the key of the file name. -/
theorem reqUpload_onRequest_issued {px : Proxy} {req : HttpRequest} {buffer f : String}
    {ns : Namespace} (hfi : px.getFileInfo req = .ok (f, ns)) {s : Session} {op : StorageOp}
    (h : (s, op) ∈ issued (reqUpload.onRequest px req buffer).events) :
    ∃ d, op.written = some (⟨f⟩, d) := by
  obtain ⟨f', ns', hfi', hs⟩ := reqUpload_onRequest_spec px req buffer
  obtain ⟨rfl, rfl⟩ : f = f' ∧ ns = ns' := by simpa [hfi] using hfi'
  by_cases hn : ns.name = ""
  · simp [((if_pos hn).mp hs).2.1] at h
  by_cases hst : px.node.stateNum < px.dieLimit
  · rw [if_neg hn, if_pos hst] at hs
    simp [hs.2.1] at h
  rw [if_neg hn, if_neg hst] at hs
  obtain hs | ⟨ctx, op', ⟨-, hiss, -⟩, hop, -⟩ := hs
  · simp [hs.2.1] at h
  · simp only [hiss, List.mem_singleton, Prod.mk.injEq] at h
    exact ⟨_, h.2 ▸ hop⟩

/-- What a dispatch that goes on to the write stored: the body, in a container
    holding the timestamp embed exactly when the query asks for embeds, with
    the flags saying so. -/
theorem reqUpload_onRequest_content {px : Proxy} {req : HttpRequest} {buffer : String}
    {ctx : UploadContext} (h : (reqUpload.onRequest px req buffer).result = .ok (some ctx)) :
    ∃ dc, ctx.content = pack dc ∧ dc.data = buffer ∧
      if req.query.hasItem "embed" || req.query.hasItem "embed_timestamp" then
        ∃ tv, getArg lexicalCastUInt64 req.query "timestamp" 0 = .ok tv ∧
          dc.embeds = [.timestamp ⟨tv, 0⟩] ∧ ctx.session.userFlags = ufEmbeds
      else dc.embeds = [] ∧ ctx.session.userFlags = 0 := by
  obtain ⟨f, ns, -, hs⟩ := reqUpload_onRequest_spec px req buffer
  by_cases hn : ns.name = ""
  · exact absurd (h.symm.trans ((if_pos hn).mp hs).2.2) (by simp)
  by_cases hst : px.node.stateNum < px.dieLimit
  · rw [if_neg hn, if_pos hst] at hs
    exact absurd (h.symm.trans hs.2.2) (by simp)
  rw [if_neg hn, if_neg hst] at hs
  obtain hs | ⟨ctx', op, ⟨-, -, hres⟩, -, -, -, -, hdc⟩ := hs
  · exact absurd (h.symm.trans hs.2.2) (by simp)
  obtain rfl : ctx = ctx' := by simpa [h] using hres
  exact hdc

/-- `/upload/a-b`: the `-` of the file name is the first of the URL, past the
    second `/`, so the namespace is empty and the upload replies `400`; and
    `/upload`, with no second `/`, gets the namespace `default`. -/
theorem getFilename_outside_grammar :
    getFilename (.ofUrl "/upload/a-b" (by decide)) = .ok ("a-b", "") ∧
      getFilename (.ofUrl "/upload" (by decide)) = .ok ("/upload", "default") ∧
      (reqUpload.onRequest (Proxy.sample (.constant [groupFive]) [defaultNamespace] 1 true)
        (.ofUrl "/upload/a-b" (by decide)) "p").Answered (.ofCode 400) := by
  refine ⟨by decide, by decide, ?_⟩
  unfold Answered
  decide

/-! ## Completion -/

/-- `std::sort` of group ids. -/
def sortGroups (gs : List CInt) : List CInt := gs.mergeSort fun a b => decide (a.val ≤ b.val)

/-- `std::set_difference` of sorted ranges: the elements of the first range not
    matched, one for one, in the second. -/
def setDifference : List CInt → List CInt → List CInt
  | [], _ => []
  | a :: as, [] => a :: as
  | a :: as, b :: bs =>
    if a.val < b.val then a :: setDifference as (b :: bs)
    else if b.val < a.val then setDifference (a :: as) bs
    else setDifference as bs

/-- `std::min_element`: the first least group, if any. -/
def minElement : List CInt → Option CInt
  | [] => none
  | g :: gs => some ((minElement gs).elim g fun m => if m.val < g.val then m else g)

/-- The `<complete>` element of a node's write result. -/
def completeElement (node : Node) (pl : LookupResult) : String :=
  "<complete addr=\"" ++ pl.addr node ++ "\" path=\"" ++ pl.fullPath ++ "\" group=\"" ++
    toString pl.group ++ "\" status=\"" ++ toString pl.status ++ "\"/>\n"

/-- The body of a successful upload: the `<post>` element with the name, id,
    number of results, size and locator `/<least group>/<name>` of the object,
    a `<complete>` element per result and the number written. -/
def postDocument (px : Proxy) (ctx : UploadContext) (swr : List ResultEntry) (least : CInt) :
    String :=
  let results := swr.map px.parseLookup
  "<?xml version=\"1.0\" encoding=\"utf-8\"?>\n" ++
    "<post obj=\"" ++ ctx.key.remote ++ "\" id=\"" ++
    dumpIdLenRaw (px.node.transform ctx.key.remote) dnetIdSize ++
    "\" groups=\"" ++ toString swr.length ++ "\" size=\"" ++ toString ctx.content.length ++
    "\" key=\"/" ++ toString least ++ "/" ++ ctx.key.remote ++ "\">\n" ++
    String.join (results.map (completeElement px.node)) ++
    "<written>" ++ toString (results.filter (·.status == 0)).length ++ "</written>\n" ++ "</post>"

/-- `req_upload::on_finished`. `spentMs` is the time since the dispatch, which
    the last log line reports. -/
def reqUpload.onFinished (px : Proxy) (ctx : UploadContext) (swr : List ResultEntry)
    (error : ErrorInfo) (spentMs : Nat) : Proc Unit :=
  catchStd "Upload finish ERROR" () do
    log .debug "Upload: prepare response"
    let goodGroups := swr.map (·.command.group)
    if error.isSet then
      let allGroups := sortGroups ctx.session.groups
      let goodGroups := sortGroups goodGroups
      log .error ("good groups: [" ++ joinGroups goodGroups ++ "]; all groups: [" ++
        joinGroups allGroups ++ "]")
      let badGroups := setDifference allGroups goodGroups
      log .error ("Upload finish ERROR: " ++ error.message ++ "; " ++ "wrote into groups: [" ++
        joinGroups goodGroups ++ "]; cannot write into: [" ++ joinGroups badGroups ++ "]")
      sendReply 500
      return
    let least ← match minElement ctx.session.groups with
      | some g => pure g
      | none => undefined "dereference of min_element of no groups"
    let resStr := postDocument px ctx swr least
    logAt px.logLevel .info ("Upload: done; status code: 200; spent time: " ++ toString spentMs ++
      "; wrote into groups: [" ++ joinGroups goodGroups ++ "]")
    sendReplyWith 200 [("Content-Length", toString resStr.length), ("Content-Type", "text/plain")]
      resStr

theorem minElement_eq_none_iff (gs : List CInt) : minElement gs = none ↔ gs = [] := by
  cases gs <;> simp [minElement]

/-- The completion replies once — `500` on a storage error, else `200` with the
    `<post>` document — unless the session had no groups, where it
    dereferences the end of the empty range. -/
theorem reqUpload_onFinished_completes (px : Proxy) (ctx : UploadContext)
    (swr : List ResultEntry) (error : ErrorInfo) (spentMs : Nat) :
    (reqUpload.onFinished px ctx swr error spentMs).Completes := by
  cases herr : error.isSet
  · cases hm : minElement ctx.session.groups with
    | none =>
      exact .inr ⟨"dereference of min_element of no groups",
        by simp [reqUpload.onFinished, herr, hm]⟩
    | some least =>
      let body := postDocument px ctx swr least
      exact .inl ⟨⟨200, [("Content-Length", toString body.length), ("Content-Type", "text/plain")],
        body⟩, by simp [reqUpload.onFinished, herr, hm, Replied, body]⟩
  · exact .inl ⟨.ofCode 500, by simp [reqUpload.onFinished, herr, Replied]⟩

/-- The completion after a storage error: two error lines and a `500`. -/
theorem reqUpload_onFinished_error_events (px : Proxy) (ctx : UploadContext)
    (swr : List ResultEntry) {error : ErrorInfo} (spentMs : Nat) (herr : error.isSet = true) :
    (reqUpload.onFinished px ctx swr error spentMs).events =
      [.log .debug "Upload: prepare response",
        .log .error ("good groups: [" ++ joinGroups (sortGroups (swr.map (·.command.group))) ++
          "]; all groups: [" ++ joinGroups (sortGroups ctx.session.groups) ++ "]"),
        .log .error ("Upload finish ERROR: " ++ error.message ++ "; " ++ "wrote into groups: [" ++
          joinGroups (sortGroups (swr.map (·.command.group))) ++ "]; cannot write into: [" ++
          joinGroups (setDifference (sortGroups ctx.session.groups)
            (sortGroups (swr.map (·.command.group)))) ++ "]"),
        .reply (.ofCode 500)] := by
  simp [reqUpload.onFinished, herr]

/-- `min_element` gives the first least group. -/
theorem minElement_spec : ∀ {gs : List CInt} {g : CInt}, minElement gs = some g →
    g ∈ gs ∧ ∀ g' ∈ gs, g.val ≤ g'.val
  | [], _, h => by simp [minElement] at h
  | a :: gs, g, h => by
    rw [minElement, Option.some.injEq] at h
    cases hm : minElement gs with
    | none =>
      obtain rfl : a = g := by simpa [hm] using h
      simp [(minElement_eq_none_iff gs).mp hm]
    | some m =>
      obtain ⟨hmem, hle⟩ := minElement_spec hm
      rw [hm, Option.elim] at h
      split at h <;> subst h
      · exact ⟨List.mem_cons_of_mem a hmem, List.forall_mem_cons.mpr ⟨by omega, hle⟩⟩
      · exact ⟨List.mem_cons_self a gs, List.forall_mem_cons.mpr
          ⟨le_refl _, fun g' hg' => by have := hle g' hg'; omega⟩⟩

/-- A `200` from the completion carries the `<post>` document, with the least
    group of the session in its locator. -/
theorem reqUpload_onFinished_ok {px : Proxy} {ctx : UploadContext} {swr : List ResultEntry}
    {error : ErrorInfo} {spentMs : Nat} {r : HttpReply}
    (h : r ∈ replies (reqUpload.onFinished px ctx swr error spentMs).events) (hc : r.code = 200) :
    ∃ g, minElement ctx.session.groups = some g ∧ r.body = postDocument px ctx swr g := by
  cases herr : error.isSet
  · cases hm : minElement ctx.session.groups with
    | none => simp [reqUpload.onFinished, herr, hm] at h
    | some g =>
      simp [reqUpload.onFinished, herr, hm] at h
      exact ⟨g, rfl, by rw [h]⟩
  · simp [reqUpload_onFinished_error_events px ctx swr spentMs herr] at h
    simp [h, HttpReply.ofCode] at hc

/-! ## Good and bad groups -/

theorem CInt.eq_of_val_eq {a b : CInt} (h : a.val = b.val) : a = b := by
  cases a; cases b; simp_all

theorem sortGroups_perm (gs : List CInt) : (sortGroups gs).Perm gs := List.mergeSort_perm _ _

theorem sortGroups_sorted (gs : List CInt) : (sortGroups gs).Pairwise (·.val ≤ ·.val) := by
  have h := @List.sorted_mergeSort CInt (fun a b => decide (a.val ≤ b.val))
    (fun _ _ _ h₁ h₂ => by simp only [decide_eq_true_eq] at *; omega)
    (fun a b => by simpa using Int.le_total a.val b.val) gs
  simpa using h

theorem setDifference_sublist : ∀ as bs : List CInt, (setDifference as bs).Sublist as := by
  intro as bs
  induction as, bs using setDifference.induct with
  | case1 => simp [setDifference]
  | case2 => simp [setDifference]
  | case3 a as b bs h ih => rw [setDifference, if_pos h]; exact ih.cons_cons a
  | case4 a as b bs h₁ h₂ ih => rw [setDifference, if_neg h₁, if_pos h₂]; exact ih
  | case5 a as b bs h₁ h₂ ih => rw [setDifference, if_neg h₁, if_neg h₂]; exact ih.cons a

/-- A group below the head of a sorted range is not in it. -/
theorem count_eq_zero_of_lt {x b : CInt} {bs : List CInt} (hb : (b :: bs).Pairwise (·.val ≤ ·.val))
    (h : x.val < b.val) : (b :: bs).count x = 0 := by
  refine List.count_eq_zero.mpr fun hx => ?_
  rcases List.mem_cons.mp hx with rfl | hx
  · omega
  · have := List.rel_of_pairwise_cons hb hx
    omega

/-- `std::set_difference` of sorted ranges keeps of each group as many copies
    as the first range has more than the second. -/
theorem count_setDifference : ∀ {as bs : List CInt}, as.Pairwise (·.val ≤ ·.val) →
    bs.Pairwise (·.val ≤ ·.val) → ∀ x, (setDifference as bs).count x = as.count x - bs.count x := by
  intro as bs
  induction as, bs using setDifference.induct with
  | case1 => intro _ _ x; simp [setDifference]
  | case2 => intro _ _ x; simp [setDifference]
  | case3 a as b bs h ih =>
    intro ha hb x
    rw [setDifference, if_pos h, List.count_cons x a, ih ha.of_cons hb x, List.count_cons x a]
    split
    · next hax =>
      obtain rfl := beq_iff_eq.mp hax
      rw [count_eq_zero_of_lt hb h]
      omega
    · omega
  | case4 a as b bs h₁ h₂ ih =>
    intro ha hb x
    rw [setDifference, if_neg h₁, if_pos h₂, ih ha hb.of_cons x, List.count_cons x b]
    split
    · next hbx =>
      obtain rfl := beq_iff_eq.mp hbx
      rw [count_eq_zero_of_lt ha h₂]
      omega
    · omega
  | case5 a as b bs h₁ h₂ ih =>
    intro ha hb x
    obtain rfl : a = b := CInt.eq_of_val_eq (by omega)
    rw [setDifference, if_neg h₁, if_neg h₂, ih ha.of_cons hb.of_cons x, List.count_cons x a,
      List.count_cons x a]
    split <;> omega

/-- For sorted ranges, `setDifference` is the difference of multisets. -/
theorem coe_setDifference {as bs : List CInt} (ha : as.Pairwise (·.val ≤ ·.val))
    (hb : bs.Pairwise (·.val ≤ ·.val)) :
    (setDifference as bs : Multiset CInt) = (as : Multiset CInt) - bs := by
  ext x
  simp only [Multiset.coe_count, Multiset.count_sub, count_setDifference ha hb]

/-- After a storage error the completion logs, as the groups it could not write
    into, the sorted targeted groups less, one for one, the sorted groups of the
    write results. Those are sorted, and when the written groups are among the
    targeted ones the two lists partition the targeted groups; with no group
    targeted twice, the bad groups are exactly the targeted groups not written. -/
theorem reqUpload_onFinished_bad_groups (px : Proxy) (ctx : UploadContext)
    (swr : List ResultEntry) (error : ErrorInfo) (spentMs : Nat) (herr : error.isSet = true)
    (hsub : (swr.map (·.command.group) : Multiset CInt) ≤ ctx.session.groups) :
    ∃ bad, bad = setDifference (sortGroups ctx.session.groups)
        (sortGroups (swr.map (·.command.group))) ∧
      Event.log .error ("Upload finish ERROR: " ++ error.message ++ "; " ++
        "wrote into groups: [" ++ joinGroups (sortGroups (swr.map (·.command.group))) ++
        "]; cannot write into: [" ++ joinGroups bad ++ "]") ∈
        (reqUpload.onFinished px ctx swr error spentMs).events ∧
      bad.Pairwise (·.val ≤ ·.val) ∧
      (swr.map (·.command.group) : Multiset CInt) + bad = ctx.session.groups ∧
      (bad : Multiset CInt) = ctx.session.groups - swr.map (·.command.group) ∧
      (swr.map (·.command.group)).length + bad.length = ctx.session.groups.length ∧
      (ctx.session.groups.Nodup → bad.Nodup ∧
        (∀ g, g ∈ bad ↔ g ∈ ctx.session.groups ∧ g ∉ swr.map (·.command.group)) ∧
        bad.Disjoint (swr.map (·.command.group))) := by
  have hdiff : (setDifference (sortGroups ctx.session.groups)
      (sortGroups (swr.map (·.command.group))) : Multiset CInt) =
      ctx.session.groups - swr.map (·.command.group) := by
    rw [coe_setDifference (sortGroups_sorted _) (sortGroups_sorted _),
      Multiset.coe_eq_coe.mpr (sortGroups_perm _), Multiset.coe_eq_coe.mpr (sortGroups_perm _)]
  have hsum : (swr.map (·.command.group) : Multiset CInt) + setDifference
      (sortGroups ctx.session.groups) (sortGroups (swr.map (·.command.group))) =
      ctx.session.groups := by
    rw [hdiff, add_tsub_cancel_of_le hsub]
  refine ⟨_, rfl, by simp [reqUpload_onFinished_error_events px ctx swr spentMs herr],
    (sortGroups_sorted _).sublist (setDifference_sublist _ _), hsum, hdiff,
    by simpa using congrArg Multiset.card hsum, fun hnd => ?_⟩
  have hnd' : (ctx.session.groups : Multiset CInt).Nodup := hnd
  have hmem : ∀ g, g ∈ setDifference (sortGroups ctx.session.groups)
      (sortGroups (swr.map (·.command.group))) ↔
      g ∈ ctx.session.groups ∧ g ∉ swr.map (·.command.group) := fun g => by
    rw [← Multiset.mem_coe, hdiff, Multiset.mem_sub_of_nodup hnd', Multiset.mem_coe,
      Multiset.mem_coe]
  exact ⟨Multiset.coe_nodup.mp (hdiff ▸ Multiset.nodup_of_le (Multiset.sub_le_self _ _) hnd'),
    hmem, fun g hb hg => ((hmem g).mp hb).2 hg⟩

/-- A write into groups 5 and 7 that reached group 5 alone. -/
theorem reqUpload_onFinished_bad_groups_sample :
    ∃ bad, bad = setDifference (sortGroups [groupFive, ⟨7, by decide, by decide⟩])
        (sortGroups [groupFive]) ∧
      (([groupFive] : List CInt) : Multiset CInt) + bad = [groupFive, ⟨7, by decide, by decide⟩] := by
  obtain ⟨bad, hbad, -, -, hsum, -⟩ := reqUpload_onFinished_bad_groups
    (Proxy.sample (.constant [groupFive]) [defaultNamespace] 1 true)
    ⟨{ Proxy.getSession with groups := [groupFive, ⟨7, by decide, by decide⟩] }, ⟨"f"⟩, "p"⟩
    [.sample 5 "f" 0] ⟨1, "write failed"⟩ 0 rfl (by decide)
  exact ⟨bad, hbad, hsum⟩

end MediastorageProxy
