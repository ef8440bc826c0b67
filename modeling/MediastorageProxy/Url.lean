import Mathlib.Data.List.Nodup
import Mathlib.Data.String.Basic
import MediastorageProxy.Proxy

/-!
# Names and groups from the URL

How the handlers cut a request's URL, with the `size_t` arithmetic of the
sources:

* `getFilename` (`get_filename`): the file name runs from after the second `/`
  to the query; the namespace from after the first `-` of the *whole* URL to
  that `/`. `getFileInfo` looks the namespace up.
* `groupAndFilename`, `Proxy.prepareSession` (`prepare_session`): the group
  token between the second and third `/`, the file name after the third; the
  session's groups are the balancer's symmetric groups of the token, then its
  cache groups of the file name, when the token is an `int`, and none
  otherwise.

What they give on URLs of the intended shapes: `getFilename_namespaced`,
`getFilename_default`, `groupAndFilename_of_eq`. What they give on others:
with no second `/`, `find` returns `npos` and `npos + 1` wraps to `0`, so the
file name is the whole URL (`prepareSession_get_bare`); a `-` in the file name
makes the namespace empty (`getFilename_dash_after_slash`). The groups are a concatenation, duplicate-free
exactly when both of the balancer's lists are and they share no group
(`prepareSession_groups_nodup_iff`).
-/

namespace MediastorageProxy

/-! ## Positions in a URL -/

theorem sizeAdd_of_lt {a b : Nat} (h : a + b < 2 ^ 64) : sizeAdd a b = a + b := by
  unfold sizeAdd; omega

theorem sizeSub_of_le {a b : Nat} (h : b ≤ a) (h' : a < 2 ^ 64) : sizeSub a b = a - b := by
  unfold sizeSub; omega

@[simp] theorem sizeAdd_npos_one : sizeAdd npos 1 = 0 := by unfold sizeAdd npos; omega

theorem sizeSub_npos {b : Nat} (h : b ≤ npos) : sizeSub npos b = npos - b := by
  unfold sizeSub npos at *; omega

/-- A query suffix of a URL: nothing, or `?` and the query. -/
def QuerySuffix (t : String) : Prop := t.data = [] ∨ ∃ q, t.data = '?' :: q

/-- The characters from `l.length` to the query are the file name `f`, when the
    URL goes on with `f` and then a query suffix. -/
theorem substr_upto_query {s f t : String} {l : List Char} (hs : s.data = l ++ f.data ++ t.data)
    (hlt : s.length < npos) (hf : '?' ∉ f.data) (ht : QuerySuffix t) :
    substr s l.length (sizeSub (find s '?' l.length) l.length) = .ok f := by
  have hlen : s.length = l.length + f.length + t.length := by
    simp only [← length_data, hs, List.length_append]
  rcases ht with ht | ⟨q, ht⟩
  · have hfind : find s '?' l.length = npos := find_of_not_mem (by
      simpa [hs, ht, List.drop_left'] using hf)
    rw [hfind, sizeSub_npos (by omega), substr_of_le (by omega) (by omega)]
    simp [hs, ht, List.drop_left']
  · have hfind : find s '?' l.length = (l ++ f.data).length :=
      find_of_eq_append (r := q) (by simp [hs, ht]) (by simp) (by simpa [List.drop_left'] using hf)
    rw [hfind, sizeSub_of_le (by simp) (by simp; unfold npos at hlt; omega),
      show (l ++ f.data).length - l.length = f.data.length by simp,
      substr_of_eq_append (r := t.data) hs]

theorem sizeAdd_find_le {s : String} (c : Char) (pos : Nat) (h : s.length < npos) :
    sizeAdd (find s c pos) 1 ≤ s.length := by
  rcases find_lt_or_npos s c pos with hf | hf
  · simp [hf]
  · rw [sizeAdd_of_lt (by unfold npos at h; omega)]; omega

/-! ## `get_filename` and `get_file_info` -/

/-- `get_filename(req)`: the file name runs from after the second `/` of the
    URL (searched from position 1) to the query; the namespace from after the
    first `-` of the URL to that `/`. It is `"default"` when the URL has no
    `-`, and empty when the first `-` is not before that `/`. -/
def getFilename (req : HttpRequest) : Except Abort (String × String) := do
  let scriptname := req.url
  let begin := sizeAdd (find scriptname '/' 1) 1
  let endPos := find scriptname '?' begin
  let filename ← substr scriptname begin (sizeSub endPos begin)
  let namespaceEnd := sizeSub begin 1
  let namespaceBeg := find scriptname '-' 0
  if namespaceBeg = npos then
    return (filename, "default")
  else
    let namespaceBeg := sizeAdd namespaceBeg 1
    if namespaceBeg < namespaceEnd then
      let strNamespace ← substr scriptname namespaceBeg (sizeSub namespaceEnd namespaceBeg)
      return (filename, strNamespace)
    else
      return (filename, "")

/-- `get_file_info(req)`: the file name, and the namespace configured under the
    name `get_filename` finds, or `namespace_t()`. -/
def Proxy.getFileInfo (px : Proxy) (req : HttpRequest) : Except Abort (String × Namespace) := do
  let p ← getFilename req
  return (p.1, (px.namespaces p.2).getD Namespace.empty)

/-- `get_filename` never throws: every position it cuts at is within the URL. -/
theorem getFilename_ok (req : HttpRequest) :
    ∃ p, getFilename req = .ok p ∧ p.1.length ≤ req.url.length := by
  simp only [getFilename, substr_ok_of_le _ (sizeAdd_find_le _ _ req.url_lt), bind, Except.bind,
    pure, Except.pure]
  have hle (b c : Nat) : (⟨(req.url.data.drop b).take c⟩ : String).length ≤ req.url.length := by
    rw [← length_data, ← length_data]
    simp
  split_ifs <;> exact ⟨_, rfl, hle _ _⟩

theorem Proxy.getFileInfo_ok (px : Proxy) (req : HttpRequest) :
    ∃ f ns, px.getFileInfo req = .ok (f, ns) ∧ f.length < npos := by
  obtain ⟨p, hp, hlen⟩ := getFilename_ok req
  exact ⟨p.1, (px.namespaces p.2).getD Namespace.empty, by
    simp [Proxy.getFileInfo, hp, bind, Except.bind, pure, Except.pure], by
    have := req.url_lt; omega⟩

theorem Proxy.getFileInfo_of_getFilename {px : Proxy} {req : HttpRequest} {f n : String}
    (h : getFilename req = .ok (f, n)) :
    px.getFileInfo req = .ok (f, (px.namespaces n).getD Namespace.empty) := by
  simp [Proxy.getFileInfo, h, bind, Except.bind, pure, Except.pure]

/-- A namespace found is found under its own name; `namespace_t()` has none. -/
theorem Proxy.name_of_getD (px : Proxy) (n : String)
    (h : ((px.namespaces n).getD Namespace.empty).name ≠ "") :
    ((px.namespaces n).getD Namespace.empty).name = n := by
  cases hn : px.namespaces n with
  | none => simp [hn, Namespace.empty] at h
  | some ns => exact px.namespaces_name n ns hn

theorem getFilename_namespaced {req : HttpRequest} {v n f t : String}
    (hurl : req.url = "/" ++ v ++ "-" ++ n ++ "/" ++ f ++ t)
    (hv : '/' ∉ v.data) (hv' : '-' ∉ v.data) (hn : n ≠ "") (hn' : '/' ∉ n.data)
    (hf : '?' ∉ f.data) (ht : QuerySuffix t) :
    getFilename req = .ok (f, n) := by
  have hs : req.url.data = '/' :: (v.data ++ '-' :: (n.data ++ '/' :: (f.data ++ t.data))) := by
    simp [hurl]
  have hlen : req.url.length = v.length + n.length + f.length + t.length + 3 := by
    rw [← length_data, hs]; simp; omega
  have hn0 : 0 < n.length := by
    rcases n with ⟨_ | _⟩
    · exact absurd rfl hn
    · simp
  have hlt := req.url_lt
  unfold npos at hlt
  -- the second `/` ends the namespace; the file name starts after it
  have hbegin : sizeAdd (find req.url '/' 1) 1 = v.length + n.length + 3 := by
    rw [find_of_eq_append (l := '/' :: (v.data ++ '-' :: n.data)) (r := f.data ++ t.data)
      (by simp [hs]) (by simp) (by simp [hv, hn']), sizeAdd_of_lt (by simp; omega)]
    simp; omega
  have hfile : substr req.url (v.length + n.length + 3)
      (sizeSub (find req.url '?' (v.length + n.length + 3)) (v.length + n.length + 3)) = .ok f := by
    have h := substr_upto_query (l := '/' :: (v.data ++ '-' :: (n.data ++ ['/'])))
      (by simp [hs]) req.url_lt hf ht
    rwa [show ('/' :: (v.data ++ '-' :: (n.data ++ ['/']))).length = v.length + n.length + 3 by
      simp; omega] at h
  -- the first `-` follows the verb; the namespace starts after it
  have hdash : find req.url '-' 0 = v.length + 1 := by
    rw [find_of_eq_append (l := '/' :: v.data) (r := n.data ++ '/' :: (f.data ++ t.data))
      (by simp [hs]) (by simp) (by simp [hv'])]
    simp
  have hns : substr req.url (v.length + 1 + 1)
      (sizeSub (v.length + n.length + 2) (v.length + 1 + 1)) = .ok n := by
    rw [sizeSub_of_le (by omega) (by omega), show v.length + n.length + 2 - (v.length + 1 + 1) =
      n.length by omega]
    have h := substr_of_eq_append (s := req.url) (l := '/' :: (v.data ++ ['-'])) (m := n.data)
      (r := '/' :: (f.data ++ t.data)) (by simp [hs])
    rwa [show ('/' :: (v.data ++ ['-'])).length = v.length + 1 + 1 by simp] at h
  simp [getFilename, hbegin, hfile, hdash, hns, hn0,
    sizeAdd_of_lt (show v.length + 1 + 1 < 2 ^ 64 by omega),
    sizeSub_of_le (show 1 ≤ v.length + n.length + 3 by omega) (show v.length + n.length + 3 < 2 ^ 64 by omega),
    show v.length + 1 ≠ npos by unfold npos; omega, bind, Except.bind, pure, Except.pure]

/-- `/upload-media/f?size=1`. -/
theorem getFilename_namespaced_upload :
    getFilename (.ofUrl "/upload-media/f?size=1" (by decide)) = .ok ("f", "media") :=
  getFilename_namespaced (v := "upload") (t := "?size=1") rfl (by decide) (by decide) (by decide)
    (by decide) (by decide) (.inr ⟨_, rfl⟩)

/-- Where `get_filename` starts the file name of `/<v>/<f><query>`, and the
    file name it cuts there. -/
theorem getFilename_begin_file {req : HttpRequest} {v f t : String}
    (hurl : req.url = "/" ++ v ++ "/" ++ f ++ t) (hv : '/' ∉ v.data) (hf : '?' ∉ f.data)
    (ht : QuerySuffix t) :
    sizeAdd (find req.url '/' 1) 1 = v.length + 2 ∧
      substr req.url (v.length + 2) (sizeSub (find req.url '?' (v.length + 2)) (v.length + 2)) =
        .ok f := by
  have hs : req.url.data = '/' :: (v.data ++ '/' :: (f.data ++ t.data)) := by simp [hurl]
  have hlen : req.url.length = v.length + f.length + t.length + 2 := by
    rw [← length_data, hs]; simp; omega
  have hlt := req.url_lt
  unfold npos at hlt
  refine ⟨?_, ?_⟩
  · rw [find_of_eq_append (l := '/' :: v.data) (r := f.data ++ t.data) (by simp [hs]) (by simp)
      (by simp [hv]), sizeAdd_of_lt (by simp; omega)]
    simp
  · have h := substr_upto_query (l := '/' :: (v.data ++ ['/'])) (by simp [hs]) req.url_lt hf ht
    rwa [show ('/' :: (v.data ++ ['/'])).length = v.length + 2 by simp] at h

/-- The file name `get_filename` cuts from `/<v>/<f>`, whatever namespace it
    finds. -/
theorem getFilename_file {req : HttpRequest} {v f : String} (hurl : req.url = "/" ++ v ++ "/" ++ f)
    (hv : '/' ∉ v.data) (hf : '?' ∉ f.data) : ∃ n, getFilename req = .ok (f, n) := by
  obtain ⟨hbegin, hfile⟩ := getFilename_begin_file (t := "")
    (by rw [hurl, String.append_empty]) hv hf (.inl rfl)
  have hle : v.length + 1 ≤ req.url.length := by
    rw [hurl]; simp only [String.length_append, show "/".length = 1 from rfl]; omega
  simp only [getFilename, hbegin, hfile, bind, Except.bind, pure, Except.pure,
    sizeSub_of_le (show 1 ≤ v.length + 2 by omega) (show v.length + 2 < 2 ^ 64 by
      have := req.url_lt; unfold npos at this; omega)]
  split_ifs with _ hlt
  · exact ⟨_, rfl⟩
  · rw [substr_ok_of_le _ (by omega)]
    exact ⟨_, rfl⟩
  · exact ⟨_, rfl⟩

theorem getFilename_default {req : HttpRequest} {v f t : String}
    (hurl : req.url = "/" ++ v ++ "/" ++ f ++ t) (hv : '/' ∉ v.data) (hv' : '-' ∉ v.data)
    (hf : '?' ∉ f.data) (hf' : '-' ∉ f.data) (ht : QuerySuffix t) (ht' : '-' ∉ t.data) :
    getFilename req = .ok (f, "default") := by
  obtain ⟨hbegin, hfile⟩ := getFilename_begin_file hurl hv hf ht
  have hdash : find req.url '-' 0 = npos := find_of_not_mem (by simp [hurl, hv', hf', ht'])
  simp [getFilename, hbegin, hfile, hdash, bind, Except.bind, pure, Except.pure]

/-- A `-` after the second `/`, in the file name or in the query, comes after
    the end of the namespace: the namespace is empty. -/
theorem getFilename_dash_after_slash {req : HttpRequest} {v r : String}
    (hurl : req.url = "/" ++ v ++ "/" ++ r) (hv : '/' ∉ v.data) (hv' : '-' ∉ v.data)
    (hr : '-' ∈ r.data) : ∃ filename, getFilename req = .ok (filename, "") := by
  have hs : req.url.data = '/' :: (v.data ++ '/' :: r.data) := by simp [hurl]
  have hlt := req.url_lt
  unfold npos at hlt
  have hlen : req.url.length = v.length + r.length + 2 := by
    rw [← length_data, hs]; simp; omega
  have hbegin : sizeAdd (find req.url '/' 1) 1 = v.length + 2 := by
    rw [find_of_eq_append (l := '/' :: v.data) (r := r.data) (by simp [hs]) (by simp)
      (by simp [hv]), sizeAdd_of_lt (by simp; omega)]
    simp
  obtain ⟨a, b, hab, ha⟩ := List.eq_append_cons_of_mem hr
  have ha' : a.length < r.length := by
    rw [← length_data, hab]; simp
  have hdash : find req.url '-' 0 = v.length + 2 + a.length := by
    rw [find_of_eq_append (l := '/' :: (v.data ++ '/' :: a)) (r := b) (by simp [hs, hab])
      (by simp) (by simp [hv', ha])]
    simp; omega
  have hfile := substr_ok_of_le (s := req.url)
    (sizeSub (find req.url '?' (v.length + 2)) (v.length + 2)) (show v.length + 2 ≤ req.url.length by
      omega)
  refine ⟨⟨(req.url.data.drop (v.length + 2)).take
    (sizeSub (find req.url '?' (v.length + 2)) (v.length + 2))⟩, ?_⟩
  simp [getFilename, hbegin, hfile, hdash, bind, Except.bind, pure, Except.pure,
    sizeSub_of_le (show 1 ≤ v.length + 2 by omega) (show v.length + 2 < 2 ^ 64 by omega),
    sizeAdd_of_lt (show v.length + 2 + a.length + 1 < 2 ^ 64 by omega),
    show v.length + 2 + a.length ≠ npos by unfold npos; omega]
  omega

/-! ## `prepare_session` -/

/-- The group token and the file name `prepare_session` cuts from a URL: the
    token between the second and the third `/`, the file name from after the
    third `/` to the query. -/
def groupAndFilename (url : String) : Except Abort (String × String) := do
  let bg := sizeAdd (find url '/' 1) 1
  let eg := find url '/' bg
  let bf := sizeAdd eg 1
  let ef := find url '?' bf
  let g ← substr url bg (sizeSub eg bg)
  let filename ← substr url bf (sizeSub ef bf)
  return (g, filename)

/-- The groups `prepare_session` sets when the group token is an `int`: the
    balancer's symmetric groups of the token, then its cache groups of the
    file name. -/
def tokenGroups (m : Mastermind) (g filename : String) : Option (List CInt) :=
  match lexicalCastInt g with
  | .ok group => some (m.getSymmetricGroups group ++ m.getCacheGroups filename)
  | .error _ => none

open Proc in
/-- `prepare_session(req)`, reaching the proxy's members through `ptrs`: a
    clone of the proxy's session with the groups of the URL's group token and
    file name — none, and a log line, when the token is not an `int` — and the
    key of the file name. -/
def Proxy.prepareSessionWith (ptrs : Pointers) (px : Proxy) (req : HttpRequest) :
    Proc (Session × Key) := do
  let session ← ptrs.getSession
  let (g, filename) ← lift (groupAndFilename req.url)
  let session ← match lexicalCastInt g with
    | .ok group => do
      ptrs.reachMastermind
      pure { session with
        groups := px.mastermind.getSymmetricGroups group ++ px.mastermind.getCacheGroups filename }
    | .error _ => do
      log .error "Cannot to determine groups"
      pure session
  logAt px.logLevel .info ("Fetched groups for request: [" ++ joinGroups session.groups ++ "]")
  logAt px.logLevel .info ("filename: " ++ filename)
  return (session, ⟨filename⟩)

/-- `prepare_session(req)` on a proxy whose members are set. -/
def Proxy.prepareSession (px : Proxy) (req : HttpRequest) : Proc (Session × Key) :=
  px.prepareSessionWith .set req

theorem groupAndFilename_ok (url : String) (h : url.length < npos) :
    ∃ g f, groupAndFilename url = .ok (g, f) := by
  simp [groupAndFilename, substr_ok_of_le _ (sizeAdd_find_le _ _ h), bind, Except.bind, pure,
    Except.pure]

theorem prepareSession_spec (px : Proxy) (req : HttpRequest) :
    ∃ g f, groupAndFilename req.url = .ok (g, f) ∧
      (px.prepareSession req).result =
        .ok ({ Proxy.getSession with groups := (tokenGroups px.mastermind g f).getD [] }, ⟨f⟩) ∧
      replies (px.prepareSession req).events = [] ∧ issued (px.prepareSession req).events = [] := by
  obtain ⟨g, f, h⟩ := groupAndFilename_ok req.url req.url_lt
  refine ⟨g, f, h, ?_⟩
  cases ht : lexicalCastInt g <;>
  simp [Proxy.prepareSession, Proxy.prepareSessionWith, h, ht, tokenGroups, Proxy.getSession]

theorem groupAndFilename_of_eq {url v t f q : String}
    (hurl : url = "/" ++ v ++ "/" ++ t ++ "/" ++ f ++ q) (hlt : url.length < npos)
    (hv : '/' ∉ v.data) (ht : '/' ∉ t.data) (hf : '?' ∉ f.data) (hq : QuerySuffix q) :
    groupAndFilename url = .ok (t, f) := by
  have hs : url.data = '/' :: (v.data ++ '/' :: (t.data ++ '/' :: (f.data ++ q.data))) := by
    simp [hurl]
  have hlen : url.length = v.length + t.length + f.length + q.length + 3 := by
    rw [← length_data, hs]; simp; omega
  have hlt' := hlt
  unfold npos at hlt'
  have hbg : sizeAdd (find url '/' 1) 1 = v.length + 2 := by
    rw [find_of_eq_append (l := '/' :: v.data) (r := t.data ++ '/' :: (f.data ++ q.data))
      (by simp [hs]) (by simp) (by simp [hv]), sizeAdd_of_lt (by simp; omega)]
    simp
  have heg : find url '/' (v.length + 2) = v.length + t.length + 2 := by
    rw [find_of_eq_append (l := '/' :: (v.data ++ '/' :: t.data)) (r := f.data ++ q.data)
      (by simp [hs]) (by simp) (by simp [List.drop_append_eq_append_drop, ht,
        List.drop_of_length_le (show v.data.length ≤ v.length + 1 by simp)])]
    simp; omega
  have hg : substr url (v.length + 2) (sizeSub (v.length + t.length + 2) (v.length + 2)) = .ok t := by
    rw [sizeSub_of_le (by omega) (by omega), show v.length + t.length + 2 - (v.length + 2) =
      t.data.length by simp]
    have h := substr_of_eq_append (s := url) (l := '/' :: (v.data ++ ['/'])) (m := t.data)
      (r := '/' :: (f.data ++ q.data)) (by simp [hs])
    rwa [show ('/' :: (v.data ++ ['/'])).length = v.length + 2 by simp] at h
  have hfile : substr url (v.length + t.length + 2 + 1)
      (sizeSub (find url '?' (v.length + t.length + 2 + 1)) (v.length + t.length + 2 + 1)) =
        .ok f := by
    have h := substr_upto_query (l := '/' :: (v.data ++ '/' :: (t.data ++ ['/']))) (by simp [hs])
      hlt hf hq
    rwa [show ('/' :: (v.data ++ '/' :: (t.data ++ ['/']))).length = v.length + t.length + 2 + 1 by
      simp; omega] at h
  simp [groupAndFilename, hbg, heg, hg, sizeAdd_of_lt (show v.length + t.length + 2 + 1 < 2 ^ 64 by
    omega), hfile, bind, Except.bind, pure, Except.pure]

/-- The group `5`. -/
def groupFive : CInt := ⟨5, by decide, by decide⟩

/-- `/get/5`: with no third `/`, the group token runs to the end and the file
    name is the whole URL (`npos + 1` wraps to `0`). The token parses, so the
    session gets the balancer's groups of `5` and of the file name `/get/5`,
    instead of none. -/
theorem prepareSession_get_bare (px : Proxy) :
    (px.prepareSession (.ofUrl "/get/5" (by decide))).result =
      .ok ({ Proxy.getSession with groups := px.mastermind.getSymmetricGroups groupFive ++
        px.mastermind.getCacheGroups "/get/5" }, ⟨"/get/5"⟩) := by
  obtain ⟨g, f, h, hr, -⟩ := prepareSession_spec px (.ofUrl "/get/5" (by decide))
  have hgf : groupAndFilename "/get/5" = .ok ("5", "/get/5") := rfl
  have hfive : lexicalCastInt "5" = .ok groupFive := rfl
  rw [hr]
  simp only [HttpRequest.ofUrl, hgf, Except.ok.injEq, Prod.mk.injEq] at h
  obtain ⟨rfl, rfl⟩ := h
  simp [tokenGroups, hfive]

theorem prepareSession_of_eq {px : Proxy} {req : HttpRequest} {v t f q : String}
    (hurl : req.url = "/" ++ v ++ "/" ++ t ++ "/" ++ f ++ q)
    (hv : '/' ∉ v.data) (ht : '/' ∉ t.data) (hf : '?' ∉ f.data) (hq : QuerySuffix q) :
    (px.prepareSession req).result =
      .ok ({ Proxy.getSession with groups := (tokenGroups px.mastermind t f).getD [] }, ⟨f⟩) := by
  obtain ⟨g, f', h, hr, -⟩ := prepareSession_spec px req
  rw [groupAndFilename_of_eq hurl req.url_lt hv ht hf hq] at h
  cases h
  exact hr

/-- `/get/5/f` with a balancer answering `[5]` to everything: the symmetric
    groups and the cache groups are each duplicate-free, but the session gets
    `[5, 5]`. -/
theorem prepareSession_groups_duplicate :
    ((Proxy.sample (.constant [groupFive]) [] 1 true).mastermind.getSymmetricGroups groupFive).Nodup ∧
      ((Proxy.sample (.constant [groupFive]) [] 1 true).mastermind.getCacheGroups "f").Nodup ∧
      ∃ s k, ((Proxy.sample (.constant [groupFive]) [] 1 true).prepareSession
        (.ofUrl "/get/5/f" (by decide))).result = .ok (s, k) ∧ ¬ s.groups.Nodup := by
  refine ⟨by simp [Proxy.sample, Mastermind.constant], by simp [Proxy.sample, Mastermind.constant],
    _, _, prepareSession_of_eq (v := "get") (t := "5") (f := "f") (q := "") rfl (by decide)
      (by decide) (by decide) (.inl rfl), ?_⟩
  have hfive : lexicalCastInt "5" = .ok groupFive := rfl
  simp [tokenGroups, hfive, Proxy.sample, Mastermind.constant]

/-- The groups `prepare_session` sets are the balancer's symmetric groups of the
    token followed by its cache groups of the file name, when the token is an
    `int`, and none otherwise; so they are duplicate-free exactly when both of
    the balancer's lists are and share no group. -/
theorem prepareSession_groups_nodup_iff (px : Proxy) (req : HttpRequest) :
    ∃ g f, groupAndFilename req.url = .ok (g, f) ∧
      (px.prepareSession req).result =
        .ok ({ Proxy.getSession with groups := (tokenGroups px.mastermind g f).getD [] }, ⟨f⟩) ∧
      (((tokenGroups px.mastermind g f).getD []).Nodup ↔ ∀ group, lexicalCastInt g = .ok group →
        (px.mastermind.getSymmetricGroups group).Nodup ∧ (px.mastermind.getCacheGroups f).Nodup ∧
          (px.mastermind.getSymmetricGroups group).Disjoint (px.mastermind.getCacheGroups f)) := by
  obtain ⟨g, f, h, hr, -⟩ := prepareSession_spec px req
  refine ⟨g, f, h, hr, ?_⟩
  cases hg : lexicalCastInt g with
  | error e => simp [tokenGroups, hg]
  | ok group => simp [tokenGroups, hg, List.nodup_append]

end MediastorageProxy
