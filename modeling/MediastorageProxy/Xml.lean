import MediastorageProxy.Cpp

/-!
# XML, as a reader sees it

The upload and download-info replies are XML documents, written by `<<` of
their parts into a stream. What they say is what an XML reader makes of them:
this module is such a reader, for XML 1.0 as the proxy writes it. The
documents declare `encoding="utf-8"`, so the reader takes the body's bytes as
UTF-8 (RFC 3629): a byte string that is not UTF-8 is no document. It reads one
byte at a time (`Xml.stepByte`), so that reading `a ++ b` is reading `a`, then
`b` (`Xml.readBytes_append`); each character the decoder completes goes to the
XML reader (`Xml.step`), which builds the tree of elements, attributes and
character data, decoding the predefined entities and character references.
The tree holds its names and texts as UTF-8 bytes, as the proxy's strings do.

The reader checks what makes a document well-formed: one root element, after
white space and processing instructions; names built of XML's name
characters; matching end tags; distinct attribute names; no `<` in attribute
values, every `&` starting a reference it can decode, and no `]]>` in character
data; only XML's characters. It normalises attribute values as XML does, each
tab and line feed in them becoming a space. It rejects comments, `CDATA`
sections and document type declarations, and carriage returns (which XML
normalises to line feeds), none of which the proxy writes; it reads the XML
declaration as a processing instruction, without looking into it.

* `Xml.readBytes_eq`, `Xml.read_eq`: reading bytes is decoding them, then
  reading the characters decoded; `Xml.utf8Decode_bytes`,
  `Xml.bytes_of_utf8Decode`: the decoder reads back every encoded text, and
  only encodings;
* `Xml.readBytes_attrValue`, `Xml.readBytes_charData`: a value that is UTF-8
  with none of the characters XML reserves reads as itself (`Xml.AttrText`,
  `Xml.CharText`), as the numbers `<<` writes do.
-/

namespace MediastorageProxy

namespace Xml

/-- A node of a document: an element, with its name, attributes and children,
    or character data. -/
inductive Node
  | element (name : String) (attrs : List (String × String)) (children : List Node)
  | text (s : String)

namespace Node

/-- The name of an element. -/
def name : Node → Option String
  | element n _ _ => some n
  | text _ => none

/-- The value of an element's attribute. -/
def attr : Node → String → Option String
  | element _ as _, a => as.lookup a
  | text _, _ => none

/-- The first child element of a name. -/
def child : Node → String → Option Node
  | element _ _ cs, n => cs.find? fun c => c.name == some n
  | text _, _ => none

/-- The character data directly inside an element. -/
def content : Node → String
  | element _ _ cs => String.join (cs.map fun | text s => s | element .. => "")
  | text s => s

end Node

/-- `Char` of XML 1.0 (§2.2), less the carriage return. -/
def isXmlChar (c : Char) : Bool :=
  c = '\t' || c = '\n' || decide (0x20 ≤ c.toNat ∧ c.toNat ≤ 0xD7FF) ||
    decide (0xE000 ≤ c.toNat ∧ c.toNat ≤ 0xFFFD) || decide (0x10000 ≤ c.toNat)

/-- White space inside markup (§2.3), less the carriage return. -/
def isSpace (c : Char) : Bool := c = ' ' || c = '\t' || c = '\n'

/-- The code points a name may start with (`NameStartChar`, §2.3). -/
def nameStartRanges : List (Nat × Nat) :=
  [(0x3A, 0x3A), (0x41, 0x5A), (0x5F, 0x5F), (0x61, 0x7A), (0xC0, 0xD6), (0xD8, 0xF6),
    (0xF8, 0x2FF), (0x370, 0x37D), (0x37F, 0x1FFF), (0x200C, 0x200D), (0x2070, 0x218F),
    (0x2C00, 0x2FEF), (0x3001, 0xD7FF), (0xF900, 0xFDCF), (0xFDF0, 0xFFFD), (0x10000, 0xEFFFF)]

/-- The further code points a name may go on with (`NameChar`, §2.3). -/
def nameRanges : List (Nat × Nat) :=
  [(0x2D, 0x2E), (0x30, 0x39), (0xB7, 0xB7), (0x300, 0x36F), (0x203F, 0x2040)] ++ nameStartRanges

/-- Whether a character falls in one of the ranges. -/
def inRanges (rs : List (Nat × Nat)) (c : Char) : Bool :=
  rs.any fun r => decide (r.1 ≤ c.toNat ∧ c.toNat ≤ r.2)

/-- The value of decimal or hexadecimal digits, when there are some and
    nothing else. -/
def digitsIn (base : Nat) (ds : List Char) : Option Nat :=
  if ds ≠ [] ∧ ∀ d ∈ ds, d.isDigit ∨ base = 16 ∧ d.toLower ∈ ['a', 'b', 'c', 'd', 'e', 'f'] then
    some (ds.foldl (fun n d => base * n + (if d.isDigit then d.toNat - 48 else d.toLower.toNat - 87)) 0)
  else none

/-- The character a code point names, when it is one of XML's. -/
def charOf (n : Nat) : Option Char :=
  if (Char.ofNat n).toNat = n ∧ isXmlChar (Char.ofNat n) then some (Char.ofNat n) else none

/-- What a reference `&e;` stands for: one of the five predefined entities
    (§4.6), or a character reference `&#n;` or `&#xh;` (§4.1). -/
def decodeRef : List Char → Option Char
  | ['a', 'm', 'p'] => some '&'
  | ['l', 't'] => some '<'
  | ['g', 't'] => some '>'
  | ['q', 'u', 'o', 't'] => some '"'
  | ['a', 'p', 'o', 's'] => some (Char.ofNat 39)
  | '#' :: 'x' :: ds => (digitsIn 16 ds).bind charOf
  | '#' :: ds => (digitsIn 10 ds).bind charOf
  | _ => none

/-! ## UTF-8

The bytes of a body are read as UTF-8 (RFC 3629, §3): a character is the
shortest sequence of one to four bytes that spells its code point, the first
byte saying how many follow. The decoder takes a sequence when it is the
encoding of the character it spells (`utf8Push`), so that overlong forms,
surrogates, code points past U+10FFFF and stray continuation bytes are
rejected, as is anything that is not a byte. -/

/-- The bytes of the UTF-8 encoding of a code point. -/
def utf8Codes (n : Nat) : List Nat :=
  if n < 0x80 then [n]
  else if n < 0x800 then [0xC0 + n / 0x40, 0x80 + n % 0x40]
  else if n < 0x10000 then [0xE0 + n / 0x1000, 0x80 + n / 0x40 % 0x40, 0x80 + n % 0x40]
  else [0xF0 + n / 0x40000, 0x80 + n / 0x1000 % 0x40, 0x80 + n / 0x40 % 0x40, 0x80 + n % 0x40]

/-- The UTF-8 encoding of a character, a byte to a `Char`, as the proxy's
    strings hold bytes. -/
def utf8Bytes (c : Char) : List Char := (utf8Codes c.toNat).map Char.ofNat

/-- The length of the sequence a first byte starts. -/
def seqLength (b : Char) : Nat :=
  if b.toNat < 0xC0 then 1 else if b.toNat < 0xE0 then 2 else if b.toNat < 0xF0 then 3 else 4

/-- The code point a sequence spells, from the bits its bytes carry. -/
def seqValue : List Char → Nat
  | [b₀, b₁] => b₀.toNat % 0x20 * 0x40 + b₁.toNat % 0x40
  | [b₀, b₁, b₂] => b₀.toNat % 0x10 * 0x1000 + b₁.toNat % 0x40 * 0x40 + b₂.toNat % 0x40
  | [b₀, b₁, b₂, b₃] =>
    b₀.toNat % 0x08 * 0x40000 + b₁.toNat % 0x40 * 0x1000 + b₂.toNat % 0x40 * 0x40 + b₃.toNat % 0x40
  | bs => (bs.headD (Char.ofNat 0)).toNat

/-- The decoder after one more byte, from the bytes of the sequence begun:
    the sequence goes on, or ends in the character it encodes, or is no
    encoding. -/
def utf8Push (pend : List Char) (b : Char) : Option (List Char × Option Char) :=
  if (pend ++ [b]).length < seqLength ((pend ++ [b]).headD b) then some (pend ++ [b], none)
  else if utf8Bytes (Char.ofNat (seqValue (pend ++ [b]))) = pend ++ [b] then
    some ([], some (Char.ofNat (seqValue (pend ++ [b]))))
  else none

/-- The characters some bytes encode, after the sequence `p` begun, with the
    sequence they leave begun. -/
def utf8DecodeFrom : List Char → List Char → Option (List Char × List Char)
  | p, [] => some ([], p)
  | p, b :: l => (utf8Push p b).bind fun (p', c) =>
    (utf8DecodeFrom p' l).map fun (cs, q) => (c.toList ++ cs, q)

/-- The text some bytes encode, when they are UTF-8. -/
def utf8Decode (l : List Char) : Option (List Char) :=
  match utf8DecodeFrom [] l with
  | some (cs, []) => some cs
  | _ => none

theorem toNat_ofNat_of_lt {n : Nat} (h : n < 0xD800) : (Char.ofNat n).toNat = n := by
  simp only [Char.ofNat, Nat.isValidChar, h, true_or, dite_true]
  rfl

theorem toNat_lt_of_char (c : Char) : c.toNat < 0x110000 := by
  have := c.valid
  simp only [UInt32.isValidChar, Nat.isValidChar] at this
  simp only [Char.toNat]
  omega

theorem utf8Bytes_of_lt {c : Char} (h : c.toNat < 0x80) : utf8Bytes c = [c] := by
  simp [utf8Bytes, utf8Codes, h]

theorem utf8Bytes_ne_nil (c : Char) : utf8Bytes c ≠ [] := by
  unfold utf8Bytes utf8Codes
  split_ifs <;> simp

theorem seqLength_utf8Bytes (c b : Char) :
    seqLength ((utf8Bytes c).headD b) = (utf8Bytes c).length := by
  have := toNat_lt_of_char c
  unfold utf8Bytes utf8Codes
  split_ifs <;> simp (disch := omega) only [seqLength, toNat_ofNat_of_lt, List.map, List.headD,
    List.length, if_pos, if_neg]

/-- The bits a continuation byte carries. -/
theorem continuationByte_mod (k : Nat) : (0x80 + k % 0x40) % 0x40 = k % 0x40 := by omega

/-- The bits a first byte carries, below its marker. -/
theorem leadByte_mod {k q m : Nat} (hk : k % m = 0) (hq : q < m) : (k + q) % m = q := by
  rw [Nat.add_mod, hk, Nat.zero_add, Nat.mod_mod, Nat.mod_eq_of_lt hq]

theorem seqValue_utf8Bytes (c : Char) : seqValue (utf8Bytes c) = c.toNat := by
  have := toNat_lt_of_char c
  unfold utf8Bytes utf8Codes
  split_ifs <;> simp (disch := omega) only [seqValue, toNat_ofNat_of_lt, continuationByte_mod,
    leadByte_mod, List.map, List.headD] <;> omega

theorem utf8Push_partial {p : List Char} {b : Char}
    (h : (p ++ [b]).length < seqLength ((p ++ [b]).headD b)) :
    utf8Push p b = some (p ++ [b], none) := by
  rw [utf8Push, if_pos h]

theorem utf8Push_complete {p : List Char} {b c : Char} (h : p ++ [b] = utf8Bytes c) :
    utf8Push p b = some ([], some c) := by
  rw [utf8Push, h, seqLength_utf8Bytes, seqValue_utf8Bytes, Char.ofNat_toNat]
  simp

/-- What one byte does: it extends the sequence begun, or completes the
    encoding of a character. -/
theorem utf8Push_spec {p p' : List Char} {b : Char} {oc : Option Char}
    (h : utf8Push p b = some (p', oc)) : p ++ [b] = oc.toList.flatMap utf8Bytes ++ p' := by
  unfold utf8Push at h
  split_ifs at h with h₁ h₂ <;> cases h
  · simp
  · simpa using h₂.symm

/-- The rest of a character's bytes, after those begun, complete it. -/
theorem utf8DecodeFrom_utf8Bytes (c : Char) (l : List Char) :
    ∀ p bs, p ++ bs = utf8Bytes c → bs ≠ [] →
      utf8DecodeFrom p (bs ++ l) = (utf8DecodeFrom [] l).map fun (cs, q) => (c :: cs, q)
  | _, [], _, hne => absurd rfl hne
  | p, [b], h, _ => by simp [utf8DecodeFrom, utf8Push_complete h]
  | p, b :: b' :: bs, h, _ => by
    have hhead : (p ++ [b]).headD b = (utf8Bytes c).headD b := by rw [← h]; cases p <;> rfl
    have hlen : (p ++ [b]).length < seqLength ((p ++ [b]).headD b) := by
      rw [hhead, seqLength_utf8Bytes, ← h]
      simp
    rw [List.cons_append, utf8DecodeFrom, utf8Push_partial hlen]
    dsimp only [Option.some_bind]
    rw [utf8DecodeFrom_utf8Bytes c l (p ++ [b]) (b' :: bs) (by simpa using h) (by simp)]
    cases utf8DecodeFrom [] l <;> rfl

theorem utf8Decode_eq_some {l t : List Char} :
    utf8Decode l = some t ↔ utf8DecodeFrom [] l = some (t, []) := by
  unfold utf8Decode
  split <;> simp_all

/-- The decoder reads back every encoded text. -/
theorem utf8Decode_bytes (t : List Char) : utf8Decode (t.flatMap utf8Bytes) = some t := by
  rw [utf8Decode_eq_some]
  induction t with
  | nil => rfl
  | cons c t ih =>
    rw [List.flatMap_cons, utf8DecodeFrom_utf8Bytes c _ [] (utf8Bytes c) (List.nil_append _)
      (utf8Bytes_ne_nil c), ih]
    rfl

theorem bytes_of_utf8DecodeFrom {p l cs q : List Char} (h : utf8DecodeFrom p l = some (cs, q)) :
    p ++ l = cs.flatMap utf8Bytes ++ q := by
  induction l generalizing p cs with
  | nil => cases h; simp
  | cons b l ih =>
    simp only [utf8DecodeFrom, Option.bind_eq_some, Option.map_eq_some'] at h
    obtain ⟨⟨p', oc⟩, hp, ⟨cs', q'⟩, hd, he⟩ := h
    cases he
    rw [← List.singleton_append, ← List.append_assoc, utf8Push_spec hp, List.append_assoc, ih hd]
    simp

/-- The decoder reads only encodings: what it accepts is the encoding of what
    it returns. -/
theorem bytes_of_utf8Decode {l t : List Char} (h : utf8Decode l = some t) :
    t.flatMap utf8Bytes = l := by
  simpa using (bytes_of_utf8DecodeFrom (utf8Decode_eq_some.mp h)).symm

theorem utf8Decode_ascii {l : List Char} (h : ∀ c ∈ l, c.toNat < 0x80) : utf8Decode l = some l := by
  have hl : l.flatMap utf8Bytes = l := by
    induction l with
    | nil => rfl
    | cons c l ih =>
      rw [List.flatMap_cons, utf8Bytes_of_lt (h c (List.mem_cons_self c l)),
        ih fun d hd => h d (List.mem_cons_of_mem c hd)]
      rfl
  simpa [hl] using utf8Decode_bytes l

/-- An element whose end tag is still to come: its name, its attributes and
    the children read so far. -/
structure Frame where
  name : String
  attrs : List (String × String)
  children : List Node

/-- Where the reader is in the markup, with what it has read of the construct
    it is in. Names and texts are kept as the UTF-8 bytes of their characters,
    as the proxy's strings are. -/
inductive Mode
  /-- Outside the root element. -/
  | misc
  /-- Character data: the text decoded so far, after the number of `]` just
      read. -/
  | text (brackets : Nat) (s : List Char)
  /-- A reference in character data: the text before it, and its name. -/
  | ref (s e : List Char)
  /-- After `<`. -/
  | markup
  /-- Inside a processing instruction, just after a `?` or not. -/
  | pi (q : Bool)
  /-- A start tag's name. -/
  | stag (n : List Char)
  /-- Inside a start tag, after its name or an attribute; `sp` when white
      space followed. -/
  | tag (n : String) (as : List (String × String)) (sp : Bool)
  /-- An attribute's name. -/
  | aname (n : String) (as : List (String × String)) (a : List Char)
  /-- After an attribute's name, before `=`. -/
  | eq (n : String) (as : List (String × String)) (a : String)
  /-- After `=`, before the opening quote. -/
  | quote (n : String) (as : List (String × String)) (a : String)
  /-- Inside an attribute value opened by the quote `q`. -/
  | aval (n : String) (as : List (String × String)) (a : String) (q : Char) (v : List Char)
  /-- A reference inside an attribute value. -/
  | aref (n : String) (as : List (String × String)) (a : String) (q : Char) (v e : List Char)
  /-- After the `/` of an empty-element tag. -/
  | slash (n : String) (as : List (String × String))
  /-- An end tag's name. -/
  | etag (n : List Char)
  /-- After an end tag's name and white space. -/
  | etagEnd (n : String)

/-- The reader: where it is, the elements open, innermost first, and the root
    element once read. -/
structure Reader where
  mode : Mode
  stack : List Frame
  root : Option Node

namespace Reader

/-- The reader before the first character. -/
def init : Reader := ⟨.misc, [], none⟩

/-- Where character data resumes after markup: inside the innermost open
    element, or outside the root. -/
def resume (r : Reader) : Mode := if r.stack.isEmpty then .misc else .text 0 []

/-- The node of character data read, if any. -/
def textNodes (s : List Char) : List Node := if s = [] then [] else [.text ⟨s⟩]

/-- Character data read so far becomes a child of the innermost element. -/
def flush (s : List Char) : List Frame → List Frame
  | f :: fs => { f with children := f.children ++ textNodes s } :: fs
  | [] => []

/-- A complete element becomes a child of the innermost open element, or the
    root; a second root is an error. -/
def add (r : Reader) (e : Node) : Option Reader :=
  match r.stack with
  | f :: fs => some ⟨.text 0 [], { f with children := f.children ++ [e] } :: fs, r.root⟩
  | [] => if r.root.isNone then some ⟨.misc, [], some e⟩ else none

/-- `>` of a start tag: the element opens, if its attribute names are distinct
    and it is not a second root. -/
def openElement (r : Reader) (n : String) (as : List (String × String)) : Option Reader :=
  if (as.map Prod.fst).Nodup ∧ (!r.stack.isEmpty || r.root.isNone) then
    some ⟨.text 0 [], ⟨n, as, []⟩ :: r.stack, r.root⟩
  else none

/-- `/>` of an empty-element tag. -/
def emptyElement (r : Reader) (n : String) (as : List (String × String)) : Option Reader :=
  if (as.map Prod.fst).Nodup then r.add (.element n as []) else none

/-- `>` of an end tag: it must close the innermost open element. -/
def closeElement (r : Reader) (n : String) : Option Reader :=
  match r.stack with
  | f :: fs => if f.name = n then { r with stack := fs }.add (.element f.name f.attrs f.children) else none
  | [] => none

/-- The root element, when the document has ended after it. -/
def finish (r : Reader) : Option Node :=
  match r.mode, r.stack with
  | .misc, [] => r.root
  | _, _ => none

end Reader

/-- The reader after one more character, or `none` where the document stops
    being well-formed. -/
def step (r : Reader) (c : Char) : Option Reader :=
  if !isXmlChar c then none else
  match r.mode with
  | .misc =>
    if isSpace c then some r
    else if c = '<' then some { r with mode := .markup }
    else none
  | .text k s =>
    if c = '<' then some ⟨.markup, Reader.flush s r.stack, r.root⟩
    else if c = '&' then some { r with mode := .ref s [] }
    else if c = '>' ∧ 2 ≤ k then none
    else some { r with mode := .text (if c = ']' then k + 1 else 0) (s ++ utf8Bytes c) }
  | .ref s e =>
    if c = ';' then (decodeRef e).map fun d => { r with mode := .text 0 (s ++ utf8Bytes d) }
    else if inRanges nameRanges c || c = '#' then some { r with mode := .ref s (e ++ [c]) }
    else none
  | .markup =>
    if c = '?' then some { r with mode := .pi false }
    else if c = '/' then some { r with mode := .etag [] }
    else if inRanges nameStartRanges c then some { r with mode := .stag (utf8Bytes c) }
    else none
  | .pi q =>
    if q ∧ c = '>' then some { r with mode := r.resume }
    else some { r with mode := .pi (c = '?') }
  | .stag n =>
    if inRanges nameRanges c then some { r with mode := .stag (n ++ utf8Bytes c) }
    else if isSpace c then some { r with mode := .tag ⟨n⟩ [] true }
    else if c = '>' then r.openElement ⟨n⟩ []
    else if c = '/' then some { r with mode := .slash ⟨n⟩ [] }
    else none
  | .tag n as sp =>
    if isSpace c then some { r with mode := .tag n as true }
    else if c = '>' then r.openElement n as
    else if c = '/' then some { r with mode := .slash n as }
    else if sp ∧ inRanges nameStartRanges c then some { r with mode := .aname n as (utf8Bytes c) }
    else none
  | .aname n as a =>
    if inRanges nameRanges c then some { r with mode := .aname n as (a ++ utf8Bytes c) }
    else if isSpace c then some { r with mode := .eq n as ⟨a⟩ }
    else if c = '=' then some { r with mode := .quote n as ⟨a⟩ }
    else none
  | .eq n as a =>
    if isSpace c then some r
    else if c = '=' then some { r with mode := .quote n as a }
    else none
  | .quote n as a =>
    if isSpace c then some r
    else if c = '"' ∨ c = Char.ofNat 39 then some { r with mode := .aval n as a c [] }
    else none
  | .aval n as a q v =>
    if c = q then some { r with mode := .tag n (as ++ [(a, ⟨v⟩)]) false }
    else if c = '<' then none
    else if c = '&' then some { r with mode := .aref n as a q v [] }
    else some { r with mode := .aval n as a q (v ++ utf8Bytes (if isSpace c then ' ' else c)) }
  | .aref n as a q v e =>
    if c = ';' then (decodeRef e).map fun d => { r with mode := .aval n as a q (v ++ utf8Bytes d) }
    else if inRanges nameRanges c || c = '#' then some { r with mode := .aref n as a q v (e ++ [c]) }
    else none
  | .slash n as => if c = '>' then r.emptyElement n as else none
  | .etag n =>
    if inRanges nameRanges c then some { r with mode := .etag (n ++ utf8Bytes c) }
    else if isSpace c then some { r with mode := .etagEnd ⟨n⟩ }
    else if c = '>' then r.closeElement ⟨n⟩
    else none
  | .etagEnd n =>
    if isSpace c then some r
    else if c = '>' then r.closeElement n
    else none

/-- The reader after some characters, from `r`. -/
def readList (r : Option Reader) (l : List Char) : Option Reader :=
  l.foldl (fun r c => r.bind (step · c)) r

/-- The reader after one more byte, with the sequence begun: the decoder takes
    the byte, and each character it completes goes to the reader. -/
def stepByte (st : Option (List Char × Reader)) (b : Char) : Option (List Char × Reader) :=
  st.bind fun (pend, r) => (utf8Push pend b).bind fun
    | (pend', none) => some (pend', r)
    | (pend', some c) => (step r c).map (pend', ·)

/-- The reader after the bytes of a string, from `st`. -/
def readBytes (st : Option (List Char × Reader)) (s : String) : Option (List Char × Reader) :=
  s.data.foldl stepByte st

/-- The root element of a well-formed document. -/
def read (s : String) : Option Node :=
  match readBytes (some ([], .init)) s with
  | some ([], r) => r.finish
  | _ => none

/-! ## Reading piece by piece -/

@[simp] theorem readList_nil (r : Option Reader) : readList r [] = r := rfl

@[simp] theorem readList_none (l : List Char) : readList none l = none := by
  induction l with
  | nil => rfl
  | cons c l ih => exact ih

theorem readList_cons (r : Reader) (c : Char) (l : List Char) :
    readList (some r) (c :: l) = readList (step r c) l := rfl

theorem readBytes_append (st : Option (List Char × Reader)) (a b : String) :
    readBytes st (a ++ b) = readBytes (readBytes st a) b := by
  simp only [readBytes, String.data_append, List.foldl_append]

theorem foldl_stepByte_none (l : List Char) : l.foldl stepByte none = none := by
  induction l with
  | nil => rfl
  | cons b l ih => exact ih

/-- Reading bytes is decoding them, then reading the characters decoded. -/
theorem foldl_stepByte (l p : List Char) (r : Reader) :
    l.foldl stepByte (some (p, r)) =
      (utf8DecodeFrom p l).bind fun (cs, q) => (readList (some r) cs).map (q, ·) := by
  induction l generalizing p r with
  | nil => rfl
  | cons b l ih =>
    rw [List.foldl_cons, utf8DecodeFrom]
    rcases hp : utf8Push p b with _ | ⟨p', _ | c⟩
    · simp [stepByte, hp, foldl_stepByte_none]
    · simp [stepByte, hp, ih, Option.bind_map, Function.comp_def]
    · rcases hc : step r c with _ | r'
      · rcases hd : utf8DecodeFrom p' l with _ | ⟨cs, q⟩ <;>
          simp [stepByte, hp, hc, hd, foldl_stepByte_none, readList_cons]
      · simp [stepByte, hp, hc, ih, Option.bind_map, Function.comp_def, readList_cons]

theorem readBytes_eq (p : List Char) (r : Reader) (s : String) :
    readBytes (some (p, r)) s =
      (utf8DecodeFrom p s.data).bind fun (cs, q) => (readList (some r) cs).map (q, ·) :=
  foldl_stepByte s.data p r

/-- A document is read as the text its bytes encode: no document is read from
    bytes that are not UTF-8. -/
theorem read_eq (s : String) :
    read s = (utf8Decode s.data).bind fun cs => (readList (some .init) cs).bind Reader.finish := by
  unfold read utf8Decode
  rw [readBytes_eq]
  rcases utf8DecodeFrom [] s.data with _ | ⟨cs, _ | ⟨b, q⟩⟩
  · rfl
  all_goals rcases hr : readList (some .init) cs with _ | r <;> simp [hr]

/-! ## Values that read as themselves -/

/-- A character that stands for itself in an attribute value between double
    quotes. -/
def attrChar (c : Char) : Bool :=
  isXmlChar c && c != '"' && c != '&' && c != '<' && c != '\t' && c != '\n'

/-- A character that stands for itself in character data. -/
def textChar (c : Char) : Bool := isXmlChar c && c != '&' && c != '<'

/-- A string of UTF-8 that reads as itself between double quotes. -/
def AttrText (s : String) : Prop := ∃ t, utf8Decode s.data = some t ∧ ∀ c ∈ t, attrChar c = true

/-- A string of UTF-8 that reads as itself as character data. -/
def CharText (s : String) : Prop :=
  ∃ t, utf8Decode s.data = some t ∧ (∀ c ∈ t, textChar c = true) ∧ ¬ [']', ']', '>'] <:+: t

instance : DecidablePred AttrText := fun s =>
  decidable_of_iff (∃ t ∈ (utf8Decode s.data).toList, ∀ c ∈ t, attrChar c = true)
    (by simp [AttrText])

instance : DecidablePred CharText := fun s =>
  decidable_of_iff (∃ t ∈ (utf8Decode s.data).toList,
    (∀ c ∈ t, textChar c = true) ∧ ¬ [']', ']', '>'] <:+: t) (by simp [CharText])

/-- Text of characters below `0x80` is its own encoding. -/
theorem attrText_of_ascii {s : String} (h : ∀ c ∈ s.data, c.toNat < 0x80 ∧ attrChar c = true) :
    AttrText s :=
  ⟨s.data, utf8Decode_ascii fun c hc => (h c hc).1, fun c hc => (h c hc).2⟩

theorem step_aval {c : Char} (hc : attrChar c = true) (n : String) (as : List (String × String))
    (a : String) (v : List Char) (st : List Frame) (rt : Option Node) :
    step ⟨.aval n as a '"' v, st, rt⟩ c = some ⟨.aval n as a '"' (v ++ utf8Bytes c), st, rt⟩ := by
  simp only [attrChar, Bool.and_eq_true, bne_iff_ne, ne_eq] at hc
  obtain ⟨⟨⟨⟨⟨hx, hq⟩, ha⟩, hl⟩, ht⟩, hn⟩ := hc
  have hsp : (if isSpace c then ' ' else c) = c := by
    by_cases h : c = ' ' <;> simp [isSpace, h, ht, hn]
  simp only [step, hx, Bool.not_true, Bool.false_eq_true, if_false, hq, hl, ha, hsp]

theorem readList_attrValue {l : List Char} (hl : ∀ c ∈ l, attrChar c = true) (n : String)
    (as : List (String × String)) (a : String) (w : List Char) (st : List Frame)
    (rt : Option Node) :
    readList (some ⟨.aval n as a '"' w, st, rt⟩) l =
      some ⟨.aval n as a '"' (w ++ l.flatMap utf8Bytes), st, rt⟩ := by
  induction l generalizing w with
  | nil => simp
  | cons c l ih =>
    rw [readList_cons, step_aval (hl c (List.mem_cons_self c l)),
      ih (fun d hd => hl d (List.mem_cons_of_mem c hd))]
    simp

theorem readBytes_attrValue {v : String} (hv : AttrText v) (n : String)
    (as : List (String × String)) (a : String) (w : List Char) (st : List Frame)
    (rt : Option Node) :
    readBytes (some ([], ⟨.aval n as a '"' w, st, rt⟩)) v =
      some ([], ⟨.aval n as a '"' (w ++ v.data), st, rt⟩) := by
  obtain ⟨t, hd, ht⟩ := hv
  rw [readBytes_eq, utf8Decode_eq_some.mp hd, Option.some_bind]
  simp [readList_attrValue ht, bytes_of_utf8Decode hd]

theorem step_text {c : Char} (hc : textChar c = true) {k : Nat} (hk : c = '>' → k < 2)
    (s : List Char) (st : List Frame) (rt : Option Node) :
    step ⟨.text k s, st, rt⟩ c =
      some ⟨.text (if c = ']' then k + 1 else 0) (s ++ utf8Bytes c), st, rt⟩ := by
  simp only [textChar, Bool.and_eq_true, bne_iff_ne, ne_eq] at hc
  obtain ⟨⟨hx, ha⟩, hl⟩ := hc
  have hgt : ¬ (c = '>' ∧ 2 ≤ k) := fun h => absurd (hk h.1) (by omega)
  simp only [step, hx, Bool.not_true, Bool.false_eq_true, if_false, hl, ha, hgt]

/-- Character data goes on as long as no `]]>` forms, counting the `]` read
    just before it. -/
theorem readList_charData {l : List Char} (hl : ∀ c ∈ l, textChar c = true) {k : Nat}
    (hb : ¬ [']', ']', '>'] <:+: List.replicate k ']' ++ l) (s : List Char) (st : List Frame)
    (rt : Option Node) :
    ∃ k', readList (some ⟨.text k s, st, rt⟩) l =
      some ⟨.text k' (s ++ l.flatMap utf8Bytes), st, rt⟩ := by
  induction l generalizing k s with
  | nil => exact ⟨k, by simp⟩
  | cons c l ih =>
    have hk : c = '>' → k < 2 := by
      rintro rfl
      by_contra h
      obtain ⟨j, rfl⟩ : ∃ j, k = j + 2 := ⟨k - 2, by omega⟩
      exact hb ⟨List.replicate j ']', l, by simp [List.replicate_add]⟩
    have hb' : ¬ [']', ']', '>'] <:+: List.replicate (if c = ']' then k + 1 else 0) ']' ++ l := by
      split_ifs with hc
      · subst hc
        rwa [List.replicate_succ', List.append_assoc, List.singleton_append]
      · exact fun h => hb (h.trans
          ((List.suffix_append (List.replicate k ']' ++ [c]) l).isInfix.trans (by simp)))
    obtain ⟨k', hk'⟩ := ih (fun d hd => hl d (List.mem_cons_of_mem c hd)) hb' (s ++ utf8Bytes c)
    exact ⟨k', by rw [readList_cons, step_text (hl c (List.mem_cons_self c l)) hk, hk']; simp⟩

theorem readBytes_charData {v : String} (hv : CharText v) (s : List Char) (st : List Frame)
    (rt : Option Node) :
    ∃ k, readBytes (some ([], ⟨.text 0 s, st, rt⟩)) v = some ([], ⟨.text k (s ++ v.data), st, rt⟩) := by
  obtain ⟨t, hd, ht, hb⟩ := hv
  obtain ⟨k, hk⟩ := readList_charData ht (k := 0) (by simpa using hb) s st rt
  refine ⟨k, ?_⟩
  rw [readBytes_eq, utf8Decode_eq_some.mp hd, Option.some_bind]
  simp [hk, bytes_of_utf8Decode hd]

/-! ## Numbers

What `<<` writes for a number reads as itself anywhere. -/

theorem clean_of_isDigit {c : Char} (h : c.isDigit = true) :
    c.toNat < 0x80 ∧ attrChar c = true ∧ textChar c = true ∧ c ≠ ']' := by
  simp only [Char.isDigit, Bool.and_eq_true, decide_eq_true_eq] at h
  have h48 : 48 ≤ c.toNat := UInt32.le_toNat_of_le (by decide) h.1
  have h57 : c.toNat ≤ 57 := UInt32.toNat_le_of_le (by decide) h.2
  have key : ∀ n < 58, 48 ≤ n → (Char.ofNat n).toNat < 0x80 ∧
      attrChar (Char.ofNat n) = true ∧ textChar (Char.ofNat n) = true ∧ Char.ofNat n ≠ ']' := by
    decide
  rw [← Char.ofNat_toNat c]
  exact key _ (by omega) h48

theorem attrText_toString_int (x : Int) : AttrText (toString x) := attrText_of_ascii fun c hc => by
  rcases isDigit_of_mem_toString hc with h | ⟨-, rfl⟩
  · exact ⟨(clean_of_isDigit h).1, (clean_of_isDigit h).2.1⟩
  · decide

theorem attrText_toString_nat (n : Nat) : AttrText (toString n) := attrText_of_ascii fun _ hc =>
  have h := clean_of_isDigit (isDigit_of_mem_toDigits hc)
  ⟨h.1, h.2.1⟩

theorem charText_toString_nat (n : Nat) : CharText (toString n) := by
  have hc : ∀ c ∈ (toString n).data, c.toNat < 0x80 ∧ attrChar c = true ∧ textChar c = true ∧ c ≠ ']' :=
    fun _ hc => clean_of_isDigit (isDigit_of_mem_toDigits hc)
  exact ⟨_, utf8Decode_ascii fun c h => (hc c h).1, fun c h => (hc c h).2.2.1,
    fun h => (hc _ (h.subset (List.mem_cons_self _ _))).2.2.2 rfl⟩

theorem attrText_toString_cint (x : CInt) : AttrText (toString x) := attrText_toString_int x.val

end Xml

end MediastorageProxy
