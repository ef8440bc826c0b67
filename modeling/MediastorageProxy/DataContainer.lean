import MediastorageProxy.Cpp

/-!
# The data container

The envelope the proxy stores in place of an uploaded body: the payload, and
side records embedded in front of it. Its code (`data_container.hpp`) is not in
the sources; it is modelled from the spec: `pack` writes the number of embeds,
then each embed's tag and fixed-size value, then the payload; `unpack` reads
them back only when the caller says the bytes hold embeds, and otherwise takes
the whole input as the payload. The only embed defined is the timestamp, two
8-byte words (seconds and nanoseconds).

The spec gives neither the width of the count and of the tag nor the tag's
code: both are written here as 8-byte little-endian words, like the
timestamp's, and the timestamp's tag is `embedTimestamp`.

* `unpack_pack`: a container with fewer than `2^64` embeds is read back as it
  was packed, when `unpack` is told it holds embeds;
* `unpack_false`: told it holds none, `unpack` keeps all the bytes as the
  payload — the count field of a container packed without embeds included.
-/

namespace MediastorageProxy

/-- A `timespec`: seconds (a `time_t`) and nanoseconds (a `long`), as the bits
    of two 64-bit words. -/
structure Timespec where
  tvSec : UInt64
  tvNsec : UInt64
  deriving DecidableEq, Repr

/-- Modelled from the spec: an embedded record of a data container
    (`data_container.hpp` is missing); the timestamp is the only one defined. -/
inductive Embed
  | timestamp (ts : Timespec)
  deriving DecidableEq, Repr

/-- Modelled from the spec: `elliptics::data_container_t` (missing), the
    payload and its embeds, in insertion order. -/
structure DataContainer where
  data : String
  embeds : List Embed
  deriving DecidableEq, Repr

namespace DataContainer

/-- Modelled from the spec: `data_container_t dc(data)`, a container with no
    embeds. -/
def ofData (data : String) : DataContainer := ⟨data, []⟩

/-- Modelled from the spec: `embeds_count()`. -/
def embedsCount (dc : DataContainer) : Nat := dc.embeds.length

/-- Modelled from the spec: `dc.set<DNET_FCGI_EMBED_TIMESTAMP>(ts)`, which
    replaces the container's timestamp. -/
def setTimestamp (ts : Timespec) (dc : DataContainer) : DataContainer :=
  { dc with embeds := dc.embeds.filter (fun | .timestamp _ => false) ++ [.timestamp ts] }

/-- Modelled from the spec: `dc.get<DNET_FCGI_EMBED_TIMESTAMP>()`, the first
    timestamp embedded, if any. -/
def getTimestamp (dc : DataContainer) : Option Timespec :=
  dc.embeds.findSome? fun | .timestamp ts => some ts

end DataContainer

/-! ## Byte layout -/

/-- The `width` little-endian bytes of `n`, a character each. -/
def leBytes : Nat → Nat → List Char
  | 0, _ => []
  | width + 1, n => Char.ofNat (n % 256) :: leBytes width (n / 256)

/-- The value of little-endian bytes. -/
def leValue : List Char → Nat
  | [] => 0
  | b :: bs => b.toNat % 256 + 256 * leValue bs

/-- The 8 little-endian bytes of a 64-bit word. -/
def word (n : UInt64) : List Char := leBytes 8 n.toNat

/-- Modelled from the spec: the tag of the timestamp embed. -/
def embedTimestamp : UInt64 := 2

/-- Modelled from the spec: what `unpack` throws on bytes that end inside the
    embeds, or hold an unknown tag. -/
def malformedEmbeds : Abort := .exception "data container: malformed embed region"

/-- Modelled from the spec: an embed's tag and its fixed-size value. -/
def Embed.bytes : Embed → List Char
  | .timestamp ts => word embedTimestamp ++ word ts.tvSec ++ word ts.tvNsec

/-- Modelled from the spec: `data_container_t::pack`, the number of embeds,
    each embed, then the payload. -/
def pack (dc : DataContainer) : String :=
  ⟨word (UInt64.ofNat dc.embeds.length) ++ dc.embeds.flatMap Embed.bytes ++ dc.data.data⟩

/-- Modelled from the spec: read one 64-bit word. -/
def readWord (l : List Char) : Except Abort (UInt64 × List Char) :=
  if 8 ≤ l.length then .ok (UInt64.ofNat (leValue (l.take 8)), l.drop 8) else .error malformedEmbeds

/-- Modelled from the spec: read one embed, by its tag. -/
def readEmbed (l : List Char) : Except Abort (Embed × List Char) := do
  let (tag, l) ← readWord l
  if tag = embedTimestamp then
    let (sec, l) ← readWord l
    let (nsec, l) ← readWord l
    return (.timestamp ⟨sec, nsec⟩, l)
  else throw malformedEmbeds

/-- Modelled from the spec: read `count` embeds. -/
def readEmbeds : Nat → List Char → Except Abort (List Embed × List Char)
  | 0, l => .ok ([], l)
  | count + 1, l => do
    let (e, l) ← readEmbed l
    let (es, l) ← readEmbeds count l
    return (e :: es, l)

/-- Modelled from the spec: `data_container_t::unpack(data, embeded)`. Without
    embeds, the whole input is the payload; with them, the count, the embeds,
    and the rest as the payload. -/
def unpack (s : String) (embeded : Bool) : Except Abort DataContainer :=
  if embeded then do
    let (count, l) ← readWord s.data
    let (es, l) ← readEmbeds count.toNat l
    return ⟨⟨l⟩, es⟩
  else .ok ⟨s, []⟩

/-! ## Round trip -/

theorem toNat_ofNat_of_lt {n : Nat} (h : n < 256) : (Char.ofNat n).toNat = n := by
  rw [Char.ofNat, dif_pos (Or.inl (by omega))]
  rfl

@[simp] theorem length_leBytes (width n : Nat) : (leBytes width n).length = width := by
  induction width generalizing n <;> simp [leBytes, *]

theorem leValue_leBytes (width n : Nat) : leValue (leBytes width n) = n % 256 ^ width := by
  induction width generalizing n with
  | zero => simp [leBytes, leValue, Nat.mod_one]
  | succ width ih =>
    rw [leBytes, leValue, ih, toNat_ofNat_of_lt (Nat.mod_lt n (by decide)), Nat.mod_mod,
      Nat.pow_succ', Nat.mod_mul]

@[simp] theorem length_word (n : UInt64) : (word n).length = 8 := length_leBytes 8 _

theorem readWord_word (n : UInt64) (l : List Char) : readWord (word n ++ l) = .ok (n, l) := by
  have hv : UInt64.ofNat (leValue (word n)) = n := by
    have hlt : n.toNat < 256 ^ 8 := n.toNat_lt_size
    rw [word, leValue_leBytes, Nat.mod_eq_of_lt hlt]
    exact UInt64.toNat.inj (UInt64.toNat_ofNat_of_lt n.toNat_lt_size)
  simp only [readWord, List.length_append, length_word, List.take_left' (length_word n),
    List.drop_left' (length_word n), hv, if_pos (Nat.le_add_right 8 _)]

theorem readEmbed_bytes (e : Embed) (l : List Char) : readEmbed (e.bytes ++ l) = .ok (e, l) := by
  cases e with
  | timestamp ts =>
    simp [readEmbed, Embed.bytes, readWord_word, bind, Except.bind, pure, Except.pure]

theorem readEmbeds_flatMap (es : List Embed) (l : List Char) :
    readEmbeds es.length (es.flatMap Embed.bytes ++ l) = .ok (es, l) := by
  induction es with
  | nil => rfl
  | cons e es ih =>
    simp [readEmbeds, readEmbed_bytes, ih, bind, Except.bind, pure, Except.pure]

theorem unpack_pack (dc : DataContainer) (h : dc.embeds.length < 2 ^ 64) :
    unpack (pack dc) true = .ok dc := by
  have hc : (UInt64.ofNat dc.embeds.length).toNat = dc.embeds.length := Nat.mod_eq_of_lt h
  simp [unpack, pack, readWord_word, hc, readEmbeds_flatMap, bind, Except.bind, pure,
    Except.pure]

@[simp] theorem unpack_false (s : String) : unpack s false = .ok ⟨s, []⟩ := rfl

end MediastorageProxy
