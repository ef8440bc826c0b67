import MediastorageProxy.Cpp

/-!
# The collaborators

What the proxy calls but does not implement, as far as its results depend on
it:

* the elliptics storage client: keys, the per-request `Session` (groups,
  success checker, result filter, user flags, error handler), the asynchronous
  operations the proxy issues (`StorageOp`), the per-node result entries they
  deliver (`ResultEntry`) and the aggregate `ErrorInfo`; and the node's
  state (`Node`): its number of live states and the conversions of ids and
  addresses;
* the balancer, `mastermind`, which chooses groups (`Mastermind`);
* the namespaces read from the configuration (`Namespace`);
* the C library: `gmtime_r`, computed here (`gmtimeR`), and the conversions
  the proxy only forwards (`Libc`).

`gmtimeR` follows POSIX: the proleptic Gregorian calendar in UTC, and `NULL`
when the year does not fit `tm_year`, an `int` counted from 1900.
-/

namespace MediastorageProxy

/-! ## The storage client -/

/-- An elliptics key by name (`ioremap::elliptics::key(std::string)`), the
    only kind the proxy builds. -/
structure Key where
  remote : String
  deriving DecidableEq, Repr

/-- How a multi-group operation decides success from its per-group results
    (`ioremap::elliptics::checkers`). -/
inductive Checker
  | all
  | quorum
  | atLeastOne
  deriving DecidableEq, Repr

/-- Which per-group results an operation delivers (`filters`): by default the
    successful ones, or all of them. -/
inductive Filter
  | positive
  | all
  deriving DecidableEq, Repr

/-- What the storage client does after a failed write (`error_handlers`). -/
inductive ErrorHandler
  | none
  | removeOnFail
  deriving DecidableEq, Repr

/-- The per-request state of the storage client (`ioremap::elliptics::session`). -/
structure Session where
  groups : List CInt
  checker : Checker
  filter : Filter
  userFlags : UInt64
  errorHandler : ErrorHandler
  deriving DecidableEq, Repr

/-- An asynchronous storage operation, with its arguments. -/
inductive StorageOp
  | writePrepare (key : Key) (data : String) (offset size : UInt64)
  | writeCommit (key : Key) (data : String) (offset size : UInt64)
  | writePlain (key : Key) (data : String) (offset : UInt64)
  | writeData (key : Key) (data : String) (offset chunkSize : UInt64)
  | readData (key : Key) (offset size : UInt64)
  | remove (key : Key)
  | lookup (key : Key)
  | statLog
  deriving DecidableEq, Repr

/-- Whether an operation changes what the storage holds. -/
def StorageOp.isMutation : StorageOp → Bool
  | .writePrepare .. | .writeCommit .. | .writePlain .. | .writeData .. | .remove _ => true
  | .readData .. | .lookup _ | .statLog => false

/-- The key and the data of a write. -/
def StorageOp.written : StorageOp → Option (Key × String)
  | .writePrepare k d .. | .writeCommit k d .. | .writePlain k d _ | .writeData k d .. => some (k, d)
  | .readData .. | .remove _ | .lookup _ | .statLog => none

/-- A node's address (`struct dnet_addr`): the bytes of its socket address. -/
structure DnetAddr where
  addr : List UInt8
  family : Nat
  deriving DecidableEq, Repr

/-- The reply header of a node (`struct dnet_cmd`): the id it answers for,
    with its group, and its status, `0` on success. -/
structure DnetCmd where
  id : List UInt8
  groupId : UInt32
  status : Int
  deriving DecidableEq, Repr

/-- A file's place on a node (`struct dnet_file_info`): the offset and size of
    the record, and the path stored after the fixed fields. -/
structure DnetFileInfo where
  offset : UInt64
  size : UInt64
  path : String
  deriving DecidableEq, Repr

/-- A node's statistics (`struct dnet_stat`), the fields the proxy reports:
    the three load averages (`la[3]`, in hundredths), the file system's block
    sizes and counts, its id, and the memory figures. -/
structure DnetStat where
  la : UInt64 × UInt64 × UInt64
  bsize : UInt64
  frsize : UInt64
  blocks : UInt64
  bavail : UInt64
  files : UInt64
  fsid : UInt64
  vmTotal : UInt64
  vmFree : UInt64
  vmCached : UInt64
  deriving DecidableEq, Repr

/-- One node's result of an operation (`callback_result_entry` and its
    subclasses): its address and reply header, and the parts a lookup, a read
    or a statistics request fill in. -/
structure ResultEntry where
  address : DnetAddr
  command : DnetCmd
  fileInfo : DnetFileInfo
  userFlags : UInt64
  file : String
  statistics : DnetStat
  deriving DecidableEq, Repr

/-- `entry.error()`: set when the node's status is not `0`. -/
def ResultEntry.hasError (e : ResultEntry) : Bool := e.command.status ≠ 0

/-- The aggregate error of an operation (`error_info`), set when its code is
    not `0`. -/
structure ErrorInfo where
  code : Int
  message : String
  deriving DecidableEq, Repr

/-- `if (error)`. -/
def ErrorInfo.isSet (e : ErrorInfo) : Bool := e.code ≠ 0

/-- `-ENOENT`, the code of a key found nowhere. -/
def enoent : Int := -2

/-- The node the proxy's sessions are cloned from: its number of live states
    (`state_num()`), and the conversions it performs — a key's name to its id
    (`transform`) and an address to text (`dnet_server_convert_dnet_addr_raw`). -/
structure Node where
  stateNum : Int
  transform : String → List UInt8
  convertAddr : DnetAddr → String

/-- `int` from the `uint32_t` group of an id, as C++ converts it. -/
def DnetCmd.group (c : DnetCmd) : CInt :=
  if h : c.groupId.toNat < 2 ^ 31 then ⟨c.groupId.toNat, by omega, by omega⟩
  else ⟨c.groupId.toNat - 2 ^ 32, by have := c.groupId.toNat_lt_size; simp [UInt32.size] at this; omega,
    by have := c.groupId.toNat_lt_size; simp [UInt32.size] at this; omega⟩

/-- `dnet_dump_id_len_raw(id, len, dst)`: the first `len` bytes of an id in
    lower-case hexadecimal, two digits a byte. -/
def dumpIdLenRaw (id : List UInt8) (len : Nat) : String :=
  ⟨(id.take len).flatMap fun b => [Nat.digitChar (b.toNat / 16), Nat.digitChar (b.toNat % 16)]⟩

/-- `DNET_ID_SIZE`, the bytes of an id. -/
def dnetIdSize : Nat := 64

/-! ## The balancer and the namespaces -/

/-- The balancer (`elliptics::mastermind_t`): the groups it chooses, and its
    tables rendered as JSON. -/
structure Mastermind where
  getMetabalancerGroups : Int → String → List CInt
  getSymmetricGroups : CInt → List CInt
  getCacheGroups : String → List CInt
  jsonGroupWeights : String
  jsonSymmetricGroups : String
  jsonBadGroups : String
  jsonCacheGroups : String

/-- A namespace of the configuration (`elliptics::namespace_t`). -/
structure Namespace where
  name : String
  groupsCount : Int
  resultChecker : Checker
  authKey : String
  deriving DecidableEq, Repr

/-- `namespace_t()`, what `get_file_info` returns for a name not configured: its
    name is empty. (Its checker is never used: the handlers reject an empty
    name first.) -/
def Namespace.empty : Namespace := ⟨"", 0, .atLeastOne, ""⟩

/-! ## The C library -/

/-- A broken-down time (`struct tm`), the fields `strftime` reads here. -/
structure Tm where
  sec : Int
  min : Int
  hour : Int
  mday : Int
  mon : Int
  year : Int
  wday : Int
  deriving DecidableEq, Repr

/-- `gmtime_r(&t, &tm)`: the UTC broken-down time `t` seconds after the epoch,
    in the proleptic Gregorian calendar; `NULL` (`none`) when the year does not
    fit `tm_year`, an `int` counted from 1900. (The civil date from the day
    number, era by era of 400 years.) -/
def gmtimeR (t : Int) : Option Tm :=
  let days := t / 86400
  let rem := t % 86400
  let z := days + 719468
  let era := z / 146097
  let doe := z - era * 146097
  let yoe := (doe - doe / 1460 + doe / 36524 - doe / 146096) / 365
  let doy := doe - (365 * yoe + yoe / 4 - yoe / 100)
  let mp := (5 * doy + 2) / 153
  let mday := doy - (153 * mp + 2) / 5 + 1
  let mon := if mp < 10 then mp + 3 else mp - 9
  let year := yoe + era * 400 + if mon ≤ 2 then 1 else 0
  if -2 ^ 31 ≤ year - 1900 ∧ year - 1900 < 2 ^ 31 then
    some ⟨rem % 60, rem / 60 % 60, rem / 3600, mday, mon - 1, year - 1900, (days + 4) % 7⟩
  else none

example : gmtimeR 0 = some ⟨0, 0, 0, 1, 0, 70, 4⟩ := by decide

/-- The value of a `time_t`, a signed 64-bit integer, from its bits. -/
def timeT (bits : UInt64) : Int := bits.toBitVec.toInt

/-- The conversions of the C library and of the C++ streams the proxy only
    forwards: reverse name resolution (`getnameinfo`), the rendering of a
    broken-down time by `strftime` with `"%a, %d %b %Y %T %Z"`, and the text
    `std::fixed << std::setprecision(2)` writes for a load average `la`
    (`static_cast<float>(la) / 100.0`). -/
structure Libc where
  getnameinfo : DnetAddr → Option String
  strftime : Tm → String
  formatLa : UInt64 → String

end MediastorageProxy
